import FleetGate.Proofs.Database.Sent

/-!
# Inserted rows

An insertion succeeds exactly when its draft describes a record and no row of the table has its
identifier or its account; then a row with the cells that the draft sends stands at the end of the
table. Reading the row gives the record that the draft describes.
-/

namespace FleetGate

namespace Record

variable {position : Nat} {moment : Timestamp} {given : Entries Given}

/-! ## Making rows -/

/-- The cells of a new row stand under the names of their columns. -/
theorem newCell_of_newCells {columns : List Column} (distinct : (columns.map (·.name)).Nodup)
    {cells : Entries Cell} (made : newCells position moment given columns = .ok cells) :
    ∀ column ∈ columns, newCell column position moment given =
      .ok ((⟨cells⟩ : Row).cell (Text.ofString column.name)) := by
  induction columns generalizing cells with
  | nil => simp
  | cons first others ih =>
      rcases List.nodup_cons.1 distinct with ⟨fresh, othersDistinct⟩
      rw [newCells] at made
      cases own : newCell first position moment given with
      | error fault => simp [own] at made
      | ok cell =>
          cases later : newCells position moment given others with
          | error fault => simp [own, later, Except.map] at made
          | ok rest =>
              simp only [own, later, Except.map, Except.ok.injEq] at made
              subst made
              intro column listed
              rcases List.mem_cons.1 listed with rfl | listed
              · simp [own, Row.cell, Entries.find]
              · have other : Text.ofString first.name ≠ Text.ofString column.name := by
                  intro same
                  exact fresh (List.mem_map.2 ⟨column, listed, (Text.ofString_injective same).symm⟩)
                have found := ih othersDistinct later column listed
                simpa [Row.cell, Entries.find, other] using found

theorem exists_newCells {columns : List Column}
    (all : ∀ column ∈ columns, ∃ cell, newCell column position moment given = .ok cell) :
    ∃ cells, newCells position moment given columns = .ok cells := by
  induction columns with
  | nil => exact ⟨[], rfl⟩
  | cons first others ih =>
      rcases all first (by simp) with ⟨cell, own⟩
      rcases ih fun column listed => all column (by simp [listed]) with ⟨rest, later⟩
      exact ⟨(Text.ofString first.name, cell) :: rest, by simp [newCells, own, later, Except.map]⟩

end Record

namespace Draft

/-- The cells that a draft sends, by their columns. -/
def cell (draft : Draft) (moment : Moment) : String → Except Fault Cell :=
  match draft with
  | driver draft => draft.cell moment
  | user draft => draft.cell moment

theorem newCell_eq_cell (draft : Draft) (moment : Moment) (position : Nat) :
    ∀ column ∈ draft.table.columns,
      Record.newCell column position moment.timestamp (Given.ofFields draft.fields) =
        draft.cell moment column.name := by
  cases draft with
  | driver draft => exact draft.newCell_eq_cell moment position
  | user draft => exact draft.newCell_eq_cell moment position

/-- The fields of a draft are columns of its table. -/
theorem column?_isSome (draft : Draft) :
    ((Given.ofFields draft.fields).any fun (name, _) => (draft.table.column? name).isNone) =
      false := by
  have names : draft.fields.map (·.1) = draft.table.columns.map (·.name) := by
    cases draft <;> rfl
  rw [List.any_eq_false]
  rintro ⟨name, value⟩ listed
  rcases List.mem_filterMap.1 listed with ⟨⟨own, given⟩, field, sent⟩
  have isName : own ∈ draft.table.columns.map (·.name) := by
    rw [← names]
    exact List.mem_map.2 ⟨_, field, rfl⟩
  rcases List.mem_map.1 isName with ⟨column, isColumn, rfl⟩
  rcases Option.map_eq_some_iff.1 sent with ⟨value, _, same⟩
  cases same
  have found : (draft.table.column? (Text.ofString column.name)).isSome = true := by
    rw [TableName.column?, List.find?_isSome]
    exact ⟨column, isColumn, by simp⟩
  simp [Option.isNone_eq_false_iff.2 found]

end Draft

/-- The row holds what the draft of an insertion sends, and no mandatory cell is null. -/
structure Row.IsMade (row : Row) (insertion : Insertion) : Prop where
  cells : ∀ column ∈ insertion.table.columns,
    insertion.draft.cell insertion.moment column.name = .ok (row.cell (Text.ofString column.name))
  filled : ∀ column ∈ insertion.table.columns, column.isOptional = false →
    (row.cell (Text.ofString column.name)).isNull = false

theorem TableName.columns_distinct (table : TableName) :
    (table.columns.map (·.name)).Nodup := by
  cases table <;> simp [columns]

namespace Database

/-- A row keeps the rules if its mandatory cells are filled and its identifier and its account
are new. -/
theorem breaksRules_eq_false_iff {table : TableName} {others : List Row} {row : Row} :
    breaksRules table others row = false ↔
      (∀ column ∈ table.columns, column.isOptional = false →
        (row.cell (Text.ofString column.name)).isNull = false) ∧
      ∀ other ∈ others, other.id ≠ row.id ∧ other.account ≠ row.account := by
  have unique : ∀ other : Row, (other.id ≠ row.id ∧ other.account ≠ row.account) ↔
      ∀ column ∈ table.columns, column.isUnique = true →
        (other.cell (Text.ofString column.name)).asText ≠
          (row.cell (Text.ofString column.name)).asText := by
    intro other
    cases table <;> simp [TableName.columns, Row.id, Row.account]
  simp only [breaksRules, List.any_eq_false, unique, Bool.or_eq_true, Bool.and_eq_true,
    Bool.not_eq_true', List.any_eq_true, beq_iff_eq, not_or, not_and, not_exists, ne_eq]
  constructor
  · intro keeps
    refine ⟨fun column listed mandatory => ?_, fun other stands column listed isUnique =>
      (keeps column listed).2 isUnique other stands⟩
    by_contra isNull
    exact (keeps column listed).1 (Bool.eq_true_of_not_eq_false isNull) mandatory
  · rintro ⟨filled, fresh⟩ column listed
    refine ⟨fun isNull mandatory => ?_, fun isUnique other stands =>
      fresh other stands column listed isUnique⟩
    rw [filled column listed mandatory] at isNull
    cases isNull

end Database

/-! ## Running insertions -/

/-- An insertion that succeeds puts a row at the end of its table, whose cells are those of the new
record and whose mandatory cells are filled. -/
theorem Record.exists_row_of_insert {database after : Database} {table : TableName}
    {moment : Timestamp} {given : Entries Given}
    (inserted : insert database table moment given = .ok after) :
    ∃ rows row, database.rows? table = some rows ∧
      (∀ column ∈ table.columns, newCell column rows.length moment given =
        .ok (row.cell (Text.ofString column.name))) ∧
      (∀ column ∈ table.columns, column.isOptional = false →
        (row.cell (Text.ofString column.name)).isNull = false) ∧
      (∀ other ∈ rows, other.id ≠ row.id ∧ other.account ≠ row.account) ∧
      after = database.setRows table (rows ++ [row]) := by
  unfold insert at inserted
  split at inserted
  · cases inserted
  · split at inserted
    · cases inserted
    · rename_i cells made
      rw [Database.insertRow] at inserted
      cases has : database.rows? table with
      | none => simp [has] at inserted
      | some rows =>
          cases breaks : Database.breaksRules table rows ⟨cells⟩ with
          | true => simp [has, breaks] at inserted
          | false =>
              simp only [has, breaks, Bool.false_eq_true, if_false, Except.ok.injEq] at inserted
              rcases Database.breaksRules_eq_false_iff.1 breaks with ⟨filled, fresh⟩
              rw [has, Option.getD_some] at made
              exact ⟨rows, ⟨cells⟩, rfl, newCell_of_newCells table.columns_distinct made, filled,
                fresh, inserted.symm⟩

namespace Insertion

variable {insertion : Insertion} {database after : Database} {rows : List Row}

/-- What an insertion sends to the table of the database, apart from the rules of the table. -/
theorem run_eq (insertion : Insertion) (database : Database) :
    insertion.run database =
      match Record.newCells ((database.rows? insertion.table).getD []).length
        insertion.moment.timestamp (Given.ofFields insertion.draft.fields)
        insertion.table.columns with
      | .error fault => .error fault
      | .ok cells => database.insertRow insertion.table ⟨cells⟩ := by
  rw [run, Record.insert, table, insertion.draft.column?_isSome]
  rfl

/-- An insertion that succeeds puts a row at the end of its table. -/
theorem exists_row_of_run (ran : insertion.run database = .ok after) :
    ∃ rows row, database.rows? insertion.table = some rows ∧ row.IsMade insertion ∧
      (∀ other ∈ rows, other.id ≠ row.id ∧ other.account ≠ row.account) ∧
      after = database.setRows insertion.table (rows ++ [row]) := by
  rcases Record.exists_row_of_insert ran with ⟨rows, row, has, cells, filled, fresh, same⟩
  refine ⟨rows, row, has, ⟨fun column listed => ?_, filled⟩, fresh, same⟩
  rw [← insertion.draft.newCell_eq_cell insertion.moment rows.length column listed]
  exact cells column listed

/-- A draft that sends something proper to every column makes a row. -/
theorem exists_row (all : ∀ column ∈ insertion.table.columns, ∃ cell,
      insertion.draft.cell insertion.moment column.name = .ok cell ∧
        (column.isOptional = false → cell.isNull = false)) (position : Nat) :
    ∃ cells, Record.newCells position insertion.moment.timestamp
        (Given.ofFields insertion.draft.fields) insertion.table.columns = .ok cells ∧
      (⟨cells⟩ : Row).IsMade insertion := by
  have sent := insertion.draft.newCell_eq_cell insertion.moment position
  rcases Record.exists_newCells fun column listed => by
      rcases all column listed with ⟨cell, own, _⟩
      exact ⟨cell, (sent column listed).trans own⟩ with ⟨cells, made⟩
  have placed := Record.newCell_of_newCells insertion.table.columns_distinct made
  have holds : ∀ column ∈ insertion.table.columns,
      insertion.draft.cell insertion.moment column.name =
        .ok ((⟨cells⟩ : Row).cell (Text.ofString column.name)) := by
    intro column listed
    rw [← sent column listed]
    exact placed column listed
  refine ⟨cells, made, holds, fun column listed mandatory => ?_⟩
  rcases all column listed with ⟨cell, own, filled⟩
  rw [holds column listed, Except.ok.injEq] at own
  rw [own]
  exact filled mandatory

end Insertion

end FleetGate
