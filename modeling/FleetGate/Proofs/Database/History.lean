import FleetGate.Proofs.Database.Permissions
import FleetGate.Proofs.Database.Reading
import Mathlib.Data.List.Forall2
import Mathlib.Data.List.Nodup

/-!
# Histories of insertions

Each table keeps a row for every insertion that succeeded, in order, and no two rows share an
identifier or an account. One insertion preserves this, so it holds after every history of
insertions, however many of them fail. Lookups by identifier then answer with the record of the one
insertion that has the identifier, and nothing else in the history has an effect on them.
-/

namespace FleetGate

/-- A row is apart from the new one if it is apart from the draft of the new one. -/
theorem Row.IsMade.isNew_iff {row : Row} {insertion : Insertion} (made : row.IsMade insertion)
    (other : Row) :
    other.id ≠ row.id ∧ other.account ≠ row.account ↔
      other.id ≠ insertion.draft.id ∧ some other.account ≠ insertion.draft.account := by
  rw [made.account_eq, ← made.id_eq.1, ne_eq (some _), Option.some.injEq]

/-! ## Complete drafts -/

namespace Insertion

variable {insertion : Insertion} {database : Database} {row : Row} {rows : List Row}

/-- Only a draft that describes a record makes a row. -/
theorem isComplete_of_isMade (made : row.IsMade insertion) :
    insertion.draft.isComplete insertion.moment = true := by
  rcases insertion with ⟨draft | draft, moment⟩
  · rcases DriverDraft.exists_driver_of_isMade made with ⟨driver, describes, _⟩
    simp [Draft.isComplete, describes]
  · rcases UserDraft.exists_user_of_isMade made with ⟨user, describes, _⟩
    simp [Draft.isComplete, describes]

theorem exists_cell_of_isComplete (complete : insertion.draft.isComplete insertion.moment = true) :
    ∀ column ∈ insertion.table.columns, ∃ cell,
      insertion.draft.cell insertion.moment column.name = .ok cell ∧
        (column.isOptional = false → cell.isNull = false) := by
  rcases insertion with ⟨draft | draft, moment⟩
  · rcases Option.isSome_iff_exists.1 complete with ⟨driver, describes⟩
    exact DriverDraft.exists_cell_of_driver? describes
  · rcases Option.isSome_iff_exists.1 complete with ⟨user, describes⟩
    exact UserDraft.exists_cell_of_user? describes

/-- An insertion succeeds exactly when its draft describes a record and neither its identifier nor
its account stands in the table. -/
theorem exists_run_iff (has : database.rows? insertion.table = some rows) :
    (∃ after, insertion.run database = .ok after) ↔
      insertion.draft.isComplete insertion.moment = true ∧
        ∀ row ∈ rows, row.id ≠ insertion.draft.id ∧
          some row.account ≠ insertion.draft.account := by
  constructor
  · rintro ⟨after, ran⟩
    rcases exists_row_of_run ran with ⟨own, row, hasOwn, made, fresh, _⟩
    rw [has, Option.some.injEq] at hasOwn
    subst hasOwn
    exact ⟨isComplete_of_isMade made, fun other stands =>
      (made.isNew_iff other).1 (fresh other stands)⟩
  · rintro ⟨complete, fresh⟩
    rcases exists_row (exists_cell_of_isComplete complete) rows.length with ⟨cells, sent, made⟩
    have keeps : Database.breaksRules insertion.table rows ⟨cells⟩ = false := by
      rw [Database.breaksRules_eq_false_iff]
      exact ⟨made.filled, fun other stands => (made.isNew_iff other).2 (fresh other stands)⟩
    refine ⟨database.setRows insertion.table (rows ++ [⟨cells⟩]), ?_⟩
    simp only [run_eq, has, Option.getD_some, sent, Database.insertRow, keeps,
      Bool.false_eq_true, if_false]

end Insertion

namespace Database

variable {database after : Database} {kept insertions : List Insertion} {insertion : Insertion}
  {rows : List Row} {table : TableName} {id : Text}

/-! ## The invariant of a table -/

/-- The rows of a table stem from insertions, one from each, and share no identifier and no
account. -/
structure Holds (rows : List Row) (kept : List Insertion) : Prop where
  made : List.Forall₂ (fun insertion row => row.IsMade insertion) kept rows
  ids : (rows.map Row.id).Nodup
  accounts : (rows.map Row.account).Nodup

/-- Both tables hold the rows of the insertions into them. -/
def Keeps (database : Database) (kept : List Insertion) : Prop :=
  ∀ table, ∃ rows, database.rows? table = some rows ∧
    Holds rows (kept.filter fun insertion => insertion.table = table)

theorem keeps_fresh : fresh.Keeps [] := by
  intro table
  have empty : Holds [] [] := ⟨.nil, .nil, .nil⟩
  cases table
  · exact ⟨[], rfl, empty⟩
  · exact ⟨[], rfl, empty⟩

theorem rows?_setRows (database : Database) (table other : TableName) (rows : List Row) :
    (database.setRows table rows).rows? other =
      if table = other then some rows else database.rows? other := by
  cases table <;> cases other <;> rfl

theorem Holds.append {row : Row} (holds : Holds rows kept) (made : row.IsMade insertion)
    (new : ∀ other ∈ rows, other.id ≠ row.id ∧ other.account ≠ row.account) :
    Holds (rows ++ [row]) (kept ++ [insertion]) := by
  have last {values : List Text} {value : Text} (nodup : values.Nodup)
      (missing : ∀ other ∈ values, other ≠ value) : (values ++ [value]).Nodup := by
    rw [List.nodup_append]
    refine ⟨nodup, by simp, fun other listed same isValue => ?_⟩
    rw [List.mem_singleton.1 isValue]
    exact missing other listed
  refine ⟨List.rel_append holds.made (.cons made .nil), ?_, ?_⟩
  · rw [List.map_append]
    exact last holds.ids (List.forall_mem_map.2 fun other listed => (new other listed).1)
  · rw [List.map_append]
    exact last holds.accounts (List.forall_mem_map.2 fun other listed => (new other listed).2)

/-- An insertion that succeeds preserves the invariant. -/
theorem Keeps.run (keeps : database.Keeps kept) (ran : insertion.run database = .ok after) :
    after.Keeps (kept ++ [insertion]) := by
  rcases Insertion.exists_row_of_run ran with ⟨rows, row, has, made, new, rfl⟩
  intro table
  rcases keeps table with ⟨own, hasOwn, holds⟩
  rw [rows?_setRows, List.filter_append]
  by_cases same : insertion.table = table
  · subst same
    rw [has, Option.some.injEq] at hasOwn
    subst hasOwn
    refine ⟨rows ++ [row], if_pos rfl, ?_⟩
    have kept := holds.append made new
    simpa using kept
  · refine ⟨own, by rw [if_neg same, hasOwn], ?_⟩
    simpa [same] using holds

/-- Every history preserves the invariant. -/
theorem Keeps.foldl (keeps : database.Keeps kept) :
    (insertions.foldl attempt database).Keeps (kept ++ accepted database insertions) := by
  induction insertions generalizing database kept with
  | nil => simpa [accepted] using keeps
  | cons insertion rest ih =>
      rw [List.foldl_cons, accepted, attempt]
      cases ran : insertion.run database with
      | error fault => exact ih keeps
      | ok after =>
          have later := ih (keeps.run ran)
          rwa [List.append_assoc] at later

theorem keeps_afterAll (insertions : List Insertion) :
    (afterAll insertions).Keeps (accepted fresh insertions) :=
  Keeps.foldl keeps_fresh

/-! ## Failed insertions -/

/-- Without its failed insertions a history leads to the same database. -/
theorem foldl_accepted (database : Database) (insertions : List Insertion) :
    (accepted database insertions).foldl attempt database = insertions.foldl attempt database := by
  induction insertions generalizing database with
  | nil => rfl
  | cons insertion rest ih =>
      rw [accepted, List.foldl_cons, attempt]
      cases ran : insertion.run database with
      | error fault => exact ih database
      | ok after =>
          simp only [List.foldl_cons, attempt, ran]
          exact ih after

theorem accepted_append (database : Database) (front back : List Insertion) :
    accepted database (front ++ back) =
      accepted database front ++ accepted (front.foldl attempt database) back := by
  induction front generalizing database with
  | nil => rfl
  | cons insertion rest ih =>
      rw [List.cons_append, accepted, accepted, List.foldl_cons, attempt]
      cases ran : insertion.run database with
      | error fault => exact ih database
      | ok after =>
          simp only [List.cons_append, ih]

/-- An insertion that succeeds in the course of a history is kept. -/
theorem mem_accepted (front : List Insertion) {back : List Insertion}
    (runs : ∃ after, insertion.run (front.foldl attempt database) = .ok after) :
    insertion ∈ accepted database (front ++ insertion :: back) := by
  rcases runs with ⟨after, ran⟩
  rw [accepted_append, accepted, ran]
  simp

/-- A failed insertion can be left out of a history. -/
theorem afterAll_without {front back : List Insertion} {fault : Fault}
    (failed : insertion.run (afterAll front) = .error fault) :
    afterAll (front ++ insertion :: back) = afterAll (front ++ back) := by
  have stays : attempt (afterAll front) insertion = afterAll front := by
    simp only [attempt, failed]
  simp only [afterAll, List.foldl_append, List.foldl_cons] at stays ⊢
  rw [stays]

/-! ## The tables apart -/

/-- An insertion into another table leaves a table alone. -/
theorem rows?_attempt_other (other : insertion.table ≠ table) :
    (database.attempt insertion).rows? table = database.rows? table := by
  rw [attempt]
  cases ran : insertion.run database with
  | error fault => rfl
  | ok after =>
      rcases Insertion.exists_row_of_run ran with ⟨rows, row, _, _, _, rfl⟩
      rw [rows?_setRows, if_neg other]

/-- What an insertion does to its table depends on this table only. -/
theorem rows?_attempt_same {left right : Database}
    (same : left.rows? insertion.table = right.rows? insertion.table) :
    (left.attempt insertion).rows? insertion.table =
      (right.attempt insertion).rows? insertion.table := by
  simp only [attempt, Insertion.run_eq, same]
  cases Record.newCells ((right.rows? insertion.table).getD []).length
      insertion.moment.timestamp (Given.ofFields insertion.draft.fields)
      insertion.table.columns with
  | error fault => exact same
  | ok cells =>
      simp only [insertRow, same]
      cases has : right.rows? insertion.table with
      | none => simpa only [has] using same
      | some rows =>
          by_cases breaks : breaksRules insertion.table rows ⟨cells⟩ = true
          · simpa only [if_pos breaks, has] using same
          · simp only [if_neg breaks, rows?_setRows, if_true]

/-- The rows of a table depend on the insertions into this table only. -/
theorem rows?_foldl_filter (table : TableName) {left right : Database}
    (same : left.rows? table = right.rows? table) :
    (insertions.foldl attempt left).rows? table =
      ((insertions.filter fun insertion => insertion.table = table).foldl attempt right).rows?
        table := by
  induction insertions generalizing left right with
  | nil => exact same
  | cons insertion rest ih =>
      by_cases own : insertion.table = table
      · subst own
        rw [List.filter_cons_of_pos (by simp), List.foldl_cons, List.foldl_cons]
        exact ih (rows?_attempt_same same)
      · rw [List.filter_cons_of_neg (by simpa using own), List.foldl_cons]
        exact ih ((rows?_attempt_other own).trans same)

/-! ## Lookups -/

/-- The row with an identifier is the one that is found. -/
theorem find?_id {row : Row} (ids : (rows.map Row.id).Nodup) (stands : row ∈ rows) :
    (rows.find? fun other => other.id == row.id) = some row := by
  induction rows with
  | nil => cases stands
  | cons first rest ih =>
      rcases List.nodup_cons.1 ids with ⟨fresh, others⟩
      rcases List.mem_cons.1 stands with rfl | later
      · simp
      · have differ : first.id ≠ row.id := by
          intro same
          exact fresh (same ▸ List.mem_map_of_mem later)
        rw [List.find?_cons_of_neg (by simpa using differ)]
        exact ih others later

theorem length_filter_id_le (ids : (rows.map Row.id).Nodup) (id : Text) :
    (rows.filter fun row => row.id == id).length ≤ 1 := by
  have once := List.nodup_iff_count_le_one.1 ids id
  rwa [List.count_eq_countP, List.countP_map, List.countP_eq_length_filter] at once

/-- Every member of a list has a partner in a list that is related to it. -/
theorem exists_mem_of_forall₂ {α β : Type} {related : α → β → Prop} {lefts : List α}
    {rights : List β} (all : List.Forall₂ related lefts rights) {left : α}
    (listed : left ∈ lefts) : ∃ right ∈ rights, related left right := by
  induction all with
  | nil => cases listed
  | cons own _ ih =>
      rcases List.mem_cons.1 listed with rfl | later
      · exact ⟨_, List.mem_cons_self, own⟩
      · rcases ih later with ⟨right, stands, partner⟩
        exact ⟨right, List.mem_cons_of_mem _ stands, partner⟩

theorem Holds.exists_row (holds : Holds rows kept) (listed : insertion ∈ kept) :
    ∃ row ∈ rows, row.IsMade insertion :=
  exists_mem_of_forall₂ holds.made listed

theorem Holds.exists_insertion {row : Row} (holds : Holds rows kept) (stands : row ∈ rows) :
    ∃ insertion ∈ kept, row.IsMade insertion :=
  exists_mem_of_forall₂ holds.made.flip stands

theorem Holds.map_id (holds : Holds rows kept) :
    rows.map Row.id = kept.map fun insertion => insertion.draft.id := by
  have made := holds.made
  clear holds
  induction made with
  | nil => rfl
  | cons own _ ih => rw [List.map_cons, List.map_cons, ih, own.id_eq.1]

theorem checkId_eq_ok (scalar : id.IsScalar) : checkId id = .ok () :=
  if_pos (Text.all_toChar?_iff.2 scalar)

theorem driver_eq (has : database.drivers = some rows) (scalar : id.IsScalar) :
    database.driver id =
      match rows.find? fun row => row.id == id with
      | none => .ok none
      | some row => ((Record.readDriver row).mapError .fault).map some := by
  cases found : rows.find? fun row => row.id == id with
  | none => simp only [driver, has, checkId_eq_ok scalar, found]
  | some row => simp only [driver, has, checkId_eq_ok scalar, found]

theorem user_eq (has : database.users = some rows) (scalar : id.IsScalar) :
    database.user id =
      match rows.find? fun row => row.id == id with
      | none => .ok none
      | some row => (Record.readUser row).map some := by
  cases found : rows.find? fun row => row.id == id with
  | none => simp only [user, has, checkId_eq_ok scalar, found]
  | some row => simp only [user, has, checkId_eq_ok scalar, found]

theorem find?_eq_none (missing : ∀ row ∈ rows, row.id ≠ id) :
    (rows.find? fun row => row.id == id) = none := by
  rw [List.find?_eq_none]
  intro row stands
  simpa using missing row stands

/-- A driver that was inserted is found under its identifier, as its draft describes it. -/
theorem Holds.driver_of_mem {draft : DriverDraft} {moment : Moment} (holds : Holds rows kept)
    (has : database.drivers = some rows) (listed : ⟨.driver draft, moment⟩ ∈ kept) :
    ∃ driver, draft.driver? moment = some driver ∧ driver.id = draft.id ∧
      database.driver draft.id = .ok (some driver) := by
  rcases holds.exists_row listed with ⟨row, stands, made⟩
  rcases DriverDraft.exists_driver_of_isMade made with ⟨driver, describes, read⟩
  have same : row.id = draft.id := made.id_eq.1
  have scalar : draft.id.IsScalar := made.id_eq.2
  have found := find?_id holds.ids stands
  rw [same] at found
  refine ⟨driver, describes, DriverDraft.id_of_driver? describes, ?_⟩
  rw [driver_eq has scalar]
  simp only [found, read]
  rfl

/-- A user that was inserted is found under its identifier, as its draft describes it, if its
permissions resolve. -/
theorem Holds.user_of_mem {draft : UserDraft} {moment : Moment} (holds : Holds rows kept)
    (has : database.users = some rows) (listed : ⟨.user draft, moment⟩ ∈ kept) :
    ∃ user, draft.user? moment = some user ∧ (∀ permissions, (user permissions).id = draft.id) ∧
      database.user draft.id =
        (draft.permissions.resolve draft.ownRole).map fun permissions =>
          some (user permissions) := by
  rcases holds.exists_row listed with ⟨row, stands, made⟩
  rcases UserDraft.exists_user_of_isMade made with ⟨user, describes, read⟩
  have same : row.id = draft.id := made.id_eq.1
  have scalar : draft.id.IsScalar := made.id_eq.2
  have found := find?_id holds.ids stands
  rw [same] at found
  refine ⟨user, describes, UserDraft.id_of_user? describes, ?_⟩
  rw [user_eq has scalar]
  simp only [found, read]
  cases draft.permissions.resolve draft.ownRole with
  | error raised => rfl
  | ok permissions => rfl

/-- No driver is found exactly if no row has the identifier. -/
theorem Holds.driver_eq_none_iff (holds : Holds rows kept) (has : database.drivers = some rows)
    (into : ∀ insertion ∈ kept, insertion.table = .drivers) (scalar : id.IsScalar) :
    database.driver id = .ok none ↔ ∀ row ∈ rows, row.id ≠ id := by
  constructor
  · rintro absent row stands rfl
    rcases holds.exists_insertion stands with ⟨⟨draft | draft, moment⟩, listed, made⟩
    · rcases holds.driver_of_mem has listed with ⟨driver, _, _, found⟩
      rw [made.id_eq.1] at absent
      cases absent.symm.trans found
    · cases into _ listed
  · intro missing
    rw [driver_eq has scalar, find?_eq_none missing]

/-- No user is found exactly if no row has the identifier. -/
theorem Holds.user_eq_none_iff (holds : Holds rows kept) (has : database.users = some rows)
    (into : ∀ insertion ∈ kept, insertion.table = .users) (scalar : id.IsScalar) :
    database.user id = .ok none ↔ ∀ row ∈ rows, row.id ≠ id := by
  constructor
  · rintro absent row stands rfl
    rcases holds.exists_insertion stands with ⟨⟨draft | draft, moment⟩, listed, made⟩
    · cases into _ listed
    · rcases holds.user_of_mem has listed with ⟨user, _, _, found⟩
      rw [made.id_eq.1] at absent
      have same := absent.symm.trans found
      cases resolved : draft.permissions.resolve draft.ownRole with
      | error raised =>
          rw [resolved] at same
          cases same
      | ok permissions =>
          rw [resolved] at same
          cases same
  · intro missing
    rw [user_eq has scalar, find?_eq_none missing]

end Database

end FleetGate
