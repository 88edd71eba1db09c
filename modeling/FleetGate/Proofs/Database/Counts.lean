import FleetGate.Database.Service
import FleetGate.Proofs.Database.Sent
import Mathlib.Algebra.BigOperators.Group.List.Lemmas

/-!
# Counts by fleet

The count of online drivers groups the rows of those that are online and may work by their stored
fleets, and reads each stored fleet once. A stored text that names no fleet has no place in the
mapping, so then there is none; otherwise the mapping has for each fleet the number of rows of
drivers in this fleet, and leaves out the others (`Database.mem_counts_iff`).
-/

namespace FleetGate

theorem nodup_eraseDups {α : Type} [BEq α] [LawfulBEq α] (items : List α) :
    items.eraseDups.Nodup := by
  induction size : items.length using Nat.strong_induction_on generalizing items with
  | _ size ih =>
      cases items with
      | nil => exact List.nodup_nil
      | cons item rest =>
          rw [List.eraseDups_cons, List.nodup_cons]
          refine ⟨?_, ih _ ?_ _ rfl⟩
          · rw [List.mem_eraseDups]
            simp
          · have shorter := List.length_filter_le (fun other => !other == item) rest
            rw [← size, List.length_cons]
            omega

namespace Row

/-- The driver in a row is online and may work. -/
def isOnDuty (row : Row) : Bool :=
  (row.cell "is_online").truthy && (row.cell "is_active").truthy

/-- The fleet of the driver in a row, if a fleet is stored. -/
def fleet? (row : Row) : Option Fleet :=
  Vocabulary.ofName? (row.cell "fleet").asText

/-- The driver in a row is online and may work in a fleet. -/
def servesIn (fleet : Fleet) (row : Row) : Bool :=
  row.isOnDuty && row.fleet? = some fleet

/-- Flags are stored as zero or one. -/
structure HasFlags (row : Row) : Prop where
  online : ∃ flag, row.cell "is_online" = Record.bitCell flag
  active : ∃ flag, row.cell "is_active" = Record.bitCell flag

end Row

theorem Vocabulary.ofName?_eq_some_iff {text : Text} {fleet : Fleet} :
    ofName? text = some fleet ↔ text = Text.ofString (name fleet) := by
  constructor
  · intro found
    have named := List.find?_some found
    rw [decide_eq_true_eq] at named
    exact named.symm
  · rintro rfl
    cases fleet <;> rfl

namespace Database

variable {database : Database} {rows : List Row} {counts : List (Fleet × Nat)} {stored : List Text}

/-! ## Counting under given names -/

/-- Each name has the number of rows that are stored under it. -/
theorem pairs_of_countFleets (counted : countFleets rows stored = .ok counts) :
    (counts.map fun (fleet, number) => (Text.ofString (Vocabulary.name fleet), number)) =
      stored.map fun text => (text, rows.countP fun row => storedFleet row == text) := by
  induction stored generalizing counts with
  | nil =>
      cases counted
      rfl
  | cons first rest ih =>
      rw [countFleets] at counted
      split at counted
      · cases counted
      · rename_i fleet found
        cases others : countFleets rows rest with
        | error fault =>
            rw [others] at counted
            cases counted
        | ok later =>
            rw [others] at counted
            cases counted
            rw [List.map_cons, List.map_cons, ih others, Vocabulary.ofName?_eq_some_iff.1 found]

theorem fleets_of_countFleets (counted : countFleets rows stored = .ok counts) :
    ((counts.map Prod.fst).map fun fleet => Text.ofString (Vocabulary.name fleet)) = stored := by
  have names := congrArg (List.map Prod.fst) (pairs_of_countFleets counted)
  simpa [Function.comp_def] using names

theorem numbers_of_countFleets (counted : countFleets rows stored = .ok counts) :
    counts.map Prod.snd =
      stored.map fun text => rows.countP fun row => storedFleet row == text := by
  have numbers := congrArg (List.map Prod.snd) (pairs_of_countFleets counted)
  simpa [Function.comp_def] using numbers

theorem mem_countFleets_iff (counted : countFleets rows stored = .ok counts) {fleet : Fleet}
    {number : Nat} :
    (fleet, number) ∈ counts ↔ Text.ofString (Vocabulary.name fleet) ∈ stored ∧
      (rows.countP fun row => storedFleet row == Text.ofString (Vocabulary.name fleet)) =
        number := by
  have injective : Function.Injective fun entry : Fleet × Nat =>
      (Text.ofString (Vocabulary.name entry.1), entry.2) := by
    rintro left right same
    rcases Prod.mk.inj same with ⟨sameName, sameNumber⟩
    have found := Vocabulary.ofName?_eq_some_iff.2 sameName
    rw [Vocabulary.ofName?_eq_some_iff.2 rfl, Option.some.injEq] at found
    exact Prod.ext found sameNumber
  rw [← List.mem_map_of_injective injective, pairs_of_countFleets counted, List.mem_map]
  constructor
  · rintro ⟨text, listed, same⟩
    rcases Prod.mk.inj same with ⟨rfl, number⟩
    exact ⟨listed, number⟩
  · rintro ⟨listed, rfl⟩
    exact ⟨_, listed, rfl⟩

/-- Counting stops at the first text that names no fleet. -/
theorem countFleets_spec (rows : List Row) (stored : List Text) :
    (∃ counts, countFleets rows stored = .ok counts ∧
        ∀ text ∈ stored, ∃ fleet : Fleet, Vocabulary.ofName? text = some fleet) ∨
      ∃ text ∈ stored, Vocabulary.ofName? (α := Fleet) text = none ∧
        countFleets rows stored = .error (Vocabulary.unknownName Fleet text) := by
  induction stored with
  | nil => exact .inl ⟨[], rfl, by simp⟩
  | cons first rest ih =>
      rw [countFleets]
      cases found : Vocabulary.ofName? (α := Fleet) first with
      | none => exact .inr ⟨first, by simp, found, rfl⟩
      | some fleet =>
          rcases ih with ⟨counts, counted, all⟩ | ⟨text, listed, none, stopped⟩
          · refine .inl ⟨_, by rw [counted]; rfl, ?_⟩
            exact List.forall_mem_cons.2 ⟨⟨fleet, found⟩, all⟩
          · exact .inr ⟨text, List.mem_cons_of_mem first listed, none, by rw [stopped]; rfl⟩

/-! ## Stored fleets -/

theorem mem_distinctFleets {text : Text} :
    text ∈ distinctFleets rows ↔ ∃ row ∈ rows, storedFleet row = text := by
  rw [distinctFleets, List.mem_mergeSort, List.mem_eraseDups, List.mem_map]

theorem nodup_distinctFleets (rows : List Row) : (distinctFleets rows).Nodup :=
  (List.mergeSort_perm _ _).nodup_iff.2 (nodup_eraseDups _)

/-- Every row is counted under one of the stored fleets. -/
theorem sum_countP_distinctFleets (rows : List Row) :
    ((distinctFleets rows).map fun text => rows.countP fun row => storedFleet row == text).sum =
      rows.length := by
  have same : (distinctFleets rows).Perm (rows.map storedFleet).dedup := by
    rw [List.perm_ext_iff_of_nodup (nodup_distinctFleets rows) (List.nodup_dedup _)]
    intro text
    rw [mem_distinctFleets, List.mem_dedup, List.mem_map]
  have total := List.sum_map_count_dedup_eq_length (rows.map storedFleet)
  rw [List.length_map] at total
  rw [(same.map _).sum_eq, ← total]
  refine congrArg List.sum (List.map_congr_left fun text _ => ?_)
  unfold List.count
  rw [List.countP_map]
  exact List.countP_congr fun row _ => by simp

/-! ## The answer of the database -/

theorem isCounted_eq {row : Row} (flags : row.HasFlags) : isCounted row = row.isOnDuty := by
  rcases flags with ⟨⟨online, isOnline⟩, active, isActive⟩
  rw [isCounted, Row.isOnDuty, isOnline, isActive]
  cases online <;> cases active <;> rfl

theorem filter_isCounted (flags : ∀ row ∈ rows, row.HasFlags) :
    rows.filter isCounted = rows.filter Row.isOnDuty :=
  List.filter_congr fun row listed => isCounted_eq (flags row listed)

/-- The rows of drivers that are online and may work are counted. -/
theorem onlineByFleet_eq (has : database.drivers = some rows)
    (flags : ∀ row ∈ rows, row.HasFlags) :
    database.onlineByFleet =
      (countFleets (rows.filter Row.isOnDuty)
        (distinctFleets (rows.filter Row.isOnDuty))).mapError .fault := by
  rw [onlineByFleet, has, ← filter_isCounted flags]

theorem countFleets_of_onlineByFleet (has : database.drivers = some rows)
    (flags : ∀ row ∈ rows, row.HasFlags) (answered : database.onlineByFleet = .ok counts) :
    countFleets (rows.filter Row.isOnDuty) (distinctFleets (rows.filter Row.isOnDuty)) =
      .ok counts := by
  rw [onlineByFleet_eq has flags] at answered
  cases counted : countFleets (rows.filter Row.isOnDuty)
      (distinctFleets (rows.filter Row.isOnDuty)) with
  | error fault =>
      rw [counted] at answered
      cases answered
  | ok own =>
      rw [counted] at answered
      cases answered
      rfl

theorem fleet?_eq_some_iff {row : Row} {fleet : Fleet} :
    row.fleet? = some fleet ↔ storedFleet row = Text.ofString (Vocabulary.name fleet) :=
  Vocabulary.ofName?_eq_some_iff

/-- There is a mapping exactly if a fleet is stored for every driver that is counted. -/
theorem exists_counts_iff (has : database.drivers = some rows)
    (flags : ∀ row ∈ rows, row.HasFlags) :
    (∃ counts, database.onlineByFleet = .ok counts) ↔
      ∀ row ∈ rows, row.isOnDuty = true → ∃ fleet, row.fleet? = some fleet := by
  have stored (text : Text) : text ∈ distinctFleets (rows.filter Row.isOnDuty) ↔
      ∃ row ∈ rows, row.isOnDuty = true ∧ storedFleet row = text := by
    simp only [mem_distinctFleets, List.mem_filter, and_assoc]
  rw [onlineByFleet_eq has flags]
  rcases countFleets_spec (rows.filter Row.isOnDuty) (distinctFleets (rows.filter Row.isOnDuty))
    with ⟨counts, counted, all⟩ | ⟨text, listed, noFleet, stopped⟩
  · rw [counted]
    refine iff_of_true ⟨counts, rfl⟩ fun row listed onDuty => ?_
    exact all _ ((stored _).2 ⟨row, listed, onDuty, rfl⟩)
  · rw [stopped]
    refine iff_of_false (fun ⟨_, answered⟩ => by cases answered) fun all => ?_
    rcases (stored text).1 listed with ⟨row, inRows, onDuty, rfl⟩
    rcases all row inRows onDuty with ⟨fleet, found⟩
    cases noFleet.symm.trans found

/-- Without a mapping the answer is the complaint about a stored text that names no fleet. -/
theorem error_of_onlineByFleet (has : database.drivers = some rows)
    (flags : ∀ row ∈ rows, row.HasFlags) {raised : Raised}
    (failed : database.onlineByFleet = .error raised) :
    ∃ row ∈ rows, row.isOnDuty = true ∧ row.fleet? = none ∧
      raised = .fault (Vocabulary.unknownName Fleet (storedFleet row)) := by
  rw [onlineByFleet_eq has flags] at failed
  rcases countFleets_spec (rows.filter Row.isOnDuty) (distinctFleets (rows.filter Row.isOnDuty))
    with ⟨counts, counted, _⟩ | ⟨text, listed, noFleet, stopped⟩
  · rw [counted] at failed
    cases failed
  · rw [stopped] at failed
    cases failed
    rcases mem_distinctFleets.1 listed with ⟨row, kept, rfl⟩
    rcases List.mem_filter.1 kept with ⟨inRows, onDuty⟩
    exact ⟨row, inRows, onDuty, noFleet, rfl⟩

/-- The mapping has the fleets with drivers that are counted, each with their number. -/
theorem mem_counts_iff (has : database.drivers = some rows)
    (flags : ∀ row ∈ rows, row.HasFlags) (answered : database.onlineByFleet = .ok counts)
    {fleet : Fleet} {number : Nat} :
    (fleet, number) ∈ counts ↔ 0 < number ∧ rows.countP (Row.servesIn fleet) = number := by
  have count : ((rows.filter Row.isOnDuty).countP fun row =>
      storedFleet row == Text.ofString (Vocabulary.name fleet)) =
        rows.countP (Row.servesIn fleet) := by
    rw [List.countP_filter]
    refine List.countP_congr fun row _ => ?_
    simp only [Bool.and_eq_true, beq_iff_eq, Row.servesIn, decide_eq_true_eq, fleet?_eq_some_iff]
    exact and_comm
  have stands : Text.ofString (Vocabulary.name fleet) ∈
      distinctFleets (rows.filter Row.isOnDuty) ↔ 0 < rows.countP (Row.servesIn fleet) := by
    rw [mem_distinctFleets, ← count, List.countP_pos_iff]
    simp only [beq_iff_eq]
  rw [mem_countFleets_iff (countFleets_of_onlineByFleet has flags answered), stands, count]
  constructor
  · rintro ⟨positive, rfl⟩
    exact ⟨positive, rfl⟩
  · rintro ⟨positive, rfl⟩
    exact ⟨positive, rfl⟩

/-- A fleet has one number. -/
theorem nodup_counts (answered : database.onlineByFleet = .ok counts) :
    (counts.map Prod.fst).Nodup := by
  unfold onlineByFleet at answered
  split at answered
  · cases answered
  · rename_i rows _
    cases counted : countFleets (rows.filter isCounted) (distinctFleets (rows.filter isCounted))
      with
    | error fault =>
        simp only [counted] at answered
        cases answered
    | ok own =>
        simp only [counted] at answered
        cases answered
        have distinct := nodup_distinctFleets (rows.filter isCounted)
        rw [← fleets_of_countFleets counted] at distinct
        exact List.Nodup.of_map _ distinct

/-- The numbers add up to that of all drivers that are counted. -/
theorem sum_counts (has : database.drivers = some rows)
    (flags : ∀ row ∈ rows, row.HasFlags) (answered : database.onlineByFleet = .ok counts) :
    (counts.map Prod.snd).sum = rows.countP Row.isOnDuty := by
  rw [numbers_of_countFleets (countFleets_of_onlineByFleet has flags answered),
    sum_countP_distinctFleets, List.countP_eq_length_filter]

end Database

end FleetGate
