import FleetGate.Proofs.Database.Counts
import FleetGate.Proofs.Database.History

/-!
# Online drivers after insertions

A `Submission` is an insertion of whatever values a caller gives, in any columns. After any number
of submissions every row of a driver has its flags as zero or one, and is taken for a driver of the
fleet that was given (`Row.Shows`). So the count of online drivers is that of the drivers that were
given as online and active, and one more driver changes the number of its own fleet by one, or
nothing (`Database.counts_follow_submissions`).

A text that names no fleet is stored as it is, and the count breaks on it. As long as fleets are
given there is always a mapping.
-/

namespace FleetGate

/-- Members of a vocabulary stand in their own column, and timestamps in those for timestamps. -/
def Given.Suits (name : Text) : Given → Prop
  | .role _ => name = "role"
  | .fleet _ => name = "fleet"
  | .status _ => name = "status"
  | .access _ => name = "fleet_access"
  | .timestamp _ => name = "created_at" ∨ name = "updated_at"
  | .data _ => True

/-- An insertion of values into a table, at a moment of the clock of the database. -/
structure Submission where
  table : TableName
  moment : Timestamp
  given : Entries Given
  suits : ∀ entry ∈ given, entry.2.Suits entry.1

namespace Record

/-- The flag that is given for a column, or else the default. -/
def flagGiven (given : Entries Given) (name : Text) (standard : Bool) : Bool :=
  match Entries.find name given with
  | none | some (.data .null) => standard
  | some (.data value) => value.truthy
  | some _ => false

/-- The fleet that is given, as such or by its value. -/
def fleetGiven? (given : Entries Given) : Option Fleet :=
  match Entries.find "fleet" given with
  | some (.fleet fleet) => some fleet
  | some (.data (.string text)) => Vocabulary.ofValue? text
  | _ => none

/-- A value that is stored as a flag is stored as true or false, for which it stands. -/
theorem flagCell_eq_ok {value : Json} (present : value ≠ .null) {cell : Cell}
    (stored : flagCell value = .ok cell) : cell = bitCell value.truthy := by
  cases value with
  | null => exact absurd rfl present
  | bool flag =>
      cases stored
      rfl
  | int number =>
      simp only [flagCell] at stored
      split at stored
      · rename_i isFlag
        cases stored
        rcases isFlag with rfl | rfl <;> rfl
      · cases stored
  | float number =>
      simp only [flagCell] at stored
      split at stored
      · rename_i isZero
        cases stored
        simp [Json.truthy, bitCell, isZero]
      · rename_i notZero
        split at stored
        · cases stored
          simp [Json.truthy, bitCell, notZero]
        · cases stored
  | string _ => cases stored
  | array _ => cases stored
  | object _ => cases stored

section

variable {column : Column} {position : Nat} {moment : Timestamp} {given : Entries Given}

/-- What is sent for a flag that has a default is the value that is given, or else the default. -/
theorem exists_value_of_flag {standard : Bool} (kind : column.kind = .flag)
    (plain : ∀ value, Entries.find (Text.ofString column.name) given = some value →
      ∃ json, value = .data json)
    (default : standard? column position given = .ok (some (.data (.bool standard)))) :
    ∃ json, valueOf column position given = .ok (some (.data json)) ∧ json ≠ .null ∧
      json.truthy = flagGiven given (Text.ofString column.name) standard := by
  have absent : valueOf column position given = .ok (some (.data (.bool standard))) →
      flagGiven given (Text.ofString column.name) standard = standard →
        ∃ json, valueOf column position given = .ok (some (.data json)) ∧ json ≠ .null ∧
          json.truthy = flagGiven given (Text.ofString column.name) standard := by
    intro sent counts
    exact ⟨.bool standard, sent, by simp, counts.symm⟩
  cases found : Entries.find (Text.ofString column.name) given with
  | none => exact absent (by simp [valueOf, found, default]) (by simp [flagGiven, found])
  | some value =>
      rcases plain value found with ⟨json, rfl⟩
      by_cases isNull : json = .null
      · subst isNull
        exact absent (by simp [valueOf, found, Given.isNull, kind, default])
          (by simp [flagGiven, found])
      · have present : (Given.data json).isNull = false := by
          unfold Given.isNull
          split
          · simp_all
          · rfl
        refine ⟨json, by simp [valueOf, found, present], isNull, ?_⟩
        unfold flagGiven
        rw [found]
        split <;> simp_all

/-- The cell of a flag that has a default. -/
theorem bitCell_of_newCell (column : Column) {standard : Bool} (kind : column.kind = .flag)
    (plain : ∀ value, Entries.find (Text.ofString column.name) given = some value →
      ∃ json, value = .data json)
    (default : standard? column position given = .ok (some (.data (.bool standard)))) {cell : Cell}
    (made : newCell column position moment given = .ok cell) :
    cell = bitCell (flagGiven given (Text.ofString column.name) standard) := by
  rcases exists_value_of_flag kind plain default with ⟨json, sent, present, counts⟩
  have shape : cellOf column (.data json) = flagCell json := by
    simp [cellOf, kind]
  rw [newCell, sent] at made
  dsimp only at made
  rw [shape] at made
  cases stored : flagCell json with
  | error fault =>
      rw [stored] at made
      cases made
  | ok own =>
      rw [stored] at made
      cases made
      rw [flagCell_eq_ok present stored, counts, kind]
      rfl

/-- A fleet is stored under its value. -/
theorem ofName?_eq_ofValue? (text : Text) :
    Vocabulary.ofName? (α := Fleet) text = Vocabulary.ofValue? text := rfl

/-- A word that is given as data for a fleet is stored under the name of this fleet, or as it is. -/
theorem ofName?_of_plainWord {value : Json} {cell : Cell}
    (stored : plainWord Fleet value = .ok cell) (filled : cell.isNull = false) :
    ∃ text, value = .string text ∧
      Vocabulary.ofName? cell.asText = Vocabulary.ofValue? (α := Fleet) text := by
  cases value with
  | string text =>
      refine ⟨text, rfl, ?_⟩
      simp only [plainWord] at stored
      split at stored
      · rename_i fleet found
        cases stored
        rw [found]
        exact Vocabulary.ofName?_eq_some_iff.2 rfl
      · cases stored
        exact ofName?_eq_ofValue? text
  | null =>
      cases stored
      cases filled
  | bool _ => cases stored
  | int _ => cases stored
  | float _ => cases stored
  | array _ => cases stored
  | object _ => cases stored

/-- The cell of a fleet that is filled is read as the fleet that is given, if it is one. -/
theorem ofName?_of_newCell (suits : ∀ entry ∈ given, entry.2.Suits entry.1) {cell : Cell}
    (made : newCell ⟨"fleet", .word, false, false⟩ position moment given = .ok cell)
    (filled : cell.isNull = false) :
    Vocabulary.ofName? cell.asText = fleetGiven? given := by
  have noColumn (name : String) (other : name ≠ "fleet") :
      Text.ofString "fleet" ≠ Text.ofString name :=
    fun same => other (Text.ofString_injective same).symm
  cases found : Entries.find (Text.ofString "fleet") given with
  | none =>
      simp only [newCell, valueOf, found, standard?] at made
      cases made
      cases filled
  | some value =>
      have suited := suits _ (Entries.mem_of_find found)
      simp only [newCell, valueOf, found] at made
      cases value with
      | role _ => exact absurd suited (noColumn "role" (by decide))
      | status _ => exact absurd suited (noColumn "status" (by decide))
      | access _ => exact absurd suited (noColumn "fleet_access" (by decide))
      | timestamp _ =>
          exact absurd suited (not_or_intro (noColumn "created_at" (by decide))
            (noColumn "updated_at" (by decide)))
      | fleet fleet =>
          cases made
          rw [fleetGiven?, found]
          exact Vocabulary.ofName?_eq_some_iff.2 rfl
      | data value =>
          by_cases isNull : (Given.data value).isNull = true
          · simp only [isNull] at made
            cases made
            cases filled
          · have shape : cellOf ⟨"fleet", .word, false, false⟩ (.data value) =
                plainWord Fleet value := rfl
            simp only [isNull, Bool.false_and, Bool.false_eq_true, if_false, shape] at made
            cases stored : plainWord Fleet value with
            | error fault =>
                rw [stored] at made
                cases made
            | ok own =>
                rw [stored] at made
                cases made
                have same : (own.stored .word).asText = own.asText := by cases own <;> rfl
                have ownFilled : own.isNull = false := by
                  rw [← filled]
                  cases own <;> rfl
                rcases ofName?_of_plainWord stored ownFilled with ⟨text, rfl, named⟩
                rw [same, named, fleetGiven?, found]

end

end Record

namespace Submission

/-- Inserts the record. -/
def run (submission : Submission) (database : Database) : Except Fault Database :=
  Record.insert database submission.table submission.moment submission.given

/-- The fleet that is given. -/
def fleet? (submission : Submission) : Option Fleet :=
  Record.fleetGiven? submission.given

/-- The driver is given as online, and not as one that may not work. -/
def isOnDuty (submission : Submission) : Bool :=
  Record.flagGiven submission.given "is_online" false &&
    Record.flagGiven submission.given "is_active" true

variable {submission : Submission} {database after : Database}

/-- What is given for a flag is data. -/
theorem exists_json (submission : Submission) {name : String}
    (isFlag : name ∈ ["is_online", "is_active"]) (value : Given)
    (found : Entries.find (Text.ofString name) submission.given = some value) :
    ∃ json, value = .data json := by
  have suited := submission.suits _ (Entries.mem_of_find found)
  have noColumn {own : String} (same : Text.ofString name = Text.ofString own) : name = own :=
    Text.ofString_injective same
  simp only [List.mem_cons, List.not_mem_nil, or_false] at isFlag
  cases value with
  | data json => exact ⟨json, rfl⟩
  | role _ => rcases isFlag with rfl | rfl <;> exact absurd (noColumn suited) (by decide)
  | fleet _ => rcases isFlag with rfl | rfl <;> exact absurd (noColumn suited) (by decide)
  | status _ => rcases isFlag with rfl | rfl <;> exact absurd (noColumn suited) (by decide)
  | access _ => rcases isFlag with rfl | rfl <;> exact absurd (noColumn suited) (by decide)
  | timestamp _ =>
      rcases suited with suited | suited <;> rcases isFlag with rfl | rfl <;>
        exact absurd (noColumn suited) (by decide)

end Submission

/-- The row of a driver has the flags and the fleet that were submitted. -/
structure Row.Shows (row : Row) (submission : Submission) : Prop where
  flags : row.HasFlags
  onDuty : row.isOnDuty = submission.isOnDuty
  fleet : row.fleet? = submission.fleet?

namespace Submission

variable {submission : Submission} {database after : Database}

/-- A driver that is inserted gets a row at the end that shows what was submitted. -/
theorem exists_driver_row (isDriver : submission.table = .drivers)
    (ran : submission.run database = .ok after) :
    ∃ rows row, database.drivers = some rows ∧ after.drivers = some (rows ++ [row]) ∧
      row.Shows submission := by
  rw [run, isDriver] at ran
  rcases Record.exists_row_of_insert ran with ⟨rows, row, has, cells, filled, _, rfl⟩
  refine ⟨rows, row, has, rfl, ?_⟩
  have online := Record.bitCell_of_newCell ⟨"is_online", .flag, false, false⟩ rfl
    (submission.exists_json (by decide)) rfl (cells _ (by simp [TableName.columns]))
  have active := Record.bitCell_of_newCell ⟨"is_active", .flag, false, false⟩ rfl
    (submission.exists_json (by decide)) rfl (cells _ (by simp [TableName.columns]))
  have fleet := Record.ofName?_of_newCell submission.suits
    (cells ⟨"fleet", .word, false, false⟩ (by simp [TableName.columns]))
    (filled ⟨"fleet", .word, false, false⟩ (by simp [TableName.columns]) rfl)
  refine ⟨⟨⟨_, online⟩, ⟨_, active⟩⟩, ?_, fleet⟩
  rw [Row.isOnDuty, isOnDuty]
  rw [online, active, Record.truthy_bitCell, Record.truthy_bitCell]

end Submission

/-- The number of a fleet in a mapping; a fleet that is left out has none. -/
def numberOf (fleet : Fleet) (counts : List (Fleet × Nat)) : Nat :=
  ((counts.find? fun entry => entry.1 = fleet).map Prod.snd).getD 0

namespace Database

/-- The database after a submission; one that fails leaves it as it was. -/
def submit (database : Database) (submission : Submission) : Database :=
  match submission.run database with
  | .ok after => after
  | .error _ => database

/-- The database after submissions to a fresh one. -/
def afterSubmissions (submissions : List Submission) : Database :=
  submissions.foldl submit fresh

theorem afterSubmissions_append (front : List Submission) (last : Submission) :
    afterSubmissions (front ++ [last]) = (afterSubmissions front).submit last := by
  rw [afterSubmissions, List.foldl_append]
  rfl

variable {database after : Database} {submission : Submission} {submissions : List Submission}
  {rows : List Row} {counts : List (Fleet × Nat)}

/-- A submission leaves the drivers as they are, or puts the submitted driver behind them. -/
theorem drivers_submit (has : database.drivers = some rows) (submission : Submission) :
    (database.submit submission).drivers = some rows ∨
      submission.table = .drivers ∧ ∃ row, row.Shows submission ∧
        (database.submit submission).drivers = some (rows ++ [row]) := by
  unfold submit
  cases ran : submission.run database with
  | error fault => exact .inl has
  | ok after =>
      cases table : submission.table with
      | drivers =>
          rcases submission.exists_driver_row table ran with ⟨own, row, hasOwn, grown, shows⟩
          rw [has, Option.some.injEq] at hasOwn
          subst hasOwn
          exact .inr ⟨rfl, row, shows, grown⟩
      | users =>
          rw [Submission.run, table] at ran
          rcases Record.exists_row_of_insert ran with ⟨_, _, _, _, _, _, rfl⟩
          exact .inl has

/-- Every row of a driver shows what was submitted at some time. -/
structure HoldsDrivers (database : Database) (submissions : List Submission) (rows : List Row) :
    Prop where
  has : database.drivers = some rows
  shows : ∀ row ∈ rows, ∃ submission ∈ submissions,
    submission.table = .drivers ∧ row.Shows submission

theorem HoldsDrivers.flags (holds : database.HoldsDrivers submissions rows) :
    ∀ row ∈ rows, row.HasFlags := by
  intro row listed
  rcases holds.shows row listed with ⟨submission, _, _, shows⟩
  exact shows.flags

/-- One more submission preserves this. -/
theorem HoldsDrivers.submit (holds : database.HoldsDrivers submissions rows)
    (submission : Submission) :
    ∃ later, (database.submit submission).HoldsDrivers (submissions ++ [submission]) later := by
  have old : ∀ row ∈ rows, ∃ other ∈ submissions ++ [submission],
      other.table = .drivers ∧ row.Shows other := by
    intro row listed
    rcases holds.shows row listed with ⟨other, isOther, own⟩
    exact ⟨other, List.mem_append_left _ isOther, own⟩
  rcases drivers_submit holds.has submission with same | ⟨isDriver, row, shows, grown⟩
  · exact ⟨rows, same, old⟩
  · refine ⟨rows ++ [row], grown, fun other listed => ?_⟩
    rcases List.mem_append.1 listed with isOld | isNew
    · exact old other isOld
    · rw [List.mem_singleton.1 isNew]
      exact ⟨submission, by simp, isDriver, shows⟩

theorem exists_holdsDrivers (submissions : List Submission) :
    ∃ rows, (afterSubmissions submissions).HoldsDrivers submissions rows := by
  induction submissions using List.reverseRecOn with
  | nil => exact ⟨[], rfl, by simp⟩
  | append_singleton front last ih =>
      rcases ih with ⟨rows, holds⟩
      rw [afterSubmissions_append]
      exact holds.submit last

/-- The number of a fleet is that of its drivers that are counted, even if there are none. -/
theorem numberOf_eq (has : database.drivers = some rows) (flags : ∀ row ∈ rows, row.HasFlags)
    (answered : database.onlineByFleet = .ok counts) (fleet : Fleet) :
    numberOf fleet counts = rows.countP (Row.servesIn fleet) := by
  have listed := @mem_counts_iff _ _ _ has flags answered fleet
  unfold numberOf
  cases found : counts.find? fun entry => entry.1 = fleet with
  | none =>
      have absent : ¬0 < rows.countP (Row.servesIn fleet) := by
        intro positive
        simpa using List.find?_eq_none.1 found _ (listed.2 ⟨positive, rfl⟩)
      exact (Nat.eq_zero_of_not_pos absent).symm
  | some entry =>
      have same := List.find?_some found
      rw [decide_eq_true_eq] at same
      have stands := List.mem_of_find?_eq_some found
      rw [← same] at listed ⊢
      exact (listed.1 stands).2.symm

/-- What one more row does to the count: nothing if its driver is not counted, and otherwise one
more for the fleet of its driver. -/
theorem onlineByFleet_append {row : Row} (has : database.drivers = some rows)
    (hasMore : after.drivers = some (rows ++ [row]))
    (flags : ∀ other ∈ rows ++ [row], other.HasFlags) :
    (row.isOnDuty = false → after.onlineByFleet = database.onlineByFleet) ∧
      ∀ counts fleet, database.onlineByFleet = .ok counts → row.fleet? = some fleet →
        ∃ later, after.onlineByFleet = .ok later ∧ ∀ other, numberOf other later =
          numberOf other counts + if row.isOnDuty = true ∧ other = fleet then 1 else 0 := by
  have old : ∀ other ∈ rows, other.HasFlags :=
    fun other listed => flags other (List.mem_append_left _ listed)
  constructor
  · intro offDuty
    rw [onlineByFleet_eq has old, onlineByFleet_eq hasMore flags, List.filter_append,
      List.filter_singleton, offDuty]
    simp
  · intro counts fleet answered own
    have all := (exists_counts_iff has old).1 ⟨counts, answered⟩
    have more : ∃ later, after.onlineByFleet = .ok later := by
      refine (exists_counts_iff hasMore flags).2 fun other listed onDuty => ?_
      rcases List.mem_append.1 listed with isOld | isNew
      · exact all other isOld onDuty
      · rw [List.mem_singleton.1 isNew]
        exact ⟨fleet, own⟩
    rcases more with ⟨later, grown⟩
    refine ⟨later, grown, fun other => ?_⟩
    rw [numberOf_eq hasMore flags grown, numberOf_eq has old answered, List.countP_append,
      List.countP_singleton]
    by_cases same : other = fleet
    · simp [Row.servesIn, own, same]
    · simp [Row.servesIn, own, same, Ne.symm same]

/-- After any submissions the online drivers that may work are counted by fleet. There is a mapping
exactly if a fleet is stored for each of these drivers, and otherwise a complaint about a text that
names none; so there always is one if drivers are submitted with fleets. A mapping has just the
fleets with such drivers, each with their number, and one more driver changes nothing if it is not
submitted as online and active, and otherwise the number of its fleet by one. -/
theorem counts_follow_submissions (submissions : List Submission) :
    let database := afterSubmissions submissions
    ∃ rows, database.drivers = some rows ∧
      ((∃ counts, database.onlineByFleet = .ok counts) ↔
        ∀ row ∈ rows, row.isOnDuty = true → ∃ fleet, row.fleet? = some fleet) ∧
      (∀ raised, database.onlineByFleet = .error raised →
        ∃ row ∈ rows, row.isOnDuty = true ∧ row.fleet? = none ∧
          raised = .fault (Vocabulary.unknownName Fleet (storedFleet row))) ∧
      ((∀ submission ∈ submissions, submission.table = .drivers →
          ∃ fleet, submission.fleet? = some fleet) →
        ∃ counts, database.onlineByFleet = .ok counts) ∧
      (∀ counts, database.onlineByFleet = .ok counts →
        (counts.map Prod.fst).Nodup ∧
          (∀ fleet number, (fleet, number) ∈ counts ↔
            0 < number ∧ rows.countP (Row.servesIn fleet) = number) ∧
          (counts.map Prod.snd).sum = rows.countP Row.isOnDuty) ∧
      ∀ (submission : Submission) (after : Database), submission.table = .drivers →
        submission.run database = .ok after →
        (submission.isOnDuty = false → after.onlineByFleet = database.onlineByFleet) ∧
          (∀ counts fleet, database.onlineByFleet = .ok counts → submission.fleet? = some fleet →
            ∃ later, after.onlineByFleet = .ok later ∧ ∀ other, numberOf other later =
              numberOf other counts +
                if submission.isOnDuty = true ∧ other = fleet then 1 else 0) ∧
          ∃ row, after.drivers = some (rows ++ [row]) ∧ row.isOnDuty = submission.isOnDuty ∧
            row.fleet? = submission.fleet? := by
  intro database
  rcases exists_holdsDrivers submissions with ⟨rows, holds⟩
  have has : database.drivers = some rows := holds.has
  refine ⟨rows, has, exists_counts_iff has holds.flags,
    fun _ failed => error_of_onlineByFleet has holds.flags failed, ?_, fun counts answered => ?_,
    fun submission after isDriver ran => ?_⟩
  · intro all
    refine (exists_counts_iff has holds.flags).2 fun row listed _ => ?_
    rcases holds.shows row listed with ⟨submission, isOne, isDriver, shows⟩
    rw [shows.fleet]
    exact all submission isOne isDriver
  · exact ⟨nodup_counts answered, fun _ _ => mem_counts_iff has holds.flags answered,
      sum_counts has holds.flags answered⟩
  · rcases submission.exists_driver_row isDriver ran with ⟨own, row, hasOwn, grown, shows⟩
    rw [has, Option.some.injEq] at hasOwn
    subst hasOwn
    have flags : ∀ other ∈ rows ++ [row], other.HasFlags := by
      intro other listed
      rcases List.mem_append.1 listed with isOld | isNew
      · exact holds.flags other isOld
      · rw [List.mem_singleton.1 isNew]
        exact shows.flags
    rcases onlineByFleet_append has grown flags with ⟨offDuty, onDuty⟩
    rw [shows.onDuty, shows.fleet] at onDuty
    rw [shows.onDuty] at offDuty
    exact ⟨offDuty, onDuty, row, grown, shows.onDuty, shows.fleet⟩

/-- A driver that is online, with the mandatory columns. -/
def onlineDriver (id : String) (fleet : Given) (suits : fleet.Suits "fleet") : Submission where
  table := .drivers
  moment := ⟨2026, 2, 28, 12, 0, 0, 0, none⟩
  given := [("id", .data (.string id)), ("name", .data (.string "Lin")),
    ("driver_no", .data (.string "D001")), ("account", .data (.string id)), ("fleet", fleet),
    ("is_online", .data (.bool true))]
  suits := by simpa [Given.Suits] using suits

/-- The first driver of a fleet. -/
def firstOnline : Submission := onlineDriver "D1" (.fleet .rsk) rfl

/-- Another driver of the same fleet. -/
def secondOnline : Submission := onlineDriver "D2" (.data (.string "RSK")) trivial

/-- A driver with a text that names no fleet. -/
def strayOnline : Submission := onlineDriver "D2" (.data (.string "XYZ")) trivial

theorem exists_of_isSome {ε α : Type} {outcome : Except ε α}
    (succeeds : outcome.toOption.isSome = true) : ∃ value, outcome = .ok value := by
  cases outcome with
  | error _ => cases succeeds
  | ok value => exact ⟨value, rfl⟩

/-- The second driver makes one more in the fleet of both. -/
theorem secondOnline_counted :
    ∃ after counts later, secondOnline.run (afterSubmissions [firstOnline]) = .ok after ∧
      (afterSubmissions [firstOnline]).onlineByFleet = .ok counts ∧
      after.onlineByFleet = .ok later ∧ numberOf .rsk later = numberOf .rsk counts + 1 := by
  have given : ∀ submission ∈ [firstOnline], submission.table = .drivers →
      ∃ fleet, submission.fleet? = some fleet := by
    intro submission listed _
    rw [List.mem_singleton.1 listed]
    exact ⟨.rsk, rfl⟩
  have runs : ∃ after, secondOnline.run (afterSubmissions [firstOnline]) = .ok after :=
    exists_of_isSome (by decide +kernel)
  rcases runs with ⟨after, ran⟩
  rcases counts_follow_submissions [firstOnline] with ⟨rows, _, _, _, mapping, _, more⟩
  rcases mapping given with ⟨counts, answered⟩
  rcases (more secondOnline after rfl ran).2.1 counts .rsk answered rfl with ⟨later, grown, numbers⟩
  exact ⟨after, counts, later, ran, answered, grown, numbers .rsk⟩

/-- A driver of a fleet is online, but because of another one there is no mapping. -/
theorem strayOnline_breaks :
    ∃ rows, (afterSubmissions [firstOnline, strayOnline]).drivers = some rows ∧
      rows.countP (Row.servesIn .rsk) = 1 ∧
      ∀ counts, (afterSubmissions [firstOnline, strayOnline]).onlineByFleet ≠ .ok counts := by
  have runs : ∃ first, firstOnline.run fresh = .ok first := exists_of_isSome (by decide +kernel)
  have runsMore : ∃ second, strayOnline.run (afterSubmissions [firstOnline]) = .ok second :=
    exists_of_isSome (by decide +kernel)
  rcases runs with ⟨first, ranFirst⟩
  rcases runsMore with ⟨second, ranSecond⟩
  have isFirst : afterSubmissions [firstOnline] = first := by
    rw [afterSubmissions, List.foldl_cons, List.foldl_nil, submit, ranFirst]
  have isSecond : afterSubmissions [firstOnline, strayOnline] = second := by
    rw [← List.singleton_append, afterSubmissions_append, submit, ranSecond]
  rcases firstOnline.exists_driver_row rfl ranFirst with ⟨_, row, ⟨⟩, hasFirst, shows⟩
  rcases strayOnline.exists_driver_row rfl ranSecond with ⟨_, stray, hasRows, hasBoth, strayShows⟩
  rw [isFirst, hasFirst, Option.some.injEq] at hasRows
  subst hasRows
  have inFleet : row.servesIn .rsk = true := by
    rw [Row.servesIn, shows.onDuty, shows.fleet]
    rfl
  have inNone : stray.fleet? = none := strayShows.fleet
  have onDuty : stray.isOnDuty = true := strayShows.onDuty
  rw [isSecond]
  refine ⟨_, hasBoth, ?_, fun counts answered => ?_⟩
  · have notIn : stray.servesIn .rsk = false := by simp [Row.servesIn, inNone]
    simp [inFleet, notIn]
  · have flags : ∀ other ∈ [] ++ [row] ++ [stray], other.HasFlags := by
      simp [shows.flags, strayShows.flags]
    rcases (exists_counts_iff hasBoth flags).1 ⟨counts, answered⟩ stray (by simp) onDuty with
      ⟨fleet, found⟩
    cases inNone.symm.trans found

end Database

end FleetGate
