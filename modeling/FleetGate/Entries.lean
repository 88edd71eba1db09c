import FleetGate.Text.CodePoint

/-!
# Named entries

A list of values with names, in the order in which the names first came. Objects, contexts and
request states are such lists. `put` writes a name and `find` reads it; what one name is given
never touches another.
-/

namespace FleetGate

/-- Values with names. -/
abbrev Entries (α : Type) := List (Text × α)

namespace Entries

variable {α : Type}

/-- The value of a name. -/
def find (name : Text) : Entries α → Option α
  | [] => none
  | (own, value) :: rest => if own = name then some value else find name rest

/-- Sets the value of a name: in its old place, or at the end if it is new. -/
def put (name : Text) (value : α) : Entries α → Entries α
  | [] => [(name, value)]
  | (own, old) :: rest =>
    if own = name then (own, value) :: rest else (own, old) :: put name value rest

/-- Sets the values of several names, one after the other. -/
def putAll (entries added : Entries α) : Entries α :=
  added.foldl (fun done entry => put entry.1 entry.2 done) entries

/-- Writing a name makes its value the one that is found. -/
@[simp]
theorem find_put_same (name : Text) (value : α) (entries : Entries α) :
    find name (put name value entries) = some value := by
  induction entries with
  | nil => simp [put, find]
  | cons entry rest ih =>
    obtain ⟨own, old⟩ := entry
    by_cases same : own = name <;> simp [put, find, same, ih]

/-- Writing a name leaves the other names alone. -/
theorem find_put_other {name other : Text} (differ : other ≠ name) (value : α)
    (entries : Entries α) : find other (put name value entries) = find other entries := by
  induction entries with
  | nil => simp [put, find, differ.symm]
  | cons entry rest ih =>
    obtain ⟨own, old⟩ := entry
    by_cases same : own = name
    · simp [put, find, same, differ.symm]
    · by_cases found : own = other
      · simp [put, find, found, differ]
      · simp [put, find, same, found, ih]

/-- Writing changes what is found under one name only. -/
theorem find_put (name other : Text) (value : α) (entries : Entries α) :
    find other (put name value entries) =
      if other = name then some value else find other entries := by
  by_cases same : other = name
  · simp [same]
  · simp [same, find_put_other same]

/-- Only a name that is there is found. -/
theorem find_of_notMem {name : Text} {entries : Entries α}
    (missing : name ∉ entries.map Prod.fst) : find name entries = none := by
  induction entries with
  | nil => rfl
  | cons entry rest ih =>
    simp only [List.map_cons, List.mem_cons, not_or] at missing
    simp [find, Ne.symm missing.1, ih missing.2]

theorem mem_of_find {name : Text} {value : α} {entries : Entries α}
    (found : find name entries = some value) : (name, value) ∈ entries := by
  induction entries with
  | nil => cases found
  | cons entry rest ih =>
    obtain ⟨own, ownValue⟩ := entry
    rw [find] at found
    split at found
    · rename_i same
      cases found
      simp [same]
    · exact List.mem_cons_of_mem _ (ih found)

theorem find_append (name : Text) (left right : Entries α) :
    find name (left ++ right) = (find name left).or (find name right) := by
  induction left with
  | nil => rfl
  | cons entry rest ih =>
    obtain ⟨own, value⟩ := entry
    by_cases same : own = name
    · simp [find, same]
    · simp [find, same, ih]

/-- A new name goes to the end. -/
theorem put_of_new {name : Text} {entries : Entries α} (new : name ∉ entries.map Prod.fst)
    (value : α) : put name value entries = entries ++ [(name, value)] := by
  induction entries with
  | nil => rfl
  | cons entry rest ih =>
    obtain ⟨own, old⟩ := entry
    simp only [List.map_cons, List.mem_cons, not_or] at new
    simp [put, Ne.symm new.1, ih new.2]

/-- Entries with new names go to the end. -/
theorem putAll_of_new {entries added : Entries α}
    (distinct : ((entries ++ added).map Prod.fst).Nodup) :
    putAll entries added = entries ++ added := by
  induction added generalizing entries with
  | nil => simp [putAll]
  | cons entry rest ih =>
    have new : entry.1 ∉ entries.map Prod.fst := by
      rw [List.map_append, List.nodup_append] at distinct
      intro listed
      exact distinct.2.2 _ listed _ (by simp) rfl
    rw [List.append_cons] at distinct ⊢
    rw [← ih distinct, putAll, List.foldl_cons, put_of_new new]
    rfl

/-- Entries whose names differ are put together as they are. -/
theorem putAll_nil {added : Entries α} (distinct : (added.map Prod.fst).Nodup) :
    putAll [] added = added :=
  putAll_of_new distinct

/-- Of several names that differ, each is found with its own value, and any other as before. -/
theorem find_putAll {added : Entries α} (distinct : (added.map Prod.fst).Nodup) (name : Text)
    (entries : Entries α) :
    find name (putAll entries added) = (find name added).or (find name entries) := by
  induction added generalizing entries with
  | nil => rfl
  | cons entry rest ih =>
    obtain ⟨own, value⟩ := entry
    obtain ⟨new, others⟩ := List.nodup_cons.1 distinct
    have step : putAll entries ((own, value) :: rest) = putAll (put own value entries) rest := rfl
    rw [step, ih others, find_put, find]
    by_cases same : own = name
    · subst same
      simp [find_of_notMem new]
    · simp [same, Ne.symm same]

/-- Of several values with one name the last one is found. -/
theorem find_putAll_reverse (name : Text) (entries added : Entries α) :
    find name (putAll entries added) = (find name added.reverse).or (find name entries) := by
  induction added generalizing entries with
  | nil => rfl
  | cons entry rest ih =>
    obtain ⟨own, value⟩ := entry
    have step : putAll entries ((own, value) :: rest) = putAll (put own value entries) rest := rfl
    rw [step, ih, find_put, List.reverse_cons, find_append, Option.or_assoc]
    by_cases same : own = name
    · simp [find, same]
    · simp [find, same, Ne.symm same]

theorem mem_names_put {name other : Text} {value : α} {entries : Entries α} :
    other ∈ (put name value entries).map Prod.fst ↔
      other = name ∨ other ∈ entries.map Prod.fst := by
  induction entries with
  | nil => simp [put]
  | cons entry rest ih =>
    obtain ⟨own, old⟩ := entry
    by_cases same : own = name
    · simp [put, same]
    · simp only [put, same, if_false, List.map_cons, List.mem_cons, ih]
      exact or_left_comm

/-- Writing keeps the names different. -/
theorem nodup_put {entries : Entries α} (distinct : (entries.map Prod.fst).Nodup) (name : Text)
    (value : α) : ((put name value entries).map Prod.fst).Nodup := by
  induction entries with
  | nil => simp [put]
  | cons entry rest ih =>
    obtain ⟨own, old⟩ := entry
    obtain ⟨new, others⟩ := List.nodup_cons.1 distinct
    by_cases same : own = name
    · simpa [put, same] using distinct
    · simp only [put, same, if_false, List.map_cons]
      refine List.nodup_cons.2 ⟨fun listed => ?_, ih others⟩
      exact (mem_names_put.1 listed).elim same new

theorem nodup_putAll {entries : Entries α} (distinct : (entries.map Prod.fst).Nodup)
    (added : Entries α) : ((putAll entries added).map Prod.fst).Nodup := by
  induction added generalizing entries with
  | nil => exact distinct
  | cons entry rest ih => exact ih (nodup_put distinct entry.1 entry.2)

theorem forall_put {holds : α → Prop} {name : Text} {value : α} {entries : Entries α}
    (own : ∀ entry ∈ entries, holds entry.2) (new : holds value) :
    ∀ entry ∈ put name value entries, holds entry.2 := by
  induction entries with
  | nil => simpa [put] using new
  | cons entry rest ih =>
    obtain ⟨ownName, old⟩ := entry
    simp only [List.forall_mem_cons] at own
    by_cases same : ownName = name
    · simpa [put, same, new] using own.2
    · simpa [put, same, own.1] using ih own.2

/-- What holds of all values holds of them when they have been put together. -/
theorem forall_putAll {holds : α → Prop} {entries added : Entries α}
    (own : ∀ entry ∈ entries, holds entry.2) (new : ∀ entry ∈ added, holds entry.2) :
    ∀ entry ∈ putAll entries added, holds entry.2 := by
  induction added generalizing entries with
  | nil => exact own
  | cons entry rest ih =>
    simp only [List.forall_mem_cons] at new
    exact ih (forall_put own new.1) new.2

/-- The names in order of their code points. -/
def sortedNames (entries : Entries α) : List Text :=
  (entries.map (·.1)).mergeSort Text.le

end Entries

end FleetGate
