import FleetGate.Proofs.Database.Draft
import FleetGate.Proofs.Json.TextLists

/-!
# Stored permissions

A stored list resolves to permissions exactly if its items are their words, in this order. The
words survive the storage as JSON, and nothing else comes out of it as such a word. A list with
anything else in it resolves to an error, and nothing takes its place.
-/

namespace FleetGate

theorem Vocabulary.eq_text_of_ofValue? {α : Type} [Vocabulary α] {text : Text} {member : α}
    (found : ofValue? text = some member) : text = Vocabulary.text member := by
  have same := List.find?_some found
  exact (of_decide_eq_true same).symm

namespace Permission

theorem ofValue?_text (permission : Permission) :
    Vocabulary.ofValue? (Vocabulary.text permission) = some permission := by
  cases permission <;> rfl

/-- The word of a permission as an item of a list. -/
def asItem (permission : Permission) : Json :=
  .string (Vocabulary.text permission)

@[simp]
theorem ofJson?_asItem (permission : Permission) :
    Vocabulary.ofJson? permission.asItem = some permission :=
  ofValue?_text permission

theorem eq_asItem_of_ofJson? {item : Json} {permission : Permission}
    (found : Vocabulary.ofJson? item = some permission) : item = permission.asItem := by
  cases item with
  | string text => rw [asItem, Vocabulary.eq_text_of_ofValue? found]
  | _ => cases found

/-- The words of permissions are printable. -/
theorem isVisibleText_asItem (permission : Permission) : Json.IsVisibleText permission.asItem := by
  have visible (string : String)
      (all : (string.toList.all fun char => 32 ≤ char.toNat && char.toNat ≤ 126) = true) :
      ∀ point ∈ Text.ofString string, point.IsVisible := by
    intro point listed
    rcases List.mem_map.1 listed with ⟨char, isChar, rfl⟩
    have bounds := List.all_eq_true.1 all char isChar
    rw [Bool.and_eq_true, decide_eq_true_eq, decide_eq_true_eq] at bounds
    exact bounds
  apply visible
  cases permission <;> rfl

end Permission

namespace Checked

/-- Items without an issue are the words of permissions. -/
theorem permissionIssues_eq_nil_iff {name : String} {position : Nat} {items : List Json} :
    permissionIssues name position items = [] ↔
      ∃ permissions : List Permission, items = permissions.map Permission.asItem := by
  induction items generalizing position with
  | nil => exact ⟨fun _ => ⟨[], rfl⟩, fun _ => rfl⟩
  | cons item rest ih =>
      rw [permissionIssues]
      cases found : Vocabulary.ofJson? (α := Permission) item with
      | none =>
          constructor
          · intro none
            cases none
          · rintro ⟨permissions, same⟩
            cases permissions with
            | nil => cases same
            | cons permission others =>
                rw [List.map_cons, List.cons.injEq] at same
                rw [same.1, Permission.ofJson?_asItem] at found
                cases found
      | some permission =>
          rw [Permission.eq_asItem_of_ofJson? found]
          constructor
          · intro none
            rcases ih.1 none with ⟨permissions, rfl⟩
            exact ⟨permission :: permissions, rfl⟩
          · rintro ⟨permissions, same⟩
            cases permissions with
            | nil => cases same
            | cons first others =>
                rw [List.map_cons, List.cons.injEq] at same
                exact ih.2 ⟨others, same.2⟩

theorem asPermissions_array {name : String} {items : List Json} {permissions : List Permission} :
    asPermissions name (.array items) = .ok permissions ↔
      items = permissions.map Permission.asItem := by
  have members (permissions : List Permission) :
      (permissions.map Permission.asItem).filterMap Vocabulary.ofJson? = permissions := by
    have same : Vocabulary.ofJson? ∘ Permission.asItem = some := funext Permission.ofJson?_asItem
    rw [List.filterMap_map, same, List.filterMap_some]
  rw [asPermissions]
  constructor
  · intro isOk
    cases issues : permissionIssues name 0 items with
    | nil =>
        rcases permissionIssues_eq_nil_iff.1 issues with ⟨own, rfl⟩
        rw [issues, members] at isOk
        cases isOk
        rfl
    | cons issue others =>
        rw [issues] at isOk
        cases isOk
  · rintro rfl
    rw [permissionIssues_eq_nil_iff.2 ⟨permissions, rfl⟩, members]

end Checked

namespace GivenPermissions

/-- The words of permissions as the items of a list. -/
def ofPermissions (permissions : List Permission) : GivenPermissions :=
  .list (permissions.map Permission.asItem)

/-- A list resolves to permissions exactly if its items are their words. -/
theorem resolve_list_eq_ok_iff {role : Role} {items : List Json} {permissions : List Permission} :
    (list items).resolve role = .ok permissions ↔ list items = ofPermissions permissions := by
  rw [ofPermissions, list.injEq]
  constructor
  · intro isOk
    simp only [resolve, Record.readJson] at isOk
    cases isRead : Json.read .values ((Json.array items).write .spaced) with
    | error stop => cases stop <;> simp [isRead] at isOk
    | ok value =>
        -- What is read may differ from what was written, but not if words are read.
        rcases Json.exists_array_of_read isRead with ⟨values, rfl, written⟩
        simp only [isRead, Record.permissionsOf] at isOk
        cases taken : Checked.asPermissions "permissions" (.array values) with
        | error issues => simp [taken] at isOk
        | ok own =>
            simp only [taken, Except.ok.injEq] at isOk
            subst isOk
            have words := Checked.asPermissions_array.1 taken
            rw [← words]
            refine (written fun item listed => ?_).symm
            rw [words] at listed
            rcases List.mem_map.1 listed with ⟨permission, _, rfl⟩
            exact permission.isVisibleText_asItem
  · rintro rfl
    have visible : ∀ item ∈ permissions.map Permission.asItem, Json.IsVisibleText item :=
      List.forall_mem_map.2 fun permission _ => permission.isVisibleText_asItem
    simp only [resolve, Record.readJson, Json.read_visible visible, Record.permissionsOf]
    rw [Checked.asPermissions_array.2 rfl]

end GivenPermissions

end FleetGate
