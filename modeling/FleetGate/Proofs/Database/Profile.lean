import FleetGate.Database.Record

/-!
# Profiles

All columns of a user but the permissions make up a profile. It is there if each of these columns
can be read, and the permissions are put into it last: whatever they are, they change no other
field.
-/

namespace FleetGate

theorem Row.cell_put_other {column other : Text} (differ : other ≠ column) (row : Row)
    (cell : Cell) : (row.put column cell).cell other = row.cell other := by
  rw [Row.cell, Row.put, Entries.find_put_other differ, Row.cell]

namespace Record

/-- The user in a row, but for the permissions. There is none if some other column cannot be
read. -/
def profile? (row : Row) : Option (List Permission → User) :=
  match readWord Role (row.cell "role"), readWord Fleet (row.cell "fleet"),
    readWord FleetAccess (row.cell "fleet_access"), readTimestamp (row.cell "created_at"),
    readTimestamp (row.cell "updated_at") with
  | .ok role, .ok fleet, .ok fleetAccess, .ok createdAt, .ok updatedAt =>
    some fun permissions => {
      id := row.id
      name := (row.cell "name").asText
      account := (row.cell "account").asText
      role := role
      fleet := fleet
      permissions := permissions
      fleetAccess := fleetAccess
      isActive := (row.cell "is_active").truthy
      createdAt := createdAt
      updatedAt := updatedAt }
  | _, _, _, _, _ => none

/-- The role in a profile. -/
def roleOf (profile : List Permission → User) : Role :=
  (profile []).role

variable {row : Row} {profile : List Permission → User}

theorem readUser_of_profile? (known : profile? row = some profile) :
    readUser row =
      match readJson (row.cell "permissions") with
      | .error fault => .error (.fault fault)
      | .ok stored => (permissionsOf (roleOf profile) stored).map profile := by
  unfold profile? at known
  split at known
  · rename_i ownRole _ _ _ _ role fleet access createdAt updatedAt
    cases known
    simp only [readUser, role, fleet, access, createdAt, updatedAt]
    cases readJson (row.cell "permissions") with
    | error fault => rfl
    | ok stored =>
        change (permissionsOf ownRole stored).bind _ = (permissionsOf ownRole stored).map _
        cases permissionsOf ownRole stored with
        | error raised => rfl
        | ok permissions => rfl
  · cases known

/-- Whatever the permissions are, a column that cannot be read has the last word. -/
theorem exists_fault_of_profile? (unknown : profile? row = none) :
    ∃ fault, readUser row = .error (.fault fault) := by
  -- The columns are read in order, and the permissions are looked at behind all of them.
  simp only [readUser, bind, Except.bind]
  cases role : readWord Role (row.cell "role") with
  | error fault => exact ⟨fault, rfl⟩
  | ok ownRole =>
  cases fleet : readWord Fleet (row.cell "fleet") with
  | error fault => exact ⟨fault, rfl⟩
  | ok ownFleet =>
  cases stored : readJson (row.cell "permissions") with
  | error fault => exact ⟨fault, rfl⟩
  | ok value =>
  cases access : readWord FleetAccess (row.cell "fleet_access") with
  | error fault => exact ⟨fault, rfl⟩
  | ok ownAccess =>
  cases createdAt : readTimestamp (row.cell "created_at") with
  | error fault => exact ⟨fault, rfl⟩
  | ok ownCreated =>
  cases updatedAt : readTimestamp (row.cell "updated_at") with
  | error fault => exact ⟨fault, rfl⟩
  | ok ownUpdated => simp [profile?, role, fleet, access, createdAt, updatedAt] at unknown

/-- A profile holds the permissions that are put into it, and nothing else depends on them. -/
theorem profile_fields (known : profile? row = some profile) (permissions : List Permission) :
    (profile permissions).permissions = permissions ∧
      ∀ others, { profile permissions with permissions := others } = profile others := by
  unfold profile? at known
  split at known
  · cases known
    exact ⟨rfl, fun _ => rfl⟩
  · cases known

/-- The permissions column is no part of a profile. -/
theorem profile?_put (row : Row) (cell : Cell) :
    profile? (row.put "permissions" cell) = profile? row := by
  have kept {name : String} (differ : name ≠ "permissions") :
      (row.put "permissions" cell).cell (Text.ofString name) = row.cell (Text.ofString name) :=
    Row.cell_put_other (mt Text.ofString_injective differ) row cell
  simp (disch := decide) only [profile?, Row.id, kept]

end Record

end FleetGate
