import FleetGate.Proofs.Database.Profile
import FleetGate.Proofs.Database.Rows
import Mathlib.Data.Option.Basic

/-!
# Reading inserted rows

A row that an insertion makes is read as the record that its draft describes: words come back from
their names, flags from zero and one, and timestamps from their stored texts. Conversely a draft
that describes a record sends something proper to every column.
-/

namespace FleetGate

namespace Text

variable {text : Text}

theorem all_toChar?_iff : (text.all fun point => point.toChar?.isSome) = true ↔ text.IsScalar := by
  rw [List.all_eq_true]
  constructor
  · intro all point listed
    have some := all point listed
    cases point with
    | scalar char => exact ⟨char, rfl⟩
    | surrogate half => cases some
  · intro scalar point listed
    rcases scalar point listed with ⟨char, rfl⟩
    rfl

theorem scalar?_eq_some_iff {other : Text} :
    text.scalar? = some other ↔ text.IsScalar ∧ text = other := by
  rw [← all_toChar?_iff, scalar?]
  split
  · rename_i scalar
    simp [scalar]
  · rename_i broken
    simp [broken]

end Text

namespace Record

/-! ## Single cells -/

theorem exists_text_of_textCell {field : Option Text} {cell : Cell}
    (sent : textCell field = .ok cell) (filled : cell.isNull = false) :
    ∃ text, field.bind Text.scalar? = some text ∧ cell = .text text := by
  cases field with
  | none =>
      cases sent
      cases filled
  | some text =>
      simp only [textCell, Cell.ofParameter] at sent
      split at sent
      · rename_i scalar
        cases sent
        exact ⟨text, by simp [Text.scalar?, scalar], rfl⟩
      · cases sent

/-- A text that has a stored form is sent as it is. -/
theorem exists_textCell {own text : Text} (stored : own.scalar? = some text) :
    ∃ cell, textCell (some own) = .ok cell ∧ cell.isNull = false := by
  simp only [Text.scalar?] at stored
  split at stored
  · rename_i scalar
    exact ⟨.text own, by simp only [textCell, Cell.ofParameter, scalar, if_true], rfl⟩
  · cases stored

theorem exists_member_of_memberCell {α : Type} [Vocabulary α] {field : Option α} {cell : Cell}
    (sent : memberCell field = .ok cell) (filled : cell.isNull = false) :
    ∃ member, field = some member ∧ cell = wordCell member := by
  cases field with
  | none =>
      cases sent
      cases filled
  | some member =>
      cases sent
      exact ⟨member, rfl, rfl⟩

theorem exists_memberCell {α : Type} [Vocabulary α] (member : α) :
    ∃ cell, memberCell (some member) = .ok cell ∧ cell.isNull = false :=
  ⟨wordCell member, rfl, rfl⟩

theorem exists_ofParameter {count : Int} (fits : Cell.fits count = true) :
    ∃ cell, Cell.ofParameter (.int count) = .ok cell ∧ cell.isNull = false :=
  ⟨.integer count, by simp only [Cell.ofParameter, fits, if_true], rfl⟩

theorem fits_of_ofParameter {count : Int} {cell : Cell}
    (sent : Cell.ofParameter (.int count) = .ok cell) : Cell.fits count = true := by
  simp only [Cell.ofParameter] at sent
  split at sent
  · assumption
  · cases sent

@[simp]
theorem truthy_bitCell (flag : Bool) : (bitCell flag).truthy = flag := by
  cases flag <;> rfl

/-- A timestamp that was given or filled in is read back. -/
theorem readTimestamp_recordedText (moment : Moment) (given : Option Moment) :
    readTimestamp (.text (moment.recordedText given)) = .ok (moment.recorded given) := by
  cases given with
  | none =>
      simp only [Moment.recordedText, Moment.recorded, readTimestamp,
        Timestamp.readIso_storedToSecond moment.calendar]
  | some own =>
      simp only [Moment.recordedText, Moment.recorded, readTimestamp,
        Timestamp.readIso_stored own.calendar]

end Record

open Record

/-! ## Drivers -/

namespace DriverDraft

variable {draft : DriverDraft} {moment : Moment} {row : Row}

/-- A row of a driver is read as the driver that the draft describes. -/
theorem exists_driver_of_isMade (made : row.IsMade ⟨.driver draft, moment⟩) :
    ∃ driver, draft.driver? moment = some driver ∧ readDriver row = .ok driver := by
  have cells := made.cells
  have filled := made.filled
  simp only [Insertion.table, Draft.table, TableName.columns, List.forall_mem_cons,
    List.not_mem_nil, false_implies, implies_true, and_true, Draft.cell, cell, true_implies]
    at cells filled
  rcases cells with ⟨id, name, nickname, driverNo, account, carPlate, fleet, status, count,
    isOnline, isActive, isApproved, createdAt, updatedAt⟩
  rcases filled with ⟨hasId, hasName, hasNickname, hasDriverNo, hasAccount, hasCarPlate, hasFleet,
    hasStatus, -⟩
  rcases exists_text_of_textCell id hasId with ⟨ownId, givenId, idCell⟩
  rcases exists_text_of_textCell name hasName with ⟨ownName, givenName, nameCell⟩
  rcases exists_text_of_textCell nickname hasNickname with ⟨ownNickname, givenNickname, nickCell⟩
  rcases exists_text_of_textCell driverNo hasDriverNo with ⟨ownNumber, givenNumber, numberCell⟩
  rcases exists_text_of_textCell account hasAccount with ⟨ownAccount, givenAccount, accountCell⟩
  rcases exists_text_of_textCell carPlate hasCarPlate with ⟨ownPlate, givenPlate, plateCell⟩
  rcases exists_member_of_memberCell fleet hasFleet with ⟨ownFleet, givenFleet, fleetCell⟩
  rcases exists_member_of_memberCell status hasStatus with ⟨ownStatus, givenStatus, statusCell⟩
  have fits := fits_of_ofParameter count
  simp only [Option.or_some, Option.bind_some] at givenId givenNickname givenPlate
  simp only [Option.or_some, Option.some.injEq] at givenStatus
  simp only [Except.ok.injEq] at isOnline isActive isApproved createdAt updatedAt
  refine ⟨⟨ownId, ownName, ownNickname, ownNumber, ownAccount, ownPlate, ownFleet, ownStatus,
    draft.isOnline.getD false, draft.isActive.getD true, draft.isApproved.getD false,
    moment.recorded draft.createdAt, moment.recorded draft.updatedAt⟩, ?_, ?_⟩
  · simp [driver?, givenId, givenName, givenNickname, givenNumber, givenAccount, givenPlate,
      givenFleet, givenStatus, fits]
  · simp [readDriver, fleetCell, statusCell, readWord_fleet, readWord_status, ← createdAt,
      ← updatedAt, ← isOnline, ← isActive, ← isApproved, readTimestamp_recordedText, Row.id,
      idCell, nameCell, nickCell, numberCell, accountCell, plateCell, Cell.asText, bind, pure,
      Except.bind, Except.pure]

theorem id_of_driver? {driver : Driver} (describes : draft.driver? moment = some driver) :
    driver.id = draft.id := by
  simp only [driver?, Option.bind_eq_bind, Option.bind_eq_some_iff] at describes
  rcases describes with ⟨_, id, _, _, _, _, _, _, _, _, _, _, _, _, _, _, same⟩
  cases same
  exact (Text.scalar?_eq_some_iff.1 id).2.symm

/-- A draft that describes a driver sends something proper to every column. -/
theorem exists_cell_of_driver? {driver : Driver} (describes : draft.driver? moment = some driver) :
    ∀ column ∈ TableName.drivers.columns, ∃ cell, draft.cell moment column.name = .ok cell ∧
      (column.isOptional = false → cell.isNull = false) := by
  simp only [driver?, Option.bind_eq_bind, Option.bind_eq_some_iff, Option.guard_eq_some']
    at describes
  rcases describes with ⟨_, id, _, ⟨_, hasName, name⟩, _, nickname, _, ⟨_, hasNumber, number⟩, _,
    ⟨_, hasAccount, account⟩, _, plate, fleet, hasFleet, _, fits, -⟩
  simp only [TableName.columns, List.forall_mem_cons, List.not_mem_nil, false_implies,
    implies_true, and_true, true_implies, cell, Option.or_some, hasName, hasNumber, hasAccount,
    hasFleet]
  exact ⟨exists_textCell id, exists_textCell name, exists_textCell nickname,
    exists_textCell number, exists_textCell account, exists_textCell plate,
    exists_memberCell fleet, exists_memberCell _, exists_ofParameter fits, ⟨_, rfl, rfl⟩,
    ⟨_, rfl, rfl⟩, ⟨_, rfl, rfl⟩, ⟨_, rfl, rfl⟩, ⟨_, rfl, rfl⟩⟩

end DriverDraft

/-! ## Users -/

namespace UserDraft

variable {draft : UserDraft} {moment : Moment} {row : Row}

/-- The stored permissions resolve like the list that the draft gives. -/
theorem resolve_eq (role : Role) (permissions : GivenPermissions) :
    permissions.resolve role =
      match readJson permissions.cell with
      | .ok stored => permissionsOf role stored
      | .error fault => .error (.fault fault) := by
  cases permissions with
  | absent => rfl
  | null =>
      have read : readJson GivenPermissions.null.cell = .ok .null := rfl
      rw [read]
      rfl
  | list items => rfl

/-- A row of a user has the profile that the draft describes. -/
theorem exists_profile_of_isMade (made : row.IsMade ⟨.user draft, moment⟩) :
    ∃ user, draft.user? moment = some user ∧ profile? row = some user ∧
      roleOf user = draft.ownRole := by
  have cells := made.cells
  have filled := made.filled
  simp only [Insertion.table, Draft.table, TableName.columns, List.forall_mem_cons,
    List.not_mem_nil, false_implies, implies_true, and_true, Draft.cell, cell, true_implies]
    at cells filled
  rcases cells with ⟨id, name, account, role, fleet, -, access, isActive, createdAt, updatedAt⟩
  rcases filled with ⟨hasId, hasName, hasAccount, hasRole, hasFleet, -, hasAccess, -⟩
  rcases exists_text_of_textCell id hasId with ⟨ownId, givenId, idCell⟩
  rcases exists_text_of_textCell name hasName with ⟨ownName, givenName, nameCell⟩
  rcases exists_text_of_textCell account hasAccount with ⟨ownAccount, givenAccount, accountCell⟩
  rcases exists_member_of_memberCell role hasRole with ⟨ownRole, givenRole, roleCell⟩
  rcases exists_member_of_memberCell fleet hasFleet with ⟨ownFleet, givenFleet, fleetCell⟩
  rcases exists_member_of_memberCell access hasAccess with ⟨ownAccess, givenAccess, accessCell⟩
  rw [Option.bind_some] at givenId
  simp only [Option.or_some, Option.some.injEq] at givenRole givenAccess
  simp only [Except.ok.injEq] at isActive createdAt updatedAt
  have sameRole : draft.ownRole = ownRole := givenRole
  refine ⟨fun permissions => ⟨ownId, ownName, ownAccount, draft.ownRole, ownFleet, permissions,
    ownAccess, draft.isActive.getD true, moment.recorded draft.createdAt,
    moment.recorded draft.updatedAt⟩, ?_, ?_, rfl⟩
  · simp [user?, givenId, givenName, givenAccount, givenFleet, givenAccess]
  · simp only [profile?, roleCell, fleetCell, accessCell, ← createdAt, ← updatedAt, ← isActive,
      readWord_role, readWord_fleet, readWord_access, readTimestamp_recordedText, truthy_bitCell,
      Row.id, idCell, nameCell, accountCell, Cell.asText, sameRole]

/-- A row of a user is read as the user that the draft describes, with the permissions that its
stored list resolves to. -/
theorem exists_user_of_isMade (made : row.IsMade ⟨.user draft, moment⟩) :
    ∃ user, draft.user? moment = some user ∧
      readUser row = (draft.permissions.resolve draft.ownRole).map user := by
  rcases exists_profile_of_isMade made with ⟨user, describes, known, role⟩
  refine ⟨user, describes, ?_⟩
  have sent := made.cells ⟨"permissions", .json, true, false⟩
    (by simp [Insertion.table, Draft.table, TableName.columns])
  have permissions : draft.permissions.cell = row.cell "permissions" := Except.ok.inj sent
  rw [readUser_of_profile? known, role, resolve_eq, permissions]
  cases readJson (row.cell "permissions") with
  | error fault => rfl
  | ok stored => rfl

theorem id_of_user? {user : List Permission → User} (describes : draft.user? moment = some user)
    (permissions : List Permission) : (user permissions).id = draft.id := by
  simp only [user?, Option.bind_eq_bind, Option.bind_eq_some_iff] at describes
  rcases describes with ⟨_, id, _, _, _, _, _, _, same⟩
  cases same
  exact (Text.scalar?_eq_some_iff.1 id).2.symm

/-- A draft that describes a user sends something proper to every column. -/
theorem exists_cell_of_user? {user : List Permission → User}
    (describes : draft.user? moment = some user) :
    ∀ column ∈ TableName.users.columns, ∃ cell, draft.cell moment column.name = .ok cell ∧
      (column.isOptional = false → cell.isNull = false) := by
  simp only [user?, Option.bind_eq_bind, Option.bind_eq_some_iff] at describes
  rcases describes with ⟨_, id, _, ⟨_, hasName, name⟩, _, ⟨_, hasAccount, account⟩, fleet,
    hasFleet, -⟩
  simp only [TableName.columns, List.forall_mem_cons, List.not_mem_nil, false_implies,
    implies_true, and_true, true_implies, cell, Option.or_some, hasName, hasAccount, hasFleet]
  exact ⟨exists_textCell id, exists_textCell name, exists_textCell account, exists_memberCell _,
    exists_memberCell fleet, ⟨_, rfl, fun strict => by cases strict⟩, exists_memberCell _,
    ⟨_, rfl, rfl⟩, ⟨_, rfl, rfl⟩, ⟨_, rfl, rfl⟩⟩

end UserDraft

/-! ## Identifiers and accounts -/

namespace Row.IsMade

variable {insertion : Insertion} {row : Row}

/-- The cell of a text that must be unique. -/
theorem exists_text (made : row.IsMade insertion) {name : String} {field : Option Text}
    (listed : (⟨name, .text, false, true⟩ : Column) ∈ insertion.table.columns)
    (sent : insertion.draft.cell insertion.moment name = textCell field) :
    ∃ text, field.bind Text.scalar? = some text ∧
      row.cell (Text.ofString name) = .text text := by
  apply exists_text_of_textCell _ (made.filled _ listed rfl)
  rw [← sent]
  exact made.cells _ listed

/-- A row has the identifier of its draft, which is a scalar text. -/
theorem id_eq (made : row.IsMade insertion) :
    row.id = insertion.draft.id ∧ insertion.draft.id.IsScalar := by
  have known : ∃ text, (some insertion.draft.id).bind Text.scalar? = some text ∧
      row.cell "id" = .text text := by
    rcases insertion with ⟨draft | draft, moment⟩
    all_goals
      exact made.exists_text (by simp [Insertion.table, Draft.table, TableName.columns]) rfl
  rcases known with ⟨text, stored, cell⟩
  rw [Option.bind_some, Text.scalar?_eq_some_iff] at stored
  rw [Row.id, cell, Cell.asText]
  exact ⟨stored.2.symm, stored.1⟩

/-- A row has the account of its draft. -/
theorem account_eq (made : row.IsMade insertion) :
    insertion.draft.account = some row.account := by
  have known : ∃ text, insertion.draft.account.bind Text.scalar? = some text ∧
      row.cell "account" = .text text := by
    rcases insertion with ⟨draft | draft, moment⟩
    all_goals
      exact made.exists_text (by simp [Insertion.table, Draft.table, TableName.columns]) rfl
  rcases known with ⟨text, stored, cell⟩
  rcases Option.bind_eq_some_iff.1 stored with ⟨own, given, same⟩
  rw [Text.scalar?_eq_some_iff] at same
  rw [given, Row.account, cell, Cell.asText, same.2]

end Row.IsMade

end FleetGate
