import FleetGate.Proofs.Database.Cells
import FleetGate.Proofs.Database.Draft

/-!
# What a draft sends

Each column of a new record gets what the draft gives for it, in its stored form, or the default
of the column, or what the database fills in. `DriverDraft.cell` and `UserDraft.cell` list the
cells by the names of the columns; a mandatory column without a value comes out as null.
-/

namespace FleetGate

namespace Given

theorem find_ofFields_of_notMem {fields : List (String × Option Given)} {name : String}
    (missing : name ∉ fields.map (·.1)) :
    Entries.find (Text.ofString name) (ofFields fields) = none := by
  induction fields with
  | nil => rfl
  | cons field rest ih =>
      rcases field with ⟨own, value⟩
      simp only [List.map_cons, List.mem_cons, not_or] at missing
      have later := ih missing.2
      cases value with
      | none => exact later
      | some value =>
          have other : Text.ofString own ≠ Text.ofString name :=
            fun same => missing.1 (Text.ofString_injective same).symm
          simpa [ofFields, Entries.find, other] using later

/-- A field is found under its own name, if names differ. -/
theorem find_ofFields {fields : List (String × Option Given)}
    (distinct : (fields.map (·.1)).Nodup) {name : String} {value : Option Given}
    (listed : (name, value) ∈ fields) :
    Entries.find (Text.ofString name) (ofFields fields) = value := by
  induction fields with
  | nil => cases listed
  | cons field rest ih =>
      rcases field with ⟨own, kept⟩
      rcases List.nodup_cons.1 distinct with ⟨fresh, othersDistinct⟩
      rcases List.mem_cons.1 listed with same | later
      · cases same
        have missing := find_ofFields_of_notMem fresh
        cases value with
        | none => exact missing
        | some value => simp [ofFields, Entries.find]
      · have found := ih othersDistinct later
        cases kept with
        | none => exact found
        | some kept =>
            have other : Text.ofString own ≠ Text.ofString name := by
              intro same
              rw [Text.ofString_injective same] at fresh
              exact fresh (List.mem_map.2 ⟨(name, value), later, rfl⟩)
            simpa [ofFields, Entries.find, other] using found

end Given

/-- The cell of what is given for the permissions. -/
def GivenPermissions.cell : GivenPermissions → Cell
  | absent => .null
  | null => .text (Json.null.write .spaced)
  | list items => .text ((Json.array items).write .spaced)

namespace Record

/-! ## Columns by their kinds -/

/-- The cell of a text that is sent, or null without one. -/
def textCell : Option Text → Except Fault Cell
  | some text => Cell.ofParameter (.string text)
  | none => .ok .null

/-- The cell of a member that is sent, or null without one. -/
def memberCell {α : Type} [Vocabulary α] : Option α → Except Fault Cell
  | some member => .ok (wordCell member)
  | none => .ok .null

/-- The cell of a flag. -/
def bitCell (flag : Bool) : Cell :=
  .integer (if flag then 1 else 0)

section

variable {column : Column} {position : Nat} {moment : Timestamp} {given : Entries Given}

/-- The cell of a column whose values are of one kind: what was given, or the default, or what the
database fills in. -/
theorem newCell_eq {α : Type} {wrap : α → Given} {field : Option α} (standard : Option α)
    (found : Entries.find (Text.ofString column.name) given = field.map wrap)
    (default : standard? column position given = .ok (standard.map wrap))
    (present : ∀ value, (wrap value).isNull = false) :
    newCell column position moment given =
      match field.or standard with
      | some value => (cellOf column (wrap value)).map (·.stored column.kind)
      | none => .ok (filled column moment) := by
  cases field with
  | some value => simp [newCell, valueOf, found, present]
  | none =>
      cases standard with
      | some value => simp [newCell, valueOf, found, default]
      | none => simp [newCell, valueOf, found, default]

theorem newCell_text (field standard : Option Text) (kind : column.kind = .text)
    (found : Entries.find (Text.ofString column.name) given = field.map .ofText)
    (default : standard? column position given = .ok (standard.map .ofText)) :
    newCell column position moment given = textCell (field.or standard) := by
  rw [newCell_eq standard found default fun _ => rfl]
  cases field.or standard with
  | none => simp [filled, kind, textCell]
  | some text =>
      have stored : cellOf column (.ofText text) = Cell.ofParameter (.string text) := by
        simp [cellOf, Given.ofText, kind]
      simp only [stored, textCell, Cell.ofParameter]
      split
      · simp [Except.map, kind, Cell.stored, Cell.asText]
      · rfl

theorem newCell_mandatory {field : Option Text} (kind : column.kind = .text)
    (found : Entries.find (Text.ofString column.name) given = field.map .ofText)
    (default : standard? column position given = .ok none) :
    newCell column position moment given = textCell field := by
  have same : newCell column position moment given = textCell (field.or none) :=
    newCell_text field none kind found default
  rwa [Option.or_none] at same

theorem newCell_word {α : Type} [Vocabulary α] (wrap : α → Given) (field standard : Option α)
    (kind : column.kind = .word) (present : ∀ member, (wrap member).isNull = false)
    (stored : ∀ member, cellOf column (wrap member) = .ok (wordCell member))
    (found : Entries.find (Text.ofString column.name) given = field.map wrap)
    (default : standard? column position given = .ok (standard.map wrap)) :
    newCell column position moment given = memberCell (field.or standard) := by
  rw [newCell_eq standard found default present]
  cases field.or standard with
  | none => simp [filled, kind, memberCell]
  | some member => simp [stored, Except.map, memberCell, kind, Cell.stored, wordCell, Cell.asText]

theorem newCell_mandatoryWord {α : Type} [Vocabulary α] (wrap : α → Given) {field : Option α}
    (kind : column.kind = .word) (present : ∀ member, (wrap member).isNull = false)
    (stored : ∀ member, cellOf column (wrap member) = .ok (wordCell member))
    (found : Entries.find (Text.ofString column.name) given = field.map wrap)
    (default : standard? column position given = .ok none) :
    newCell column position moment given = memberCell field := by
  have same : newCell column position moment given = memberCell (field.or none) :=
    newCell_word wrap field none kind present stored found default
  rwa [Option.or_none] at same

theorem newCell_flag {field : Option Bool} {standard : Bool} (kind : column.kind = .flag)
    (found : Entries.find (Text.ofString column.name) given = field.map .ofFlag)
    (default : standard? column position given = .ok (some (.ofFlag standard))) :
    newCell column position moment given = .ok (bitCell (field.getD standard)) := by
  rw [newCell_eq (some standard) found default fun _ => rfl, Option.or_some]
  simp [cellOf, Given.ofFlag, kind, flagCell, Except.map, Cell.stored, bitCell]

theorem newCell_count {field : Option Int} {standard : Int} (kind : column.kind = .count)
    (found : Entries.find (Text.ofString column.name) given = field.map .ofCount)
    (default : standard? column position given = .ok (some (.ofCount standard))) :
    newCell column position moment given = Cell.ofParameter (.int (field.getD standard)) := by
  rw [newCell_eq (some standard) found default fun _ => rfl, Option.or_some]
  have stored : cellOf column (.ofCount (field.getD standard)) =
      Cell.ofParameter (.int (field.getD standard)) := by
    simp [cellOf, Given.ofCount, kind]
  simp only [stored, Cell.ofParameter]
  split
  · simp [Except.map, kind, Cell.stored]
  · rfl

theorem newCell_timestamp {moment : Moment} {field : Option Moment}
    (kind : column.kind = .timestamp)
    (found : Entries.find (Text.ofString column.name) given = field.map .ofMoment)
    (default : standard? column position given = .ok none) :
    newCell column position moment.timestamp given = .ok (.text (moment.recordedText field)) := by
  rw [newCell_eq none found default fun _ => rfl, Option.or_none]
  cases field with
  | none => simp [filled, kind, Moment.recordedText]
  | some own =>
      have shape : own.timestamp.stored = own.timestamp.dayText ++
          (" " ++ (own.timestamp.clock ++ ("." ++ Timestamp.digits 6 own.timestamp.micro))) := by
        simp only [Timestamp.stored, List.append_assoc]
      have noNumber : Cell.ofNumeral? own.timestamp.stored = none := by
        rw [shape]
        exact Cell.ofNumeral?_dayText own.calendar _
      simp [cellOf, Given.ofMoment, Except.map, kind, Cell.stored, noNumber,
        Moment.recordedText]

/-- A list that is given is stored as JSON, and so is null; without either the cell is null. -/
theorem newCell_permissions {permissions : GivenPermissions} (kind : column.kind = .json)
    (found : Entries.find (Text.ofString column.name) given = permissions.value?)
    (default : standard? column position given = .ok none) :
    newCell column position moment given = .ok permissions.cell := by
  cases permissions with
  | absent => simp [newCell, valueOf, found, GivenPermissions.value?, default, filled, kind,
      GivenPermissions.cell]
  | null => simp [newCell, valueOf, found, GivenPermissions.value?, kind, cellOf, Except.map,
      Cell.stored, Cell.ofNumeral?_null, GivenPermissions.cell]
  | list items => simp [newCell, valueOf, found, GivenPermissions.value?, kind, cellOf,
      Except.map, Cell.stored, Cell.ofNumeral?_array, GivenPermissions.cell]

/-- Without a role the default one decides about the visibility. -/
theorem roleGiven_eq {role : Option Role}
    (found : Entries.find "role" given = role.map .role) :
    roleGiven given = .ok (role.getD .none) := by
  cases role with
  | none => simp [roleGiven, found]
  | some own => simp [roleGiven, found]

end

end Record

/-! ## Drivers -/

namespace DriverDraft

open Record

/-- The cells that a draft sends, by their columns. -/
def cell (draft : DriverDraft) (moment : Moment) : String → Except Fault Cell
  | "id" => textCell (some draft.id)
  | "name" => textCell draft.name
  | "nickname" => textCell (draft.nickname.or (some []))
  | "driver_no" => textCell draft.driverNo
  | "account" => textCell draft.account
  | "car_plate" => textCell (draft.carPlate.or (some []))
  | "fleet" => memberCell draft.fleet
  | "status" => memberCell (draft.status.or (some .idle))
  | "completed_count" => Cell.ofParameter (.int (draft.completedCount.getD 0))
  | "is_online" => .ok (bitCell (draft.isOnline.getD false))
  | "is_active" => .ok (bitCell (draft.isActive.getD true))
  | "is_approved" => .ok (bitCell (draft.isApproved.getD false))
  | "created_at" => .ok (.text (moment.recordedText draft.createdAt))
  | "updated_at" => .ok (.text (moment.recordedText draft.updatedAt))
  | _ => .ok .null

/-- Every column of a new driver gets the cell that the draft sends. -/
theorem newCell_eq_cell (draft : DriverDraft) (moment : Moment) (position : Nat) :
    ∀ column ∈ TableName.drivers.columns,
      newCell column position moment.timestamp (Given.ofFields draft.fields) =
        draft.cell moment column.name := by
  have distinct : (draft.fields.map (·.1)).Nodup := by
    simp [fields]
  have found {name : String} {value : Option Given} (listed : (name, value) ∈ draft.fields) :=
    Given.find_ofFields distinct listed
  simp only [TableName.columns, List.forall_mem_cons, List.not_mem_nil, false_implies,
    implies_true, and_true]
  refine ⟨?id, ?name, ?nickname, ?driverNo, ?account, ?carPlate, ?fleet, ?status, ?count,
    ?isOnline, ?isActive, ?isApproved, ?createdAt, ?updatedAt⟩
  case id =>
    exact newCell_text (some draft.id) (some (generatedId position)) rfl
      (found (by simp [fields])) rfl
  case name => exact newCell_mandatory rfl (found (by simp [fields])) rfl
  case nickname => exact newCell_text draft.nickname (some []) rfl (found (by simp [fields])) rfl
  case driverNo => exact newCell_mandatory rfl (found (by simp [fields])) rfl
  case account => exact newCell_mandatory rfl (found (by simp [fields])) rfl
  case carPlate => exact newCell_text draft.carPlate (some []) rfl (found (by simp [fields])) rfl
  case fleet =>
    exact newCell_mandatoryWord .fleet rfl (fun _ => rfl) (fun _ => rfl)
      (found (by simp [fields])) rfl
  case status =>
    exact newCell_word .status draft.status (some .idle) rfl (fun _ => rfl) (fun _ => rfl)
      (found (by simp [fields])) rfl
  case count => exact newCell_count rfl (found (by simp [fields])) rfl
  case isOnline => exact newCell_flag rfl (found (by simp [fields])) rfl
  case isActive => exact newCell_flag rfl (found (by simp [fields])) rfl
  case isApproved => exact newCell_flag rfl (found (by simp [fields])) rfl
  case createdAt => exact newCell_timestamp rfl (found (by simp [fields])) rfl
  case updatedAt => exact newCell_timestamp rfl (found (by simp [fields])) rfl

end DriverDraft

/-! ## Users -/

namespace UserDraft

open Record

/-- The cells that a draft sends, by their columns. -/
def cell (draft : UserDraft) (moment : Moment) : String → Except Fault Cell
  | "id" => textCell (some draft.id)
  | "name" => textCell draft.name
  | "account" => textCell draft.account
  | "role" => memberCell (draft.role.or (some .none))
  | "fleet" => memberCell draft.fleet
  | "permissions" => .ok draft.permissions.cell
  | "fleet_access" => memberCell (draft.fleetAccess.or (some draft.ownRole.defaultFleetAccess))
  | "is_active" => .ok (bitCell (draft.isActive.getD true))
  | "created_at" => .ok (.text (moment.recordedText draft.createdAt))
  | "updated_at" => .ok (.text (moment.recordedText draft.updatedAt))
  | _ => .ok .null

/-- Every column of a new user gets the cell that the draft sends. -/
theorem newCell_eq_cell (draft : UserDraft) (moment : Moment) (position : Nat) :
    ∀ column ∈ TableName.users.columns,
      newCell column position moment.timestamp (Given.ofFields draft.fields) =
        draft.cell moment column.name := by
  have distinct : (draft.fields.map (·.1)).Nodup := by
    simp [fields]
  have found {name : String} {value : Option Given} (listed : (name, value) ∈ draft.fields) :=
    Given.find_ofFields distinct listed
  have role : roleGiven (Given.ofFields draft.fields) = .ok draft.ownRole :=
    roleGiven_eq (found (by simp [fields]))
  simp only [TableName.columns, List.forall_mem_cons, List.not_mem_nil, false_implies,
    implies_true, and_true]
  refine ⟨?id, ?name, ?account, ?role, ?fleet, ?permissions, ?fleetAccess, ?isActive,
    ?createdAt, ?updatedAt⟩
  case id =>
    exact newCell_text (some draft.id) (some (generatedId position)) rfl
      (found (by simp [fields])) rfl
  case name => exact newCell_mandatory rfl (found (by simp [fields])) rfl
  case account => exact newCell_mandatory rfl (found (by simp [fields])) rfl
  case role =>
    exact newCell_word .role draft.role (some .none) rfl (fun _ => rfl) (fun _ => rfl)
      (found (by simp [fields])) rfl
  case fleet =>
    exact newCell_mandatoryWord .fleet rfl (fun _ => rfl) (fun _ => rfl)
      (found (by simp [fields])) rfl
  case permissions => exact newCell_permissions rfl (found (by simp [fields])) rfl
  case fleetAccess =>
    apply newCell_word .access draft.fleetAccess (some draft.ownRole.defaultFleetAccess) rfl
      (fun _ => rfl) (fun _ => rfl) (found (by simp [fields]))
    simp only [standard?, role]
    rfl
  case isActive => exact newCell_flag rfl (found (by simp [fields])) rfl
  case createdAt => exact newCell_timestamp rfl (found (by simp [fields])) rfl
  case updatedAt => exact newCell_timestamp rfl (found (by simp [fields])) rfl

end UserDraft

end FleetGate
