import FleetGate.Proofs.Auth.Order
import FleetGate.Proofs.Database.History
import FleetGate.Proofs.Database.Permissions

/-!
# Granted permissions

What a user may do is decided by one cell of the row. All other columns make up its profile, into
which the permissions are put. If the cell reads as null, the user has the permissions of the role,
and if it reads as a list of permissions, the user has these and no others.

A cell that reads as anything else grants nothing at all: the lookup raises, and to a pipeline the
user is unknown.
-/

namespace FleetGate

theorem User.has_iff {user : User} {permission : Permission} :
    user.has permission = true ↔ permission ∈ user.permissions := by
  simp [User.has]

/-- The row of a user as it was inserted, but anything may have been put into its permissions
column. -/
def Row.IsStoredUser (row : Row) : Prop :=
  ∃ (inserted : Row) (draft : UserDraft) (moment : Moment),
    inserted.IsMade ⟨.user draft, moment⟩ ∧
      (row = inserted ∨ ∃ cell, row = inserted.put "permissions" cell)

theorem Row.IsStoredUser.exists_profile {row : Row} (isStored : row.IsStoredUser) :
    ∃ profile, Record.profile? row = some profile := by
  rcases isStored with ⟨inserted, draft, moment, made, same⟩
  rcases UserDraft.exists_profile_of_isMade made with ⟨profile, _, known, _⟩
  refine ⟨profile, ?_⟩
  rcases same with rfl | ⟨cell, rfl⟩
  · exact known
  · rw [Record.profile?_put, known]

namespace Record

/-! ## What the permissions column says -/

theorem permissionsOf_items (role : Role) (permissions : List Permission) :
    permissionsOf role (.array (permissions.map Permission.asItem)) = .ok permissions := by
  rw [permissionsOf, Checked.asPermissions_array.2 rfl]
  intro null
  cases null

/-- What is neither null nor a list of permissions is rejected as a whole. -/
theorem exists_rejection_of_permissionsOf {stored : Json} (notNull : stored ≠ .null)
    (notList : ∀ permissions : List Permission,
      stored ≠ .array (permissions.map Permission.asItem)) (role : Role) :
    ∃ rejection, permissionsOf role stored = .error (.rejected rejection) := by
  cases stored with
  | null => exact absurd rfl notNull
  | array items =>
      cases taken : Checked.asPermissions "permissions" (.array items) with
      | ok permissions =>
          exact absurd (congrArg Json.array (Checked.asPermissions_array.1 taken))
            (notList permissions)
      | error issues => exact ⟨_, by rw [permissionsOf, taken]; intro h; cases h⟩
  | _ => exact ⟨_, rfl⟩

end Record

namespace Database

/-- To a pipeline for users on a database the principal with an identifier is unknown. -/
def IsUnknown (database : Database) (id : Text) : Prop :=
  ∀ (pipeline : Pipeline) (now : Int) (authorization : Option Text) (base : Context)
    (token : Text) (claims : Entries Json),
    pipeline.kind = .user → pipeline.stores.users = some (.users database) →
    pipeline.Identifies now authorization token claims id →
    ∃ failure : AuthFailure,
      (pipeline.run now authorization base).result = .error (.failure failure) ∧
        failure.kind = .principalNotFound

variable {database : Database} {rows : List Row} {row : Row} {raised : Raised} {id : Text}

/-- What a lookup raises is no answer, but an error that the store breaks with. -/
theorem isUnknown_of_raised (raises : database.user id = .error raised)
    (isError : raised.isError = true) : database.IsUnknown id := by
  intro pipeline now authorization base token claims ofUsers onDatabase identifies
  have answers : Resolution.Answers pipeline.stores pipeline.kind id (.raised raised) := by
    refine ⟨.users database, by rw [ofUsers]; exact onDatabase, ?_⟩
    simp only [Store.users, raises, Store.answerOf]
  have refused := Resolution.resolve_of_raised answers isError
  exact ⟨_, Pipeline.run_of_resolve_error identifies refused, rfl⟩

theorem user_eq_of_mem (has : database.users = some rows) (keys : (rows.map Row.id).Nodup)
    (stands : row ∈ rows) (scalar : row.id.IsScalar) :
    database.user row.id = (Record.readUser row).map some := by
  rw [user_eq has scalar, find?_id keys stands]

/-- The user with an identifier cannot be looked up, and is unknown for that reason. -/
def Withholds (database : Database) (id : Text) : Prop :=
  (∃ raised, database.user id = .error raised) ∧ database.IsUnknown id

theorem withholds_of_fault {fault : Fault} (raises : database.user id = .error (.fault fault)) :
    database.Withholds id :=
  ⟨⟨_, raises⟩, isUnknown_of_raised raises rfl⟩

theorem withholds_of_rejection {rejection : Rejection}
    (raises : database.user id = .error (.rejected rejection)) : database.Withholds id :=
  ⟨⟨_, raises⟩, isUnknown_of_raised raises rfl⟩

/-- What a lookup makes of the permissions in a row: null stands for those of the role, a list of
permissions for itself, and for anything else there is no user. -/
structure GrantsWhole (database : Database) (row : Row) (profile : List Permission → User) :
    Prop where
  null : Record.readJson (row.cell "permissions") = .ok .null →
    database.user row.id = .ok (some (profile (Record.roleOf profile).defaultPermissions))
  list : ∀ permissions : List Permission,
    Record.readJson (row.cell "permissions") =
      .ok (.array (permissions.map Permission.asItem)) →
    database.user row.id = .ok (some (profile permissions))
  other : Record.readJson (row.cell "permissions") ≠ .ok .null →
    (∀ permissions : List Permission, Record.readJson (row.cell "permissions") ≠
      .ok (.array (permissions.map Permission.asItem))) →
    database.Withholds row.id

theorem grantsWhole_of_profile? {profile : List Permission → User}
    (answer : database.user row.id = (Record.readUser row).map some)
    (known : Record.profile? row = some profile) : database.GrantsWhole row profile := by
  rw [Record.readUser_of_profile? known] at answer
  refine ⟨?null, ?list, ?other⟩
  case null =>
    intro null
    rw [answer, null]
    rfl
  case list =>
    intro permissions list
    rw [answer, list]
    simp only [Record.permissionsOf_items]
    rfl
  case other =>
    intro notNull notList
    cases read : Record.readJson (row.cell "permissions") with
    | error fault =>
        rw [read] at answer
        exact withholds_of_fault answer
    | ok stored =>
        rw [read] at answer notNull notList
        rcases Record.exists_rejection_of_permissionsOf (mt (congrArg _) notNull)
          (fun permissions => mt (congrArg _) (notList permissions)) (Record.roleOf profile)
          with ⟨rejection, rejects⟩
        simp only [rejects] at answer
        exact withholds_of_rejection answer

/-- A stored user has the permissions that the row gives as a whole, or is not there at all. The
fields of a user other than the permissions are those of the profile, which is the same for whatever
stands in the permissions column. Only a row that was made otherwise can lack a profile. -/
theorem permissions_granted_whole (has : database.users = some rows)
    (keys : (rows.map Row.id).Nodup) (stands : row ∈ rows) (scalar : row.id.IsScalar) :
    (row.IsStoredUser → ∃ profile, Record.profile? row = some profile) ∧
      (Record.profile? row = none → database.Withholds row.id) ∧
      ∀ profile, Record.profile? row = some profile →
        database.GrantsWhole row profile ∧
        (∀ permissions, (profile permissions).permissions = permissions ∧
          (∀ others, { profile permissions with permissions := others } = profile others) ∧
          ∀ permission, (profile permissions).has permission = true ↔ permission ∈ permissions) ∧
        ∀ cell, Record.profile? (row.put "permissions" cell) = some profile := by
  have answer := user_eq_of_mem has keys stands scalar
  refine ⟨Row.IsStoredUser.exists_profile, fun unknown => ?_,
    fun profile known => ⟨?_, fun permissions => ?_, fun cell => ?_⟩⟩
  · rcases Record.exists_fault_of_profile? unknown with ⟨fault, raises⟩
    rw [raises] at answer
    exact withholds_of_fault answer
  · exact grantsWhole_of_profile? answer known
  · rcases Record.profile_fields known permissions with ⟨own, others⟩
    refine ⟨own, others, fun permission => ?_⟩
    rw [User.has_iff, own]
  · rw [Record.profile?_put, known]

/-- The row of a dispatcher. -/
def dispatcherRow (id : Text) (permissions : Cell) : Row :=
  ⟨[("id", .text id), ("name", .text "Mei"), ("account", .text id), ("role", .text "DISPATCHER"),
    ("fleet", .text "KD"), ("permissions", permissions), ("fleet_access", .text "OWN"),
    ("is_active", .integer 1), ("created_at", .text "2026-02-28 12:00:00.000000"),
    ("updated_at", .text "2026-02-28 12:00:00.000000")]⟩

/-- The dispatcher with some permissions. -/
def dispatcher (id : Text) (permissions : List Permission) : User :=
  ⟨id, "Mei", id, .dispatcher, .kd, permissions, .own, true, ⟨2026, 2, 28, 12, 0, 0, 0, none⟩,
    ⟨2026, 2, 28, 12, 0, 0, 0, none⟩⟩

/-- The words of permissions, and behind them some text, as they are stored. -/
def writtenList (permissions : List Permission) (others : List Text) : Cell :=
  .text ((Json.array (permissions.map Permission.asItem ++ others.map Json.string)).write .spaced)

/-- Three dispatchers: without permissions of their own, with a list of them, and with a list that
holds a text that is none. -/
def dispatcherRows : List Row :=
  [dispatcherRow "U1" .null, dispatcherRow "U2" (writtenList [.driverList, .driverList] []),
    dispatcherRow "U3" (writtenList [.driverList] ["bogus"])]

theorem profile?_dispatcherRow (id : Text) (cell : Cell) :
    Record.profile? (dispatcherRow id cell) = some (dispatcher id) := by
  have role : Record.readWord Role ((dispatcherRow id cell).cell "role") = .ok .dispatcher := rfl
  have fleet : Record.readWord Fleet ((dispatcherRow id cell).cell "fleet") = .ok .kd := rfl
  have access : Record.readWord FleetAccess ((dispatcherRow id cell).cell "fleet_access") =
      .ok .own := rfl
  have moment : Record.readTimestamp (.text "2026-02-28 12:00:00.000000") =
      .ok ⟨2026, 2, 28, 12, 0, 0, 0, none⟩ := by decide +kernel
  have created : Record.readTimestamp ((dispatcherRow id cell).cell "created_at") =
      .ok ⟨2026, 2, 28, 12, 0, 0, 0, none⟩ := moment
  have updated : Record.readTimestamp ((dispatcherRow id cell).cell "updated_at") =
      .ok ⟨2026, 2, 28, 12, 0, 0, 0, none⟩ := moment
  simp only [Record.profile?, role, fleet, access, created, updated]
  rfl

theorem readJson_writtenList (permissions : List Permission) {others : List Text}
    (visible : ∀ text ∈ others, ∀ point ∈ text, point.IsVisible) :
    Record.readJson (writtenList permissions others) =
      .ok (.array (permissions.map Permission.asItem ++ others.map Json.string)) := by
  have all : ∀ item ∈ permissions.map Permission.asItem ++ others.map Json.string,
      Json.IsVisibleText item := by
    intro item listed
    rcases List.mem_append.1 listed with word | other
    · rcases List.mem_map.1 word with ⟨permission, _, rfl⟩
      exact permission.isVisibleText_asItem
    · rcases List.mem_map.1 other with ⟨text, isOther, rfl⟩
      exact visible text isOther
  simp only [writtenList, Record.readJson, Json.read_visible all]

/-- The first has the permissions of the role, the second those of the list, and the third is not
given away with the one permission that can be read. -/
theorem dispatcherRows_granted :
    (⟨none, some dispatcherRows⟩ : Database).user "U1" =
      .ok (some (dispatcher "U1" [.dashboard, .dispatch, .commonAddress])) ∧
    (⟨none, some dispatcherRows⟩ : Database).user "U2" =
      .ok (some (dispatcher "U2" [.driverList, .driverList])) ∧
    (⟨none, some dispatcherRows⟩ : Database).Withholds "U3" := by
  have has : (⟨none, some dispatcherRows⟩ : Database).users = some dispatcherRows := rfl
  have keys : (dispatcherRows.map Row.id).Nodup := by decide +kernel
  refine ⟨?null, ?list, ?other⟩
  case null =>
    have stands : dispatcherRow "U1" .null ∈ dispatcherRows := by simp [dispatcherRows]
    have granted := permissions_granted_whole has keys stands (Text.isScalar_ofString "U1")
    exact (granted.2.2 _ (profile?_dispatcherRow _ _)).1.null rfl
  case list =>
    have stands : dispatcherRow "U2" (writtenList [.driverList, .driverList] []) ∈
        dispatcherRows := by
      simp [dispatcherRows]
    have granted := permissions_granted_whole has keys stands (Text.isScalar_ofString "U2")
    exact (granted.2.2 _ (profile?_dispatcherRow _ _)).1.list _ (readJson_writtenList _ (by simp))
  case other =>
    have stands : dispatcherRow "U3" (writtenList [.driverList] ["bogus"]) ∈ dispatcherRows := by
      simp [dispatcherRows]
    have granted := permissions_granted_whole has keys stands (Text.isScalar_ofString "U3")
    have visible : ∀ text ∈ [Text.ofString "bogus"], ∀ point ∈ text, point.IsVisible := by
      simp only [List.mem_singleton, forall_eq]
      change ∀ point ∈ Text.ofString "bogus", 32 ≤ point.value ∧ point.value ≤ 126
      decide
    have read := readJson_writtenList [.driverList] visible
    refine (granted.2.2 _ (profile?_dispatcherRow _ _)).1.other ?_ ?_
    · exact fun null => by cases read.symm.trans null
    · intro permissions list
      have same := Json.array.inj (Except.ok.inj (read.symm.trans list))
      have listed : Json.string "bogus" ∈ permissions.map Permission.asItem := by
        rw [← same]
        simp
      rcases List.mem_map.1 listed with ⟨permission, _, bogus⟩
      revert bogus
      cases permission <;> simp only [Permission.asItem, Json.string.injEq] <;> decide

end Database

end FleetGate
