import FleetGate.Proofs.Database.History

/-!
# Lookups after insertions

After any history of insertions into the two tables, a lookup by identifier finds nothing exactly
if no row of its table has the identifier. Otherwise it answers with the record that the draft of
the one insertion describes. The permissions of a user are those that the stored list resolves to:
a list with anything but permissions in it has no record to answer with, and the lookup raises.
-/

namespace FleetGate

namespace Database

/-- No two rows share an identifier or an account, so that no identifier leads to two rows. -/
structure HasKeys (rows : List Row) : Prop where
  ids : (rows.map Row.id).Nodup
  accounts : (rows.map Row.account).Nodup
  single : ∀ id, (rows.filter fun row => row.id == id).length ≤ 1

theorem Holds.hasKeys {rows : List Row} {kept : List Insertion} (holds : Holds rows kept) :
    HasKeys rows :=
  ⟨holds.ids, holds.accounts, length_filter_id_le holds.ids⟩

/-- The insertions into a table. -/
def into (table : TableName) (insertions : List Insertion) : List Insertion :=
  insertions.filter fun insertion => insertion.table = table

theorem mem_into {table : TableName} {insertions : List Insertion} {insertion : Insertion} :
    insertion ∈ into table insertions ↔ insertion ∈ insertions ∧ insertion.table = table := by
  simp [into]

/-- Lookups after a history of insertions. The tables hold a row for each insertion that succeeded
and no two rows with the same key; whether an insertion succeeds depends on its draft and on the
keys of its table alone; failed insertions leave no trace; and neither table has an effect on
lookups in the other. -/
theorem lookups_after_insertions (insertions : List Insertion) :
    let database := afterAll insertions
    let kept := accepted fresh insertions
    ∃ drivers users : List Row,
      (database.drivers = some drivers ∧ database.users = some users) ∧
      (HasKeys drivers ∧ HasKeys users) ∧
      (drivers.map Row.id = (into .drivers kept).map (·.draft.id) ∧
        users.map Row.id = (into .users kept).map (·.draft.id)) ∧
      (∀ id : Text, id.IsScalar →
        (database.driver id = .ok none ↔ ∀ row ∈ drivers, row.id ≠ id) ∧
        (database.user id = .ok none ↔ ∀ row ∈ users, row.id ≠ id)) ∧
      (∀ draft moment, ⟨.driver draft, moment⟩ ∈ kept →
        ∃ driver, draft.driver? moment = some driver ∧ driver.id = draft.id ∧
          database.driver draft.id = .ok (some driver)) ∧
      (∀ draft moment, ⟨.user draft, moment⟩ ∈ kept →
        ∃ user, draft.user? moment = some user ∧
          (∀ permissions, (user permissions).id = draft.id) ∧
          database.user draft.id =
            (draft.permissions.resolve draft.ownRole).map fun permissions =>
              some (user permissions)) ∧
      (∀ role items permissions,
        GivenPermissions.absent.resolve role = .ok role.defaultPermissions ∧
        GivenPermissions.null.resolve role = .ok role.defaultPermissions ∧
        ((GivenPermissions.list items).resolve role = .ok permissions ↔
          GivenPermissions.list items = .ofPermissions permissions)) ∧
      (∀ (insertion : Insertion) (rows : List Row),
        database.rows? insertion.table = some rows →
        ((∃ after, insertion.run database = .ok after) ↔
          insertion.draft.isComplete insertion.moment = true ∧
            ∀ row ∈ rows, row.id ≠ insertion.draft.id ∧
              some row.account ≠ insertion.draft.account)) ∧
      (∀ (front : List Insertion) (failed : Insertion) (back : List Insertion) (fault : Fault),
        insertions = front ++ failed :: back → failed.run (afterAll front) = .error fault →
        afterAll (front ++ back) = database) ∧
      afterAll kept = database ∧
      (∀ id, database.driver id = (afterAll (into .drivers insertions)).driver id ∧
        database.user id = (afterAll (into .users insertions)).user id) := by
  intro database kept
  have keeps : database.Keeps kept := keeps_afterAll insertions
  rcases keeps .drivers with ⟨drivers, hasDrivers, holdsDrivers⟩
  rcases keeps .users with ⟨users, hasUsers, holdsUsers⟩
  refine ⟨drivers, users, ⟨hasDrivers, hasUsers⟩, ⟨holdsDrivers.hasKeys, holdsUsers.hasKeys⟩,
    ⟨holdsDrivers.map_id, holdsUsers.map_id⟩, ?absent, ?driver, ?user, ?resolve, ?succeeds,
    ?failed, foldl_accepted fresh insertions, ?apart⟩
  case absent =>
    intro id scalar
    exact ⟨holdsDrivers.driver_eq_none_iff hasDrivers (fun _ listed => (mem_into.1 listed).2)
        scalar,
      holdsUsers.user_eq_none_iff hasUsers (fun _ listed => (mem_into.1 listed).2) scalar⟩
  case driver =>
    intro draft moment listed
    exact holdsDrivers.driver_of_mem hasDrivers (mem_into.2 ⟨listed, rfl⟩)
  case user =>
    intro draft moment listed
    exact holdsUsers.user_of_mem hasUsers (mem_into.2 ⟨listed, rfl⟩)
  case resolve =>
    intro role items permissions
    exact ⟨rfl, rfl, GivenPermissions.resolve_list_eq_ok_iff⟩
  case succeeds =>
    intro insertion rows has
    exact Insertion.exists_run_iff has
  case failed =>
    intro front failed back fault split isError
    rw [← afterAll_without isError, ← split]
  case apart =>
    intro id
    have sameDrivers : database.drivers = (afterAll (into .drivers insertions)).drivers :=
      rows?_foldl_filter .drivers rfl
    have sameUsers : database.users = (afterAll (into .users insertions)).users :=
      rows?_foldl_filter .users rfl
    exact ⟨by rw [driver, driver, sameDrivers], by rw [user, user, sameUsers]⟩

/-- A moment of the database's clock. -/
def noon : Moment :=
  ⟨⟨2026, 2, 28, 12, 0, 0, 250000, some 0⟩, by constructor <;> decide⟩

/-- A moment in a zone one hour ahead. -/
def evening : Moment :=
  ⟨⟨2026, 2, 28, 18, 30, 0, 250000, some 3600⟩, by constructor <;> decide⟩

/-- A driver with the mandatory columns and a last change of its own. -/
def plainDriver : DriverDraft :=
  { id := "D1", name := some "Lin", driverNo := some "D001", account := some "lin",
    fleet := some .kd, updatedAt := some evening }

/-- A user with a moderator's role and a list of permissions. -/
def plainUser : UserDraft :=
  { id := "D1", name := some "Mei", account := some "lin", role := some .moderator,
    fleet := some .rsk, permissions := .ofPermissions [.driverList, .dashboard] }

/-- Two records that succeed, between a driver whose identifier is taken and one without a fleet. -/
def mixedHistory : List Insertion :=
  [⟨.driver plainDriver, noon⟩, ⟨.driver { plainDriver with account := some "mei" }, noon⟩,
    ⟨.user plainUser, noon⟩, ⟨.driver { plainDriver with id := "D2", fleet := none }, noon⟩]

/-- Both kinds of record are found as they were given, and the failed drivers are not. -/
theorem mixedHistory_lookups :
    (afterAll mixedHistory).driver "D1" = .ok (some ⟨"D1", "Lin", [], "D001", "lin", [], .kd, .idle,
      false, true, false, ⟨2026, 2, 28, 12, 0, 0, 0, none⟩,
      ⟨2026, 2, 28, 18, 30, 0, 250000, none⟩⟩) ∧
    (afterAll mixedHistory).driver "D2" = .ok none ∧
    (afterAll mixedHistory).user "D1" = .ok (some ⟨"D1", "Mei", "lin", .moderator, .rsk,
      [.driverList, .dashboard], .all, true, ⟨2026, 2, 28, 12, 0, 0, 0, none⟩,
      ⟨2026, 2, 28, 12, 0, 0, 0, none⟩⟩) := by
  rcases lookups_after_insertions mixedHistory with ⟨drivers, users, _, _, ⟨sameIds, _⟩, absent,
    ofDriver, ofUser, resolves, _⟩
  have noDrivers : fresh.rows? .drivers = some [] := rfl
  have noUsers : ((mixedHistory.take 2).foldl attempt fresh).rows? .users = some [] :=
    rows?_foldl_filter .users (rfl : fresh.rows? .users = fresh.rows? .users)
  have firstRuns : ∃ after, (⟨.driver plainDriver, noon⟩ : Insertion).run fresh = .ok after :=
    (Insertion.exists_run_iff noDrivers).2 ⟨by decide +kernel, by simp⟩
  have thirdRuns : ∃ after, (⟨.user plainUser, noon⟩ : Insertion).run
      ((mixedHistory.take 2).foldl attempt fresh) = .ok after :=
    (Insertion.exists_run_iff noUsers).2 ⟨by decide +kernel, by simp⟩
  have firstKept : ⟨.driver plainDriver, noon⟩ ∈ accepted fresh mixedHistory :=
    mem_accepted [] firstRuns
  have thirdKept : ⟨.user plainUser, noon⟩ ∈ accepted fresh mixedHistory :=
    mem_accepted (mixedHistory.take 2) thirdRuns
  refine ⟨?first, ?second, ?third⟩
  case first =>
    rcases ofDriver plainDriver noon firstKept with ⟨driver, describes, _, found⟩
    have described : plainDriver.driver? noon = some ⟨"D1", "Lin", [], "D001", "lin", [], .kd,
      .idle, false, true, false, ⟨2026, 2, 28, 12, 0, 0, 0, none⟩,
      ⟨2026, 2, 28, 18, 30, 0, 250000, none⟩⟩ := by decide +kernel
    rw [described, Option.some.injEq] at describes
    rw [describes]
    exact found
  case second =>
    have ids : (into .drivers (accepted fresh mixedHistory)).map (·.draft.id) =
      [Text.ofString "D1"] := by decide +kernel
    apply (absent "D2" (Text.isScalar_ofString "D2")).1.2
    intro row stands same
    have listed := List.mem_map_of_mem (f := Row.id) stands
    rw [sameIds, ids, same] at listed
    exact absurd (Text.ofString_injective (List.mem_singleton.1 listed)) (by decide)
  case third =>
    rcases ofUser plainUser noon thirdKept with ⟨user, describes, _, found⟩
    have described : (plainUser.user? noon).map (fun user => user [.driverList, .dashboard]) =
      some ⟨"D1", "Mei", "lin", .moderator, .rsk, [.driverList, .dashboard], .all, true,
        ⟨2026, 2, 28, 12, 0, 0, 0, none⟩, ⟨2026, 2, 28, 12, 0, 0, 0, none⟩⟩ := by
      decide +kernel
    have resolved : plainUser.permissions.resolve plainUser.ownRole =
        .ok [.driverList, .dashboard] := (resolves _ _ _).2.2.2 rfl
    rw [describes, Option.map_some, Option.some.injEq] at described
    rw [resolved] at found
    rw [← described]
    exact found

/-- A user whose list of permissions holds a text that is none. -/
def misspeltUser : UserDraft :=
  { id := "U1", name := some "Mei", account := some "mei", fleet := some .kd,
    permissions := .list [.string "bogus"] }

/-- The insertion of such a user. -/
def misspelt : Insertion :=
  ⟨.user misspeltUser, noon⟩

/-- The row of this user stands in the table, but the lookup answers neither with nothing nor
with a user. -/
theorem misspelt_raises :
    ∃ row issues, (afterAll [misspelt]).users = some [row] ∧ row.id = "U1" ∧
      (afterAll [misspelt]).user "U1" = .error (.rejected ⟨"UserPrincipal", issues⟩) := by
  have noUsers : fresh.rows? .users = some [] := rfl
  have runs : ∃ after, misspelt.run fresh = .ok after :=
    (Insertion.exists_run_iff noUsers).2 ⟨by decide +kernel, by simp⟩
  have kept : accepted fresh [misspelt] = [misspelt] := by
    rcases runs with ⟨after, ran⟩
    simp only [accepted, ran]
  rcases keeps_afterAll [misspelt] .users with ⟨rows, has, holds⟩
  rw [kept, List.filter_cons_of_pos (by rfl), List.filter_nil] at holds
  rcases List.map_eq_singleton_iff.1 holds.map_id with ⟨row, rfl, same⟩
  rcases holds.user_of_mem has List.mem_cons_self with ⟨user, _, _, raises⟩
  have resolved : ∃ issues, misspeltUser.permissions.resolve misspeltUser.ownRole =
      .error (.rejected ⟨"UserPrincipal", issues⟩) := by
    have visible : ∀ item ∈ [Json.string "bogus"], Json.IsVisibleText item := by
      intro item listed
      rw [List.mem_singleton.1 listed]
      change ∀ point ∈ Text.ofString "bogus", 32 ≤ point.value ∧ point.value ≤ 126
      decide
    simp only [misspeltUser, GivenPermissions.resolve, Record.readJson, Json.read_visible visible]
    exact ⟨_, rfl⟩
  rcases resolved with ⟨issues, rejects⟩
  rw [rejects] at raises
  exact ⟨row, issues, has, same, raises⟩

end Database

end FleetGate
