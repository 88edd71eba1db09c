import FleetGate.Vocabulary

/-!
# The words of the fleet

The kinds of principal, the fleets, the working status of drivers, and the roles, permissions and
visibility of back-office users, with what each role is granted by default.
-/

namespace FleetGate

/-- Whom a token speaks for. -/
inductive PrincipalKind where
  | driver
  | user
  deriving DecidableEq, Repr

namespace PrincipalKind

instance : Vocabulary PrincipalKind where
  title := "PrincipalKind"
  members := [driver, user]
  value
    | driver => "driver"
    | user => "user"
  name
    | driver => "DRIVER"
    | user => "USER"

/-- The claim that holds the identifier of a principal of this kind. -/
def identifierClaim : PrincipalKind → String
  | driver => "driver_id"
  | user => "user_id"

/-- The kind with a capital letter, as messages start with it. -/
def label : PrincipalKind → String
  | driver => "Driver"
  | user => "User"

/-- The kind as diagnostics show a missing key. -/
def shown (kind : PrincipalKind) : Text :=
  "<" ++ Vocabulary.qualified kind ++ ": " ++ (Vocabulary.text kind).quoted ++ ">"

end PrincipalKind

/-- The fleets that drivers and users belong to. -/
inductive Fleet where
  | rsk
  | kd
  | wei
  deriving DecidableEq, Repr

instance : Vocabulary Fleet where
  title := "FleetType"
  members := [.rsk, .kd, .wei]
  value
    | .rsk => "RSK"
    | .kd => "KD"
    | .wei => "WEI"
  name
    | .rsk => "RSK"
    | .kd => "KD"
    | .wei => "WEI"

/-- What a driver is doing. -/
inductive DriverStatus where
  | idle
  | enroute
  | arrived
  | executing
  | inactive
  deriving DecidableEq, Repr

instance : Vocabulary DriverStatus where
  title := "DriverStatus"
  members := [.idle, .enroute, .arrived, .executing, .inactive]
  value
    | .idle => "idle"
    | .enroute => "enroute"
    | .arrived => "arrived"
    | .executing => "executing"
    | .inactive => "inactive"
  name
    | .idle => "IDLE"
    | .enroute => "ENROUTE"
    | .arrived => "ARRIVED"
    | .executing => "EXECUTING"
    | .inactive => "INACTIVE"

/-- What a back-office user is. -/
inductive Role where
  | systemAdmin
  | moderator
  | admin
  | dispatcher
  | none
  deriving DecidableEq, Repr

instance : Vocabulary Role where
  title := "UserRole"
  members := [.systemAdmin, .moderator, .admin, .dispatcher, .none]
  value
    | .systemAdmin => "system_admin"
    | .moderator => "moderator"
    | .admin => "admin"
    | .dispatcher => "dispatcher"
    | .none => "none"
  name
    | .systemAdmin => "SYSTEM_ADMIN"
    | .moderator => "MODERATOR"
    | .admin => "ADMIN"
    | .dispatcher => "DISPATCHER"
    | .none => "NONE"

/-- What a back-office user may do. -/
inductive Permission where
  | dashboard
  | favoriteLocation
  | commonAddress
  | rskDispatch
  | kdDispatch
  | weiDispatch
  | dispatch
  | orderReport
  | rskReport
  | kdReport
  | weiReport
  | operationReport
  | driverList
  | vehicleList
  deriving DecidableEq, Repr

namespace Permission

/-- The word of a permission. -/
def word : Permission → String
  | dashboard => "dashboard"
  | favoriteLocation => "favorite_location"
  | commonAddress => "common_address"
  | rskDispatch => "rsk_dispatch"
  | kdDispatch => "kd_dispatch"
  | weiDispatch => "wei_dispatch"
  | dispatch => "dispatch"
  | orderReport => "order_report"
  | rskReport => "rsk_report"
  | kdReport => "kd_report"
  | weiReport => "wei_report"
  | operationReport => "operation_report"
  | driverList => "driver_list"
  | vehicleList => "vehicle_list"

instance : Vocabulary Permission where
  title := "Permission"
  members := [dashboard, favoriteLocation, commonAddress, rskDispatch, kdDispatch, weiDispatch,
    dispatch, orderReport, rskReport, kdReport, weiReport, operationReport, driverList,
    vehicleList]
  value := word
  name permission := permission.word.toUpper

end Permission

/-- Which fleets a user may see. -/
inductive FleetAccess where
  | all
  | own
  deriving DecidableEq, Repr

instance : Vocabulary FleetAccess where
  title := "FleetAccess"
  members := [.all, .own]
  value
    | .all => "all"
    | .own => "own"
  name
    | .all => "ALL"
    | .own => "OWN"

namespace Role

/-- The permissions of a role when none are stored for the user. -/
def defaultPermissions : Role → List Permission
  | systemAdmin | moderator =>
    [.dashboard, .rskDispatch, .kdDispatch, .weiDispatch, .favoriteLocation, .orderReport,
      .rskReport, .kdReport, .weiReport, .driverList, .vehicleList]
  | admin => [.dashboard, .dispatch, .orderReport, .operationReport, .driverList]
  | dispatcher => [.dashboard, .dispatch, .commonAddress]
  | none => []

/-- The fleets that a role sees when nothing else is stored. -/
def defaultFleetAccess : Role → FleetAccess
  | systemAdmin | moderator => .all
  | _ => .own

end Role

end FleetGate
