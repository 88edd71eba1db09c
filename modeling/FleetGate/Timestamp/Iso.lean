import FleetGate.Fault
import FleetGate.Text.Quoted
import FleetGate.Timestamp

/-!
# Timestamps in tables

The text of a timestamp in a table is read more freely than one in a request: hyphens and colons
may be left out, a day may be given by its week, any character may stand between day and time,
and a zone may go down to seconds. The form is read first and the numbers are judged afterwards,
so a text of the right form gets a complaint about the number that is out of range.
-/

namespace FleetGate

namespace Timestamp

/-- The number of a calendar day, counted from 1 January 1970. -/
def dayNumberOf (year month day : Nat) : Int :=
  dayNumber ⟨year, month, day, 0, 0, 0, 0, none⟩

/-- The number of the Monday with which the first week of a year begins. Week one is the week of
the fourth of January. -/
def firstMonday (year : Nat) : Int :=
  let fourth := dayNumberOf year 1 4
  fourth - (fourth + 3) % 7

/-- The year has a week of this number. -/
def hasWeek (year week : Nat) : Bool :=
  let monday := firstMonday year + 7 * ((week : Int) - 1)
  1 ≤ week && monday + 3 < dayNumberOf (year + 1) 1 1

/-- A day as a text gives it. -/
inductive GivenDay where
  | date (year month day : Nat)
  | weekday (year week day : Nat)

/-- A complaint about a number of a timestamp. -/
def outOfRange (complaint : String) : Fault := ⟨.badValue, complaint⟩

/-- The complaint about a year that is out of range. -/
def yearOutOfRange (year : Nat) : Fault :=
  ⟨.badValue, "year " ++ Text.ofNat year ++ " is out of range"⟩

/-- Judges year, month and day, in this order. -/
def checkDay (year month day : Nat) : Except Fault (Nat × Nat × Nat) :=
  if year = 0 ∨ 9999 < year then .error (yearOutOfRange year)
  else if month = 0 ∨ 12 < month then .error (outOfRange "month must be in 1..12")
  else if isDay year month day then .ok (year, month, day)
  else .error (outOfRange "day is out of range for month")

/-- The calendar day of a day that is given. The weeks of the year zero lead nowhere. -/
def GivenDay.resolve : GivenDay → Except Fault (Nat × Nat × Nat)
  | date year month day => checkDay year month day
  | weekday 0 _ _ => .error (outOfRange "month must be in 1..12")
  | weekday year week day =>
    let (year, month, day) := civil (firstMonday year + 7 * ((week : Int) - 1) + day - 1)
    checkDay year month day

/-- A digit stands at a place. -/
def hasDigit (text : Text) (place : Nat) : Bool :=
  (text[place]?.bind (·.asciiDigit?)).isSome

/-- A character stands at a place. -/
def hasMark (text : Text) (place : Nat) (mark : Char) : Bool :=
  (text[place]?.map (·.is mark)).getD false

/-- How many places the day takes at the start of a text. A week with hyphens may be followed by
a weekday and a time without hyphens by one more digit; a week without hyphens takes seven or
eight places, so that what follows the separator has an even number of digits. -/
def dayLength (text : Text) : Nat :=
  if text.length = 7 then 7
  else if hasMark text 4 '-' then
    if hasMark text 5 'W' && (!hasMark text 8 '-' || hasDigit text 10) then 8 else 10
  else if hasMark text 4 'W' then
    let last := 7 + (text.drop 7 |>.takeWhile (·.asciiDigit?.isSome)).length
    if last < 9 then last else if last % 2 = 0 then 7 else 8
  else 8

/-- A day by year, month and day, or by year, week and weekday, which may be left out. -/
def readIsoDay? (text : Text) : Option GivenDay := do
  let (year, rest) ← fixedDigits? 4 text
  let hyphens := (expect? '-' rest).isSome
  let separated (rest : Text) : Option Text := if hyphens then expect? '-' rest else some rest
  let rest ← separated rest
  match expect? 'W' rest with
  | some rest =>
    let (week, rest) ← fixedDigits? 2 rest
    let weekday ← if rest.isEmpty then some 1 else (separated rest).bind lastDigit?
    if hasWeek year week ∧ 1 ≤ weekday ∧ weekday ≤ 7 then some (.weekday year week weekday)
    else none
  | none =>
    let (month, rest) ← fixedDigits? 2 rest
    let (day, rest) ← (separated rest).bind (fixedDigits? 2)
    if rest.isEmpty then some (.date year month day) else none
where
  /-- A single digit that ends a text. -/
  lastDigit? : Text → Option Nat
    | [point] => point.asciiDigit?
    | _ => none

/-- A clock as a text gives it: hours, minutes and seconds as far as they go, a fraction, and
whether something that is not part of it stands behind it. -/
structure GivenClock where
  hour : Nat := 0
  minute : Nat := 0
  second : Nat := 0
  micro : Nat := 0
  isTrailed : Bool := false

/-- Something stands at the place where a text should end; a null character ends a text too. -/
def trails : Text → Bool
  | [] => false
  | point :: _ => point.value != 0

/-- A fraction to six digits; what follows the digits is not part of it. -/
def readFraction? (text : Text) : Option (Nat × Bool) := do
  let places := min text.length 6
  let (fraction, rest) ← fixedDigits? places text
  let rest := rest.dropWhile (·.asciiDigit?.isSome)
  some (fraction * (digitsValue (6 - places)), trails rest)
where
  /-- The power of ten with this many zeros. -/
  digitsValue (zeros : Nat) : Nat := natOfDigits (1 :: List.replicate zeros 0)

/-- Up to three numbers of two digits, with colons between them or not, and a fraction after any
of them. One ASCII character more may stand behind a number. -/
def readUnits? (colons : Option Bool) : (units : Nat) → Text → Option (List Nat × Nat × Bool)
  | 0, text => (readFraction? text).map fun (micro, trailed) => ([], micro, trailed)
  | units + 1, text => do
    let (unit, rest) ← fixedDigits? 2 text
    let also (read : Option (List Nat × Nat × Bool)) : Option (List Nat × Nat × Bool) :=
      read.map fun (units, micro, trailed) => (unit :: units, micro, trailed)
    match rest with
    | [] => some ([unit], 0, false)
    | mark :: after =>
      if after.isEmpty && mark.value < 128 then some ([unit], 0, trails rest)
      else
        let colons := colons.getD (mark.is ':')
        if colons && mark.is ':' then also (readUnits? (some true) units after)
        else if mark.is '.' || mark.is ',' then also (readUnits? (some colons) 0 after)
        else if colons then none
        else also (readUnits? (some false) units rest)

/-- A clock and whether something stands behind it. -/
def readIsoClock? (text : Text) : Option GivenClock :=
  (readUnits? none 3 text).map fun (units, micro, trailed) =>
    ⟨units.getD 0 0, units.getD 1 0, units.getD 2 0, micro, trailed⟩

/-- The number of seconds on a clock. -/
def GivenClock.seconds (clock : GivenClock) : Nat :=
  clock.hour * 3600 + clock.minute * 60 + clock.second

/-- A distance from universal time in seconds and microseconds of one sign. -/
structure GivenZone where
  isWest : Bool
  seconds : Nat
  micro : Nat

/-- The zone of a time: universal time, or a sign and a clock. Less than a second is no distance. -/
def readIsoZone? (text : Text) : Option GivenZone :=
  match text with
  | [] => none
  | point :: rest =>
    if point.is 'Z' then if trails rest then none else some ⟨false, 0, 0⟩
    else
      (readIsoClock? rest).bind fun clock =>
        if clock.isTrailed then none
        else some ⟨point.is '-', clock.seconds, if clock.seconds = 0 then 0 else clock.micro⟩

namespace GivenZone

/-- Microseconds ahead of universal time. -/
def micros (zone : GivenZone) : Int :=
  let magnitude : Int := zone.seconds * 1000000 + zone.micro
  if zone.isWest then -magnitude else magnitude

/-- A number of microseconds in days, seconds and microseconds, of which only the days can be
negative. -/
def duration (micros : Int) : Text :=
  let days := micros / 86400000000
  let seconds := micros % 86400000000 / 1000000
  let part (name : String) (number : Int) : List Text :=
    if number = 0 then [] else [name ++ "=" ++ Text.ofInt number]
  "datetime.timedelta(" ++ Text.joinWith ", " (part "days" days ++ part "seconds" seconds ++
    part "microseconds" (micros % 1000000)) ++ ")"

/-- The distance to the nearest second, which has to be less than a day. -/
def resolve (zone : GivenZone) : Except Fault Int :=
  if zone.micros.natAbs < 86400000000 then
    let seconds : Int := zone.seconds + (if 500000 ≤ zone.micro then 1 else 0)
    .ok (if zone.isWest then -seconds else seconds)
  else
    .error ⟨.badValue, "offset must be a timedelta strictly between -timedelta(hours=24) and " ++
      "timedelta(hours=24), not " ++ duration zone.micros ++ "."⟩

end GivenZone

/-- A day, a clock and perhaps a zone in a text of the right form. -/
def readIsoForm? (text : Text) : Option (GivenDay × GivenClock × Option GivenZone) := do
  let length := dayLength text
  let day ← readIsoDay? (text.take length)
  match text.drop length with
  | [] => some (day, {}, none)
  | _ :: time =>
    let inClock := time.takeWhile fun point => !(point.is '+' || point.is '-' || point.is 'Z')
    let clock ← readIsoClock? inClock
    match time.drop inClock.length with
    | [] => if clock.isTrailed then none else some (day, clock, none)
    | zone =>
      let zone ← readIsoZone? zone
      some (day, clock, some zone)

/-- The complaint about a text that is no timestamp. -/
def unreadable (text : Text) : Fault :=
  ⟨.badValue, "Invalid isoformat string: " ++ text.quoted⟩

/-- A timestamp in a table. The zone is judged first, then the day, then the clock. -/
def readIso (text : Text) : Except Fault Timestamp :=
  match readIsoForm? text with
  | none => .error (unreadable text)
  | some (day, clock, zone) => do
    let offset ← (zone.mapM GivenZone.resolve)
    let (year, month, day) ← day.resolve
    if 23 < clock.hour then .error (outOfRange "hour must be in 0..23")
    else if 59 < clock.minute then .error (outOfRange "minute must be in 0..59")
    else if 59 < clock.second then .error (outOfRange "second must be in 0..59")
    else .ok ⟨year, month, day, clock.hour, clock.minute, clock.second, clock.micro, offset⟩

end Timestamp

end FleetGate
