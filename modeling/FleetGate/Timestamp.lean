import FleetGate.Json.Basic
import FleetGate.Number.Reading
import FleetGate.Text.Digits
import FleetGate.Validation

/-!
# Timestamps

A timestamp is a day of the Gregorian calendar, a time of day to the microsecond and, unless it
is local, an offset from universal time. It is read from the usual text forms or from a count of
seconds or milliseconds since 1970, and written in one form.
-/

namespace FleetGate

/-- A day and time, with the seconds by which its zone is ahead of universal time. -/
structure Timestamp where
  year : Nat
  month : Nat
  day : Nat
  hour : Nat
  minute : Nat
  second : Nat
  micro : Nat
  offset : Option Int
  deriving DecidableEq

namespace Timestamp

/-- Every fourth year is a leap year, except full centuries not divisible by 400. -/
def isLeap (year : Nat) : Bool :=
  year % 4 == 0 && (year % 100 != 0 || year % 400 == 0)

/-- The number of days of a month. -/
def daysInMonth (year month : Nat) : Nat :=
  if month = 2 then (if isLeap year then 29 else 28)
  else if month = 4 ∨ month = 6 ∨ month = 9 ∨ month = 11 then 30
  else 31

/-- The month exists and has this day. -/
def isDay (year month day : Nat) : Bool :=
  1 ≤ month && month ≤ 12 && 1 ≤ day && day ≤ daysInMonth year month

/-- Year, month and day of a number of days since 1 January 1970. The count starts from 1 March,
so that a leap day is the last day of its year. -/
def civil (days : Int) : Nat × Nat × Nat :=
  let shifted := days + 719468
  let era := shifted / 146097
  let dayOfEra := shifted % 146097
  let yearOfEra := (dayOfEra - dayOfEra / 1460 + dayOfEra / 36524 - dayOfEra / 146096) / 365
  let dayOfYear := dayOfEra - (365 * yearOfEra + yearOfEra / 4 - yearOfEra / 100)
  let monthFromMarch := (5 * dayOfYear + 2) / 153
  let day := dayOfYear - (153 * monthFromMarch + 2) / 5 + 1
  let month := if monthFromMarch < 10 then monthFromMarch + 3 else monthFromMarch - 9
  let year := yearOfEra + era * 400 + (if month ≤ 2 then 1 else 0)
  (year.toNat, month.toNat, day.toNat)

/-- The timestamp of a number of seconds since 1970 in universal time. -/
def ofUnix (seconds : Int) (micro : Nat) : Timestamp :=
  let (year, month, day) := civil (seconds / 86400)
  let rest := (seconds % 86400).toNat
  ⟨year, month, day, rest / 3600, rest / 60 % 60, rest % 60, micro, some 0⟩

/-- The first second of the year zero. -/
def earliestUnix : Int := -62167219200

/-- The last second of the year 9999. -/
def latestUnix : Int := 253402300799

/-- Counts beyond this many are milliseconds. -/
def millisecondsFrom : Nat := 20000000000

/-- The timestamp of seconds and microseconds since 1970, within the years zero to 9999. -/
def ofSeconds? (seconds : Int) (micro : Nat) : Option Timestamp :=
  let seconds := seconds + micro / 1000000
  if seconds < earliestUnix ∨ latestUnix < seconds then none
  else some (ofUnix seconds (micro % 1000000))

/-- The timestamp of a count since 1970, of seconds or of milliseconds by its size. -/
def ofCount? (count : Int) : Option Timestamp :=
  if count.natAbs ≤ millisecondsFrom then ofSeconds? count 0
  else ofSeconds? (count / 1000) ((count % 1000).toNat * 1000)

/-- The timestamp of a fractional count. What stands above the last full second is rounded to
microseconds, a half going up. -/
def ofFloat? (count : Float) : Option Timestamp :=
  let limit := Float.ofNat millisecondsFrom
  let seconds := if limit < count || count < -limit then count / 1000 else count
  match (FloatParts.ofFloat seconds).floor? with
  | none => none
  | some whole =>
    let above := seconds - Decimal.toFloat ⟨whole.natAbs, 0⟩ (whole < 0)
    ofSeconds? whole (FloatParts.ofFloat (above * 1000000)).roundUp

/-- A number of a fixed count of ASCII digits, and what follows. -/
def fixedDigits? : (count : Nat) → Text → Option (Nat × Text)
  | 0, text => some (0, text)
  | count + 1, point :: rest => do
    let digit ← point.asciiDigit?
    let (number, rest) ← fixedDigits? count rest
    return (digit * Nat.pow 10 count + number, rest)
  | _ + 1, [] => none

/-- Drops a character that must come next. -/
def expect? (char : Char) : Text → Option Text
  | point :: rest => if point.is char then some rest else none
  | [] => none

/-- Year, month and day with hyphens. -/
def readDay? (text : Text) : Option ((Nat × Nat × Nat) × Text) := do
  let (year, text) ← fixedDigits? 4 text
  let text ← expect? '-' text
  let (month, text) ← fixedDigits? 2 text
  let text ← expect? '-' text
  let (day, text) ← fixedDigits? 2 text
  if isDay year month day then some ((year, month, day), text) else none

/-- The first six digits of a fraction as microseconds. -/
def microOfDigits (digits : List Nat) : Nat :=
  natOfDigits ((digits ++ List.replicate 6 0).take 6)

/-- Seconds with an optional fraction, if a colon announces them. -/
def readSeconds? (text : Text) : Option ((Nat × Nat) × Text) :=
  match text with
  | [] => some ((0, 0), [])
  | point :: rest =>
    if !point.is ':' then some ((0, 0), text)
    else do
      let (second, text) ← fixedDigits? 2 rest
      if 59 < second then none
      else
        match text with
        | [] => some ((second, 0), [])
        | mark :: rest =>
          if mark.is '.' || mark.is ',' then
            match Text.spanDigits rest with
            | ([], _) => none
            | (digits, text) => some ((second, microOfDigits digits), text)
          else some ((second, 0), text)

/-- A sign of a zone; the true minus sign counts as well. -/
def zoneSign? (point : CodePoint) : Option Int :=
  if point.is '+' then some 1
  else if point.is '-' || point.value = 0x2212 then some (-1)
  else none

/-- The zone at the end of a text: nothing, universal time, or an offset. -/
def readZone? (text : Text) : Option (Option Int) :=
  match text with
  | [] => some none
  | point :: rest =>
    if (point.is 'Z' || point.is 'z') && rest.isEmpty then some (some 0)
    else do
      let sign ← zoneSign? point
      let (hours, rest) ← fixedDigits? 2 rest
      let rest := (expect? ':' rest).getD rest
      let (minutes, rest) ← fixedDigits? 2 rest
      if rest.isEmpty && minutes ≤ 59 && hours ≤ 23 then
        some (some (sign * (hours * 3600 + minutes * 60)))
      else none

/-- A day and time in the usual text forms, or a day alone, which means its midnight. -/
def readText? (text : Text) : Option Timestamp := do
  let ((year, month, day), rest) ← readDay? text
  match rest with
  | [] => some ⟨year, month, day, 0, 0, 0, 0, none⟩
  | point :: rest =>
    if point.is 'T' || point.is 't' || point.is ' ' || point.is '_' then
      let (hour, rest) ← fixedDigits? 2 rest
      let rest ← expect? ':' rest
      let (minute, rest) ← fixedDigits? 2 rest
      if 23 < hour ∨ 59 < minute then none
      else
        let ((second, micro), rest) ← readSeconds? rest
        let zone ← readZone? rest
        some ⟨year, month, day, hour, minute, second, micro, zone⟩
    else none

/-- A count since 1970 written as a number, with digits on at least one side of its point. -/
def readCount? (text : Text) : Option Timestamp :=
  let (negative, rest) := Text.takeSign text
  match Text.spanDigits rest with
  | ([], []) => none
  | (digits, []) =>
    let magnitude : Int := natOfDigits digits
    ofCount? (if negative then -magnitude else magnitude)
  | (digits, point :: rest) =>
    if point.is '.' then
      match digits, Text.spanDigits rest with
      | [], ([], []) | _, (_, _ :: _) => none
      | digits, (fraction, []) =>
        ofFloat? (Decimal.toFloat ⟨natOfDigits (digits ++ fraction), -fraction.length⟩ negative)
    else none

/-- The year zero can be read and counted to, but no timestamp lies in it. -/
def afterYearZero (timestamp : Timestamp) : Except Issue.Kind Timestamp :=
  if timestamp.year = 0 then .error .timestampParsing else .ok timestamp

/-- The timestamp of a JSON value. -/
def ofJson : Json → Except Issue.Kind Timestamp
  | .string text =>
    match (readText? text).or (readCount? text) with
    | some timestamp => timestamp.afterYearZero
    | none => .error .timestampFromDate
  | .int count =>
    match ofCount? count with
    | some timestamp => timestamp.afterYearZero
    | none => .error (if (floatOfInt? count).isNone then .timestampType else .timestampParsing)
  | .float count =>
    match ofFloat? count with
    | some timestamp => timestamp.afterYearZero
    | none => .error .timestampParsing
  | _ => .error .timestampType

/-- A number in a fixed count of digits. -/
def digits (width number : Nat) : Text :=
  let shown := Nat.toDigits 10 number
  (List.replicate (width - shown.length) '0' ++ shown).map .scalar

/-- The day with hyphens. -/
def dayText (timestamp : Timestamp) : Text :=
  digits 4 timestamp.year ++ "-" ++ digits 2 timestamp.month ++ "-" ++ digits 2 timestamp.day

/-- Hours, minutes and seconds with colons. -/
def clock (timestamp : Timestamp) : Text :=
  digits 2 timestamp.hour ++ ":" ++ digits 2 timestamp.minute ++ ":" ++
    digits 2 timestamp.second

/-- The zone: `Z` for universal time, nothing for a local time. -/
def zone (timestamp : Timestamp) : Text :=
  match timestamp.offset with
  | none => []
  | some offset =>
    if offset = 0 then "Z"
    else
      let minutes := offset.natAbs / 60
      (if offset < 0 then Text.ofString "-" else "+") ++ digits 2 (minutes / 60) ++ ":" ++
        digits 2 (minutes % 60)

/-- The written form; a fraction has six digits and is left out when it is zero. -/
def write (timestamp : Timestamp) : Text :=
  let fraction : Text := if timestamp.micro = 0 then [] else "." ++ digits 6 timestamp.micro
  timestamp.dayText ++ "T" ++ timestamp.clock ++ fraction ++ timestamp.zone

/-- The form in a table: local, with a blank in the middle and always six digits of fraction. -/
def stored (timestamp : Timestamp) : Text :=
  timestamp.dayText ++ " " ++ timestamp.clock ++ "." ++ digits 6 timestamp.micro

/-- The form in which the database writes its own clock: local and to the second. -/
def storedToSecond (timestamp : Timestamp) : Text :=
  timestamp.dayText ++ " " ++ timestamp.clock

/-- Days since 1 January 1970. -/
def dayNumber (timestamp : Timestamp) : Int :=
  let month : Int := timestamp.month
  let year : Int := timestamp.year - (if month ≤ 2 then 1 else 0)
  let era := year / 400
  let yearOfEra := year % 400
  let monthFromMarch := if 2 < month then month - 3 else month + 9
  let dayOfYear := (153 * monthFromMarch + 2) / 5 + timestamp.day - 1
  era * 146097 + yearOfEra * 365 + yearOfEra / 4 - yearOfEra / 100 + dayOfYear - 719468

/-- Microseconds since 1970 on the clock of the timestamp's own zone. -/
def localMicros (timestamp : Timestamp) : Int :=
  ((timestamp.dayNumber * 24 + timestamp.hour) * 60 + timestamp.minute) * 60000000 +
    timestamp.second * 1000000 + timestamp.micro

/-- Two timestamps name the same moment. A local one is never the same as one with a zone. -/
def same (left right : Timestamp) : Bool :=
  match left.offset, right.offset with
  | none, none => left.localMicros == right.localMicros
  | some leftOffset, some rightOffset =>
    left.localMicros - leftOffset * 1000000 == right.localMicros - rightOffset * 1000000
  | _, _ => false

end Timestamp

end FleetGate
