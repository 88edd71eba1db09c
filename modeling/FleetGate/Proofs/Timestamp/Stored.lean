import FleetGate.Proofs.Number.Padded
import FleetGate.Timestamp.Iso
import Mathlib.Data.List.TakeWhile
import Mathlib.Tactic.Ring

/-!
# Stored timestamps

A timestamp that lies in the calendar is stored without its zone, and reading the text back gives
the same day and the same time of day. The text of the database's own clock has no fraction.
-/

namespace FleetGate

namespace Timestamp

/-- The timestamp names a day of the years 1 to 9999 and a time of that day. -/
structure IsCalendar (timestamp : Timestamp) : Prop where
  year_pos : 0 < timestamp.year
  year_lt : timestamp.year < 10000
  isDay : isDay timestamp.year timestamp.month timestamp.day = true
  hour_lt : timestamp.hour < 24
  minute_lt : timestamp.minute < 60
  second_lt : timestamp.second < 60
  micro_lt : timestamp.micro < 1000000

/-- The same day and time of day without a zone. -/
def withoutZone (timestamp : Timestamp) : Timestamp :=
  { timestamp with offset := none }

/-- The same second without a zone. -/
def toSecond (timestamp : Timestamp) : Timestamp :=
  { timestamp with micro := 0, offset := none }

/-! ## Digits -/

theorem digits_one {number : Nat} (small : number < 10) :
    digits 1 number = [Digit.point 10 number] :=
  Digit.padded_one small

/-- The last digit stands behind the others. -/
theorem digits_succ {width : Nat} (positive : 0 < width) (number : Nat) :
    digits (width + 1) number = digits width (number / 10) ++ [Digit.point 10 number] :=
  Digit.padded_succ (by omega) positive number

theorem digits_two {number : Nat} (small : number < 100) :
    digits 2 number = [Digit.point 10 (number / 10), Digit.point 10 number] := by
  rw [digits_succ (by omega), digits_one (by omega)]
  rfl

theorem digits_four {number : Nat} (small : number < 10000) :
    digits 4 number = [Digit.point 10 (number / 10 / 10 / 10), Digit.point 10 (number / 10 / 10),
      Digit.point 10 (number / 10), Digit.point 10 number] := by
  rw [digits_succ (by omega), digits_succ (by omega), digits_two (by omega)]
  rfl

theorem digits_six {number : Nat} (small : number < 1000000) :
    digits 6 number = [Digit.point 10 (number / 10 / 10 / 10 / 10 / 10),
      Digit.point 10 (number / 10 / 10 / 10 / 10), Digit.point 10 (number / 10 / 10 / 10),
      Digit.point 10 (number / 10 / 10), Digit.point 10 (number / 10), Digit.point 10 number] := by
  rw [digits_succ (by omega), digits_succ (by omega), digits_four (by omega)]
  rfl

/-- One digit more. -/
theorem fixedDigits?_snoc {width number digit : Nat} {point : CodePoint} {text rest : Text}
    (front : fixedDigits? width text = some (number, point :: rest))
    (isDigit : point.asciiDigit? = some digit) :
    fixedDigits? (width + 1) text = some (10 * number + digit, rest) := by
  induction width generalizing text number with
  | zero =>
      rw [fixedDigits?, Option.some.injEq, Prod.mk.injEq] at front
      rcases front with ⟨rfl, rfl⟩
      simp [fixedDigits?, isDigit]
  | succ width ih =>
      cases text with
      | nil => cases front
      | cons first others =>
          rw [fixedDigits?] at front ⊢
          cases leading : first.asciiDigit? with
          | none => simp [leading] at front
          | some own =>
              cases inner : fixedDigits? width others with
              | none => simp [leading, inner] at front
              | some found =>
                  rcases found with ⟨later, left⟩
                  simp only [leading, inner, Option.bind_eq_bind, Option.bind_some,
                    Option.pure_def, Option.some.injEq, Prod.mk.injEq] at front
                  rcases front with ⟨total, rfl⟩
                  simp only [ih inner, Option.bind_eq_bind, Option.bind_some,
                    Option.pure_def, Option.some.injEq, Prod.mk.injEq, and_true]
                  rw [← total, Nat.pow_eq, Nat.pow_eq, Nat.pow_succ]
                  ring

/-- Digits are read back, whatever stands behind them. -/
theorem fixedDigits?_digits (width : Nat) {number : Nat} (wide : 0 < width)
    (small : number < 10 ^ width) (rest : Text) :
    fixedDigits? width (digits width number ++ rest) = some (number, rest) := by
  induction width generalizing number rest with
  | zero => omega
  | succ width ih =>
      rcases Nat.eq_zero_or_pos width with rfl | wider
      · rw [digits_one (by omega)]
        simp [fixedDigits?]
        omega
      · have front : number / 10 < 10 ^ width := by
          rw [Nat.pow_succ] at small
          omega
        rw [digits_succ wider, List.append_assoc]
        have all := fixedDigits?_snoc (ih wider front (Digit.point 10 number :: rest))
          (Digit.asciiDigit?_point number)
        rw [Nat.div_add_mod] at all
        exact all

/-! ## Reading a day and a clock -/

variable {timestamp : Timestamp}

theorem IsCalendar.month_lt (calendar : timestamp.IsCalendar) : timestamp.month < 100 := by
  have isDay := calendar.isDay
  simp only [Timestamp.isDay, Bool.and_eq_true, decide_eq_true_eq] at isDay
  omega

theorem IsCalendar.day_lt (calendar : timestamp.IsCalendar) : timestamp.day < 100 := by
  have isDay := calendar.isDay
  have short : daysInMonth timestamp.year timestamp.month ≤ 31 := by
    unfold daysInMonth
    split
    · split <;> omega
    · split <;> omega
  simp only [Timestamp.isDay, Bool.and_eq_true, decide_eq_true_eq] at isDay
  omega

theorem IsCalendar.checkDay_eq (calendar : timestamp.IsCalendar) :
    checkDay timestamp.year timestamp.month timestamp.day =
      .ok (timestamp.year, timestamp.month, timestamp.day) := by
  have isDay := calendar.isDay
  have pos := calendar.year_pos
  have lt := calendar.year_lt
  have month : ¬(timestamp.month = 0 ∨ 12 < timestamp.month) := by
    simp only [Timestamp.isDay, Bool.and_eq_true, decide_eq_true_eq] at isDay
    omega
  rw [checkDay, if_neg (by omega), if_neg month, if_pos isDay]

theorem dayText_eq (calendar : timestamp.IsCalendar) :
    timestamp.dayText =
      [Digit.point 10 (timestamp.year / 10 / 10 / 10), Digit.point 10 (timestamp.year / 10 / 10),
        Digit.point 10 (timestamp.year / 10), Digit.point 10 timestamp.year, .scalar '-',
        Digit.point 10 (timestamp.month / 10), Digit.point 10 timestamp.month, .scalar '-',
        Digit.point 10 (timestamp.day / 10), Digit.point 10 timestamp.day] := by
  rw [dayText, digits_four calendar.year_lt, digits_two calendar.month_lt,
    digits_two calendar.day_lt]
  rfl

/-- A day takes ten places. -/
theorem dayLength_dayText (calendar : timestamp.IsCalendar) (rest : Text) :
    dayLength (timestamp.dayText ++ rest) = 10 := by
  have notWeek := Digit.is_point 'W' rfl (timestamp.month / 10)
  rw [dayText_eq calendar]
  simp [dayLength, hasMark, notWeek]

theorem readIsoDay?_dayText (calendar : timestamp.IsCalendar) :
    readIsoDay? timestamp.dayText =
      some (.date timestamp.year timestamp.month timestamp.day) := by
  have year := fixedDigits?_digits 4 (by omega) calendar.year_lt
  have month := fixedDigits?_digits 2 (by omega) calendar.month_lt
  have day := fixedDigits?_digits 2 (by omega) calendar.day_lt []
  have notWeek (rest : Text) : expect? 'W' (digits 2 timestamp.month ++ rest) = none := by
    have noMark := Digit.is_point 'W' rfl (timestamp.month / 10)
    simp [digits_two calendar.month_lt, expect?, noMark]
  have hyphen (rest : Text) : expect? '-' (.scalar '-' :: rest) = some rest := rfl
  have shape : timestamp.dayText = digits 4 timestamp.year ++ (.scalar '-' ::
      (digits 2 timestamp.month ++ (.scalar '-' :: (digits 2 timestamp.day ++ [])))) := by
    simp only [dayText, List.append_nil, List.append_assoc]
    rfl
  rw [shape]
  simp only [readIsoDay?, year, month, day, hyphen, notWeek, Option.bind_eq_bind,
    Option.bind_some, Option.isSome_some, if_true, List.isEmpty_nil]

/-- A number that a colon follows is a unit of the clock. -/
theorem readUnits?_colon {colons : Option Bool} (spelled : colons ≠ some false) {number : Nat}
    (small : number < 100) (units : Nat) {after : Text} (more : after ≠ []) :
    readUnits? colons (units + 1) (digits 2 number ++ .scalar ':' :: after) =
      (readUnits? (some true) units after).map fun (found, micro, trailed) =>
        (number :: found, micro, trailed) := by
  have two := fixedDigits?_digits 2 (by omega) small (.scalar ':' :: after)
  have colon : colons.getD true = true := by
    rcases colons with _ | _ | _
    · rfl
    · exact absurd rfl spelled
    · rfl
  have nonempty : after.isEmpty = false := by simpa using more
  simp only [readUnits?, two, Option.bind_eq_bind, Option.bind_some, colon, nonempty,
    Bool.false_and, Bool.false_eq_true, if_false, CodePoint.is_scalar, beq_self_eq_true,
    Bool.and_self, if_true]

theorem readUnits?_last {number : Nat} (small : number < 100) (units : Nat) :
    readUnits? (some true) (units + 1) (digits 2 number) = some ([number], 0, false) := by
  have two := fixedDigits?_digits 2 (by omega) small []
  rw [List.append_nil] at two
  simp only [readUnits?, two, Option.bind_eq_bind, Option.bind_some]

/-- Six digits of a fraction are its microseconds. -/
theorem readUnits?_fraction {number micro : Nat} (small : number < 100) (tiny : micro < 1000000)
    (units : Nat) :
    readUnits? (some true) (units + 1) (digits 2 number ++ .scalar '.' :: digits 6 micro) =
      some ([number], micro, false) := by
  have two := fixedDigits?_digits 2 (by omega) small (.scalar '.' :: digits 6 micro)
  have six : fixedDigits? 6 (digits 6 micro ++ []) = some (micro, []) :=
    fixedDigits?_digits 6 (by omega) tiny []
  have fraction : readFraction? (digits 6 micro) = some (micro, false) := by
    have long : (digits 6 micro).length = 6 := by rw [digits_six tiny]; rfl
    rw [List.append_nil] at six
    simp [readFraction?, long, six, trails, readFraction?.digitsValue, natOfDigits]
  have nonempty : digits 6 micro ≠ [] := by simp [digits_six tiny]
  simp [readUnits?, two, nonempty, fraction]

theorem readIsoClock?_clock (calendar : timestamp.IsCalendar) :
    readIsoClock? timestamp.clock =
      some ⟨timestamp.hour, timestamp.minute, timestamp.second, 0, false⟩ := by
  have hour := calendar.hour_lt
  have minute := calendar.minute_lt
  have second := calendar.second_lt
  have shape : timestamp.clock = digits 2 timestamp.hour ++ .scalar ':' ::
      (digits 2 timestamp.minute ++ .scalar ':' :: digits 2 timestamp.second) := by
    simp only [clock, List.append_assoc]
    rfl
  have ends : digits 2 timestamp.second ≠ [] := by
    simp [digits_two (by omega : timestamp.second < 100)]
  rw [readIsoClock?, shape, readUnits?_colon (by simp) (by omega) 2 (by simp),
    readUnits?_colon (by simp) (by omega) 1 ends, readUnits?_last (by omega)]
  rfl

theorem readIsoClock?_fraction (calendar : timestamp.IsCalendar) :
    readIsoClock? (timestamp.clock ++ "." ++ digits 6 timestamp.micro) =
      some ⟨timestamp.hour, timestamp.minute, timestamp.second, timestamp.micro, false⟩ := by
  have hour := calendar.hour_lt
  have minute := calendar.minute_lt
  have second := calendar.second_lt
  have shape : timestamp.clock ++ "." ++ digits 6 timestamp.micro =
      digits 2 timestamp.hour ++ .scalar ':' :: (digits 2 timestamp.minute ++ .scalar ':' ::
        (digits 2 timestamp.second ++ .scalar '.' :: digits 6 timestamp.micro)) := by
    simp only [clock, List.append_assoc]
    rfl
  rw [readIsoClock?, shape, readUnits?_colon (by simp) (by omega) 2 (by simp),
    readUnits?_colon (by simp) (by omega) 1 (by simp),
    readUnits?_fraction (by omega) calendar.micro_lt]
  rfl

/-! ## Reading a stored timestamp -/

/-- No point of a clock starts a zone. -/
def IsInClock (point : CodePoint) : Prop :=
  (point.is '+' || point.is '-' || point.is 'Z') = false

theorem isInClock_point (number : Nat) : IsInClock (Digit.point 10 number) := by
  simp [IsInClock, Digit.is_point '+' rfl, Digit.is_point '-' rfl, Digit.is_point 'Z' rfl]

theorem isInClock_fraction (calendar : timestamp.IsCalendar) :
    ∀ point ∈ timestamp.clock ++ "." ++ digits 6 timestamp.micro, IsInClock point := by
  have hour := calendar.hour_lt
  have minute := calendar.minute_lt
  have second := calendar.second_lt
  have colon : IsInClock (.scalar ':') := rfl
  have dot : IsInClock (.scalar '.') := rfl
  rw [clock, digits_two (by omega : timestamp.hour < 100),
    digits_two (by omega : timestamp.minute < 100), digits_two (by omega : timestamp.second < 100),
    digits_six calendar.micro_lt]
  simp [Text.ofString, isInClock_point, colon, dot]

/-- A day and a clock without a zone are a timestamp. -/
theorem readIso_dayText (calendar : timestamp.IsCalendar) {time : Text} {micro : Nat}
    (inClock : ∀ point ∈ time, IsInClock point)
    (read : readIsoClock? time =
      some ⟨timestamp.hour, timestamp.minute, timestamp.second, micro, false⟩) :
    readIso (timestamp.dayText ++ .scalar ' ' :: time) =
      .ok { timestamp with micro := micro, offset := none } := by
  have whole : (time.takeWhile fun point => !(point.is '+' || point.is '-' || point.is 'Z')) =
      time := by
    apply List.takeWhile_eq_self_iff.2
    intro point listed
    exact Bool.not_eq_true' _ ▸ inClock point listed
  have ten : timestamp.dayText.length = 10 := by rw [dayText_eq calendar]; rfl
  have day : (timestamp.dayText ++ .scalar ' ' :: time).take 10 = timestamp.dayText := by
    rw [← ten, List.take_left]
  have rest : (timestamp.dayText ++ .scalar ' ' :: time).drop 10 = .scalar ' ' :: time := by
    rw [← ten, List.drop_left]
  have form : readIsoForm? (timestamp.dayText ++ .scalar ' ' :: time) =
      some (.date timestamp.year timestamp.month timestamp.day,
        ⟨timestamp.hour, timestamp.minute, timestamp.second, micro, false⟩, none) := by
    simp only [readIsoForm?, dayLength_dayText calendar, day, rest, readIsoDay?_dayText calendar,
      whole, read, Option.bind_eq_bind, Option.bind_some, List.drop_length, Bool.false_eq_true,
      if_false]
  have hour := calendar.hour_lt
  have minute := calendar.minute_lt
  have second := calendar.second_lt
  have noHour : ¬23 < timestamp.hour := by omega
  have noMinute : ¬59 < timestamp.minute := by omega
  have noSecond : ¬59 < timestamp.second := by omega
  have checked : (GivenDay.date timestamp.year timestamp.month timestamp.day).resolve =
      .ok (timestamp.year, timestamp.month, timestamp.day) := calendar.checkDay_eq
  unfold readIso
  rw [form]
  simp only [Option.mapM_none, checked, noHour, noMinute, noSecond, if_false]
  rfl

/-- What is stored for a timestamp is read back without its zone. -/
theorem readIso_stored (calendar : timestamp.IsCalendar) :
    readIso timestamp.stored = .ok timestamp.withoutZone := by
  have read := readIso_dayText calendar (isInClock_fraction calendar)
    (readIsoClock?_fraction calendar)
  have shape : timestamp.stored = timestamp.dayText ++
      .scalar ' ' :: (timestamp.clock ++ Text.ofString "." ++ digits 6 timestamp.micro) := by
    simp only [stored, List.append_assoc]
    rfl
  rw [shape]
  exact read

/-- What the database stores for a moment of its own is read back to the second. -/
theorem readIso_storedToSecond (calendar : timestamp.IsCalendar) :
    readIso timestamp.storedToSecond = .ok timestamp.toSecond := by
  have shape : timestamp.storedToSecond =
      timestamp.dayText ++ .scalar ' ' :: timestamp.clock := by
    simp only [storedToSecond, List.append_assoc]
    rfl
  rw [shape]
  apply readIso_dayText calendar _ (readIsoClock?_clock calendar)
  intro point listed
  apply isInClock_fraction calendar
  simp [listed]

end Timestamp

end FleetGate
