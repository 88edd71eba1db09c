import FleetGate.Fault
import FleetGate.Number.Reading
import FleetGate.Text.Quoted

/-!
# Numbers that have to be there

Reading a number out of a text that must spell one, with the complaint about a text that does not.
-/

namespace FleetGate

namespace Text

/-- Of a long text a complaint about an integer shows only the start. -/
def shownLimit : Nat := 200

/-- The complaint about too many digits. -/
def tooManyDigits (count : Nat) : Fault :=
  ⟨.badValue, "Exceeds the limit (" ++ ofNat integerDigitLimit ++
    ofString " digits) for integer string conversion: value has " ++ ofNat count ++
    ofString " digits; use sys.set_int_max_str_digits() to increase the limit"⟩

/-- The complaint about a text that spells no integer. Too many digits are noticed before what
follows them. -/
def notInteger (text : Text) : Fault :=
  let other : Fault :=
    ⟨.badValue, "invalid literal for int() with base 10: " ++ text.quoted.take shownLimit⟩
  let run := (takeSign text.trimSpace).2.takeWhile fun point =>
    point.digit?.isSome || point.is '_'
  match groupedDigits? false run with
  | none => other
  | some digits => if integerDigitLimit < digits.length then tooManyDigits digits.length else other

/-- The integer of a text that must spell one. -/
def readInt (text : Text) : Except Fault Int :=
  match text.toInt? with
  | some number => .ok number
  | none => .error text.notInteger

/-- The double of a text that must spell one. -/
def readFloat (text : Text) : Except Fault Float :=
  match text.toFloat? with
  | some number => .ok number
  | none => .error ⟨.badValue, "could not convert string to float: " ++ text.quoted⟩

end Text

end FleetGate
