/-!
# Tables of ranges

A property of code points is given by the ranges of numbers that have it, in increasing order. A
number is looked up by halving the table.
-/

namespace FleetGate

/-- Ranges of numbers, each by its first and last one, in increasing order. -/
abbrev RangeTable := Array (Nat × Nat)

namespace RangeTable

/-- Halves the part of a table between two positions that can hold a number. -/
def search (table : RangeTable) (number : Nat) : (steps low high : Nat) → Bool
  | 0, _, _ => false
  | steps + 1, low, high =>
    if high ≤ low then false
    else
      let middle := (low + high) / 2
      match table[middle]? with
      | none => false
      | some (first, last) =>
        if number < first then search table number steps low middle
        else if last < number then search table number steps (middle + 1) high
        else true

/-- A range of the table holds the number. -/
def holds (table : RangeTable) (number : Nat) : Bool :=
  search table number (table.size.log2 + 1) 0 table.size

end RangeTable

end FleetGate
