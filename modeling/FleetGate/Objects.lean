/-!
# Objects

Objects that several parties hold are known by their addresses. An address is given when an object
is made and never given again, so a new object is none of the old ones. What stands at an address
changes only when somebody writes there.
-/

namespace FleetGate

/-- The address of an object. -/
abbrev Address := Nat

/-- Objects by their addresses, in the order in which they were made. -/
structure Objects (α : Type) where
  all : List α

namespace Objects

variable {α : Type}

/-- No objects. -/
def empty : Objects α := ⟨[]⟩

/-- The object at an address. -/
def get? (objects : Objects α) (address : Address) : Option α :=
  objects.all[address]?

/-- The address that the next object gets. -/
def next (objects : Objects α) : Address := objects.all.length

/-- Makes an object. -/
def make (objects : Objects α) (object : α) : Objects α × Address :=
  (⟨objects.all ++ [object]⟩, objects.next)

/-- Writes over the object at an address. -/
def write (objects : Objects α) (address : Address) (object : α) : Objects α :=
  ⟨objects.all.set address object⟩

@[simp]
theorem get?_next (objects : Objects α) : objects.get? objects.next = none := by
  simp [get?, next]

/-- The new object stands at its address. -/
@[simp]
theorem get?_make_next (objects : Objects α) (object : α) :
    (objects.make object).1.get? objects.next = some object := by
  simp [get?, make, next]

/-- Making an object leaves the others alone. -/
theorem get?_make_old {objects : Objects α} {address : Address} {old : α}
    (found : objects.get? address = some old) (object : α) :
    (objects.make object).1.get? address = some old := by
  have inside : address < objects.all.length := (List.getElem?_eq_some_iff.1 found).1
  simpa [get?, make, List.getElem?_append_left inside] using found

/-- Every object is still where it was, and as it was. -/
def Keeps (before after : Objects α) : Prop :=
  ∀ address object, before.get? address = some object → after.get? address = some object

theorem Keeps.refl (objects : Objects α) : objects.Keeps objects :=
  fun _ _ found => found

theorem Keeps.trans {first second third : Objects α} (early : first.Keeps second)
    (late : second.Keeps third) : first.Keeps third :=
  fun address object found => late address object (early address object found)

theorem keeps_make (objects : Objects α) (object : α) : objects.Keeps (objects.make object).1 :=
  fun _ _ found => get?_make_old found object

/-- What is written over an object stands in its place. -/
theorem get?_write_same {objects : Objects α} {address : Address} {old : α}
    (found : objects.get? address = some old) (object : α) :
    (objects.write address object).get? address = some object := by
  have inside : address < objects.all.length := (List.getElem?_eq_some_iff.1 found).1
  simp [get?, write, List.getElem?_set_self inside]

/-- Writing leaves the objects at other addresses alone. -/
theorem get?_write_other {address other : Address} (differ : other ≠ address) (objects : Objects α)
    (object : α) : (objects.write address object).get? other = objects.get? other := by
  simp [get?, write, List.getElem?_set_ne differ.symm]

end Objects

end FleetGate
