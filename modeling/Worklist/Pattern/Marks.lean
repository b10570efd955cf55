/-!
# Marks

A set of small numbers, such as places in a text, kept as the binary digits of one number. Looking a
number up takes the same time however many there are.
-/

namespace Worklist.Pattern

/-- A set of small numbers. -/
structure Marks where
  /-- The number whose digit `n` says whether `n` is in the set. -/
  digits : Nat
  deriving DecidableEq

namespace Marks

/-- No number. -/
def empty : Marks :=
  ⟨0⟩

/-- Whether a number is in the set. -/
def contains (m : Marks) (n : Nat) : Bool :=
  m.digits.testBit n

/-- One more number. -/
def insert (m : Marks) (n : Nat) : Marks :=
  ⟨m.digits ||| 1 <<< n⟩

@[simp]
theorem contains_empty (n : Nat) : empty.contains n = false := by
  simp [empty, contains]

@[simp]
theorem contains_insert (m : Marks) (n k : Nat) :
    (m.insert n).contains k = (m.contains k || decide (n = k)) := by
  simp [insert, contains, Nat.one_shiftLeft, Nat.testBit_two_pow]

end Marks

end Worklist.Pattern
