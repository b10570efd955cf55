/-!
# Sets of characters as alternating bounds

A set of characters is written as the ascending list of the code points where membership changes:
the first bound opens a run, the second closes it, the third opens the next one. A code point is
in the set exactly when an odd number of bounds is at most it.
-/

namespace Worklist.Text

/-- A set of code points, given by the points where membership changes. -/
structure CharTable where
  /-- Ascending; membership flips at each bound. -/
  bounds : Array Nat
  deriving DecidableEq

namespace CharTable

/-- How many of the bounds `lo`, …, `hi - 1` are at most `n`, plus `lo`, when all bounds below `lo`
are at most `n` and all from `hi` on exceed it. Each round halves the stretch in doubt. -/
def countFrom (bounds : Array Nat) (n : Nat) : Nat → Nat → Nat → Nat
  | 0, lo, _ => lo
  | rounds + 1, lo, hi =>
    if lo < hi then
      let mid := (lo + hi) / 2
      if bounds.getD mid 0 ≤ n then countFrom bounds n rounds (mid + 1) hi
      else countFrom bounds n rounds lo mid
    else lo

/-- Membership of a code point. -/
def containsCode (t : CharTable) (n : Nat) : Bool :=
  countFrom t.bounds n (t.bounds.size.log2 + 1) 0 t.bounds.size % 2 == 1

/-- Membership of a character. -/
def contains (t : CharTable) (c : Char) : Bool :=
  t.containsCode c.toNat

end CharTable

end Worklist.Text
