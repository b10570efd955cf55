import Worklist.Text.Numeral

/-!
# Page requests

A listing is asked for one page by the number of rows before the page and the number of rows in it.
What a caller sends is made sound first: an offset that is missing, not a number or negative is
zero, a size that is missing or not positive is the default size, and no size exceeds the largest
one. So a request always has a positive size.
-/

namespace Worklist

/-- The page sizes of a listing. -/
structure PageSizes where
  /-- The size of a page for which none is given. -/
  defaultLimit : Nat
  /-- The largest size. -/
  maxLimit : Nat
  deriving Repr, DecidableEq

namespace PageSizes

/-- The sizes that hold unless others are set. -/
def standard : PageSizes :=
  ⟨20, 100⟩

/-- The sizes with both at least one and the default within the largest. -/
def normalized (s : PageSizes) : PageSizes :=
  let most := max s.maxLimit 1
  ⟨min (max s.defaultLimit 1) most, most⟩

theorem normalized_defaultLimit_pos (s : PageSizes) : 0 < s.normalized.defaultLimit := by
  simp only [normalized]
  omega

theorem normalized_maxLimit_pos (s : PageSizes) : 0 < s.normalized.maxLimit := by
  simp only [normalized]
  omega

end PageSizes

/-- A request for a page. -/
structure PageRequest where
  /-- The number of rows before the page. -/
  offset : Nat
  /-- The number of rows of a full page. -/
  limit : Nat
  /-- A full page has rows. -/
  limit_pos : 0 < limit
  deriving DecidableEq

namespace PageRequest

/-- The size of a page for which `limit` is given. -/
def chooseLimit (limit : Option Int) (sizes : PageSizes) : Nat :=
  match limit with
  | none => sizes.normalized.defaultLimit
  | some l => if 0 < l then min l.toNat sizes.normalized.maxLimit else sizes.normalized.defaultLimit

theorem chooseLimit_pos (limit : Option Int) (sizes : PageSizes) : 0 < chooseLimit limit sizes := by
  have hd := sizes.normalized_defaultLimit_pos
  have hm := sizes.normalized_maxLimit_pos
  unfold chooseLimit
  split
  · exact hd
  · split
    · omega
    · exact hd

/-- A sound request from numbers that need not be. -/
def normalize (offset : Int) (limit : Option Int) (sizes : PageSizes) : PageRequest :=
  ⟨offset.toNat, chooseLimit limit sizes, chooseLimit_pos limit sizes⟩

/-- A request from the parameters of a caller. -/
def ofParams (offset : Option String) (limit : Option Int64) (sizes : PageSizes) : PageRequest :=
  let start := (offset.bind fun raw => Text.int64? raw.toList).map Int64.toInt
  normalize (start.getD 0) (limit.map Int64.toInt) sizes

/-- The part of a word that a signed word can hold. -/
def saturate (n : Nat) : Int :=
  (min n Text.maxInt64 : Nat)

/-- A request from unsigned words, with the standard sizes. -/
def ofWords (offset limit : Nat) : PageRequest :=
  normalize (saturate offset) (some (saturate limit)) .standard

end PageRequest

end Worklist
