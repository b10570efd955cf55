/-!
# Shortest decimals

A binary floating point number stands for every real number that rounds to it. Of all decimals in
that interval the shortest is the one to write: the fewest significant digits, and among those of
equal length the one closest to the number itself.

The search runs in exact natural number arithmetic. For one, two, … digits it looks at the two
neighbours of the number on the grid of decimals with that many digits; if any decimal of the grid
lies in the interval then one of these two does.
-/

namespace Worklist.Decimal

/-- A positive number with the interval of reals that round to it, all three over one denominator.
-/
structure Interval where
  /-- Numerator of the lower end. -/
  low : Nat
  /-- Numerator of the number. -/
  value : Nat
  /-- Numerator of the upper end. -/
  high : Nat
  /-- The denominator. -/
  den : Nat
  /-- Whether the ends belong to the interval. -/
  closed : Bool

/-- A decimal `digits * 10 ^ exponent`. -/
structure Scaled where
  /-- The significant digits, read as one number. -/
  digits : Nat
  /-- Power of ten of the last digit. -/
  exponent : Int
  deriving Repr, DecidableEq

/-- What the sign counts in the bits of a floating point number. -/
def signUnit : Nat := 0x8000000000000000

/-- What the exponent counts in the bits of a floating point number, and the leading bit of the
mantissa that is not written. -/
def exponentUnit : Nat := 0x10000000000000

/-- The interval of a positive finite floating point number. The step below a power of two is half
the step above it. -/
def Interval.ofFloat (x : Float) : Interval :=
  let bits := x.toBits.toNat % signUnit
  let biased := bits / exponentUnit
  let fraction := bits % exponentUnit
  let mantissa := if biased = 0 then fraction else fraction + exponentUnit
  let power := (if biased = 0 then 1 else biased : Nat)
  let below := if fraction = 0 ∧ 1 < biased then 1 else 2
  let (unit, den) :=
    if 1077 ≤ power then (Nat.pow 2 (power - 1077), 1) else (1, Nat.pow 2 (1077 - power))
  { low := (4 * mantissa - below) * unit
    value := 4 * mantissa * unit
    high := (4 * mantissa + 2) * unit
    den := den
    closed := mantissa % 2 = 0 }

namespace Interval

/-- The power of ten of the first significant digit. -/
def magnitude (v : Interval) : Int :=
  if v.den ≤ v.value then (Nat.toDigits 10 (v.value / v.den)).length - 1
  else
    match (List.range 400).find? fun j => v.den ≤ v.value * Nat.pow 10 (j + 1) with
    | some j => -((j : Int) + 1)
    | none => 0

/-- The better of the two decimals next to the number among those whose last digit stands at
`10 ^ exponent`, if either lies in the interval. -/
def onGrid? (v : Interval) (exponent : Int) : Option Nat :=
  let up := Nat.pow 10 (-exponent).toNat
  let cell := v.den * Nat.pow 10 exponent.toNat
  let inside := fun c =>
    if v.closed then v.low * up ≤ c * cell ∧ c * cell ≤ v.high * up
    else v.low * up < c * cell ∧ c * cell < v.high * up
  let floor := v.value * up / cell
  let lowIn := decide (inside floor) && floor != 0
  let highIn := decide (inside (floor + 1))
  let toLow := v.value * up - floor * cell
  let toHigh := (floor + 1) * cell - v.value * up
  match lowIn, highIn with
  | false, false => none
  | true, false => some floor
  | false, true => some (floor + 1)
  | true, true =>
    if toLow < toHigh ∨ (toLow = toHigh ∧ floor % 2 = 0) then some floor else some (floor + 1)

end Interval

/-- Moves zeros at the end of the digits into the exponent, at most `rounds` of them. -/
def Scaled.stripped : Nat → Scaled → Scaled
  | 0, s => s
  | rounds + 1, s =>
    if s.digits % 10 = 0 then stripped rounds ⟨s.digits / 10, s.exponent + 1⟩ else s

/-- The shortest decimal of a positive finite number. Seventeen digits always suffice. -/
def shortest (x : Float) : Scaled :=
  let v := Interval.ofFloat x
  let e := v.magnitude
  let found := (List.range 17).findSome? fun (n : Nat) =>
    (v.onGrid? (e - n)).map fun c => (⟨c, e - n⟩ : Scaled)
  (found.getD ⟨0, 0⟩).stripped 20

end Worklist.Decimal
