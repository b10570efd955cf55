/-!
# Decimal integers

Integers as they stand in arguments, filters and links: ASCII decimal digits after an optional
sign, accepted only if the value fits the word it is meant for.
-/

namespace Worklist.Text

/-- The largest signed 64-bit integer. -/
def maxInt64 : Nat := 0x7fffffffffffffff

/-- The largest unsigned 64-bit integer. -/
def maxUInt64 : Nat := 0xffffffffffffffff

/-- The value of a decimal digit. -/
def digit? (c : Char) : Option Nat :=
  if '0' ≤ c ∧ c ≤ '9' then some (c.toNat - '0'.toNat) else none

/-- The value of a run of digits that follows the value `acc` of the digits before it. -/
def digitsFrom? : Nat → List Char → Option Nat
  | acc, [] => some acc
  | acc, c :: cs => (digit? c).bind fun d => digitsFrom? (acc * 10 + d) cs

/-- The value of one or more digits. -/
def natural? : List Char → Option Nat
  | [] => none
  | cs => digitsFrom? 0 cs

/-- An integer as a signed 64-bit word, if it fits. -/
def toInt64? (n : Int) : Option Int64 :=
  if -0x8000000000000000 ≤ n ∧ n ≤ 0x7fffffffffffffff then some (Int64.ofInt n) else none

/-- An integer with an optional sign, within the signed 64-bit range. -/
def int64? (cs : List Char) : Option Int64 :=
  match cs with
  | '-' :: ds => (natural? ds).bind fun n => toInt64? (-(n : Int))
  | '+' :: ds => (natural? ds).bind fun n => toInt64? n
  | ds => (natural? ds).bind fun n => toInt64? n

/-- A natural number with an optional plus sign, within the unsigned 64-bit range. -/
def uint64? (cs : List Char) : Option Nat :=
  let ds := match cs with
    | '+' :: ds => ds
    | ds => ds
  (natural? ds).bind fun n => if n ≤ maxUInt64 then some n else none

/-- The decimal digits of a natural number. -/
def decimal (n : Nat) : List Char :=
  Nat.toDigits 10 n

/-- The decimal text of an integer. -/
def decimalInt : Int → List Char
  | .ofNat n => decimal n
  | .negSucc n => '-' :: decimal (n + 1)

/-- The decimal digits of a number, with zeros in front up to `width` digits. -/
def padded (width n : Nat) : List Char :=
  let ds := decimal n
  List.replicate (width - ds.length) '0' ++ ds

end Worklist.Text
