import Worklist.Text.Hexadecimal
import Worklist.Text.Split
import Worklist.Timestamp.Basic
import Worklist.Toml.Basic

/-!
# Numbers, dates and booleans in TOML

These values stand without marks around them. An integer fits a signed 64-bit word, a positive
floating point number is not too large for one of double precision, and a date is in the calendar.
-/

namespace Worklist.Toml

/-- Digits that may have single underscores between them. -/
def spacedDigits? (isDigit : Char → Bool) (cs : List Char) : Option (List Char) :=
  let groups := Text.split '_' cs
  if groups.all fun g => !g.isEmpty && g.all isDigit then some groups.flatten else none

/-- A decimal digit. -/
def isDecimal (c : Char) : Bool :=
  (Text.digit? c).isSome

/-- The value of digits of a base. -/
def baseValue? (base : Nat) (cs : List Char) : Option Nat := do
  let digits ← spacedDigits? (fun c => (Text.hexValue? c).any (· < base)) cs
  return digits.foldl (fun n c => n * base + (Text.hexValue? c).getD 0) 0

/-- Decimal digits without a zero in front. -/
def decimalDigits? (cs : List Char) : Option (List Char) := do
  let digits ← spacedDigits? isDecimal cs
  if 1 < digits.length ∧ digits.head? = some '0' then none else return digits

/-- The sign of a number, if it has one, and what follows it. -/
def takeSign : List Char → Bool × List Char
  | '-' :: cs => (true, cs)
  | '+' :: cs => (false, cs)
  | cs => (false, cs)

/-- An integer. -/
def integer? : List Char → Option Int64
  | '0' :: 'x' :: cs => (baseValue? 16 cs).bind fun n => Text.toInt64? n
  | '0' :: 'o' :: cs => (baseValue? 8 cs).bind fun n => Text.toInt64? n
  | '0' :: 'b' :: cs => (baseValue? 2 cs).bind fun n => Text.toInt64? n
  | cs => do
    let (negative, cs) := takeSign cs
    let n ← Text.natural? (← decimalDigits? cs)
    Text.toInt64? (if negative then -(n : Int) else n)

/-- Whether `digits * 10 ^ exponent` is rounded to infinity. -/
def exceedsDouble (digits : Nat) (exponent : Int) : Bool :=
  let size := (Text.decimal digits).length + exponent
  if digits = 0 ∨ size < 300 then false
  else if 320 < size then true
  else
    (Nat.pow 2 1024 - Nat.pow 2 970) * Nat.pow 10 (-exponent).toNat ≤
      digits * Nat.pow 10 exponent.toNat

/-- The exponent of a number, zero if there is none. -/
def exponent? : List Char → Option Int
  | [] => some 0
  | c :: cs =>
    if c = 'e' ∨ c = 'E' then do
      let (negative, cs) := takeSign cs
      let n ← Text.natural? (← spacedDigits? isDecimal cs)
      return if negative then -(n : Int) else n
    else none

/-- The digits of a fraction, none if there is no fraction, and what follows them. -/
def fraction? : List Char → Option (List Char × List Char)
  | '.' :: cs => do
    let (digits, rest) := cs.span fun c => isDecimal c || c = '_'
    return (← spacedDigits? isDecimal digits, rest)
  | cs => some ([], cs)

/-- Whether a text is a floating point number that is not too large. -/
def isReal (cs : List Char) : Bool :=
  let (negative, cs) := takeSign cs
  if cs = ['i', 'n', 'f'] ∨ cs = ['n', 'a', 'n'] then true
  else
    let (whole, rest) := cs.span fun c => isDecimal c || c = '_'
    match decimalDigits? whole, fraction? rest with
    | some whole, some (fraction, rest') =>
      match exponent? rest', Text.natural? (whole ++ fraction) with
      | some exponent, some digits =>
        !rest.isEmpty && (negative || !exceedsDouble digits (exponent - fraction.length))
      | _, _ => false
    | _, _ => false

/-- A number of so many digits within bounds, and what follows it. -/
def boundedDigits? (count low high : Nat) (cs : List Char) : Option (Nat × List Char) := do
  if cs.length < count then none
  let n ← Text.natural? (cs.take count)
  if low ≤ n ∧ n ≤ high then return (n, cs.drop count) else none

/-- What follows a character that must be there. -/
def expect? (c : Char) : List Char → Option (List Char)
  | [] => none
  | d :: cs => if c = d then some cs else none

/-- What follows a day of the calendar. -/
def afterDate? (cs : List Char) : Option (List Char) := do
  let (year, cs) ← boundedDigits? 4 0 9999 cs
  let (month, cs) ← boundedDigits? 2 1 12 (← expect? '-' cs)
  let (_, cs) ← boundedDigits? 2 1 (daysInMonth year month) (← expect? '-' cs)
  return cs

/-- What follows a time of the day. -/
def afterTime? (cs : List Char) : Option (List Char) := do
  let (_, cs) ← boundedDigits? 2 0 23 cs
  let (_, cs) ← boundedDigits? 2 0 59 (← expect? ':' cs)
  let (_, cs) ← boundedDigits? 2 0 60 (← expect? ':' cs)
  match cs with
  | '.' :: rest =>
    let (digits, rest) := rest.span isDecimal
    if digits.isEmpty then none else return rest
  | cs => return cs

/-- Whether a text is the distance of a clock from universal time. -/
def isOffset (cs : List Char) : Bool :=
  match cs with
  | [] => true
  | ['Z'] => true
  | ['z'] => true
  | sign :: rest => (sign = '+' || sign = '-') &&
    ((do
      let (_, rest) ← boundedDigits? 2 0 23 rest
      let (_, rest) ← boundedDigits? 2 0 59 (← expect? ':' rest)
      return rest.isEmpty) : Option Bool).getD false

/-- Whether a text is a time of the day on a clock that may be off universal time. -/
def isClockTime (cs : List Char) : Bool :=
  (afterTime? cs).any isOffset

/-- Whether a text is a day of the calendar. -/
def isDate (cs : List Char) : Bool :=
  afterDate? cs = some []

/-- Whether a text is a date, a time or both. -/
def isMoment (cs : List Char) : Bool :=
  match afterDate? cs with
  | some [] => true
  | some (c :: rest) => (c = 'T' || c = 't') && isClockTime rest
  | none => afterTime? cs = some []

/-- The value that a text without marks stands for. -/
def scalar? (cs : List Char) : Option Value :=
  if cs = ['t', 'r', 'u', 'e'] then some (.boolean true)
  else if cs = ['f', 'a', 'l', 's', 'e'] then some (.boolean false)
  else if isMoment cs then some (.moment (String.ofList cs))
  else match integer? cs with
    | some n => some (.integer n)
    | none => if isReal cs then some (.real (String.ofList cs)) else none

/-- A character of a value without marks. -/
def isScalarChar (c : Char) : Bool :=
  c.isAlphanum || c = '_' || c = '+' || c = '-' || c = '.' || c = ':'

/-- Reads a value without marks. A time may follow a date after a blank. -/
def readScalar (cs : List Char) : Option (Value × List Char) :=
  let (written, rest) := cs.span isScalarChar
  match rest with
  | ' ' :: next :: _ =>
    if isDate written ∧ isDecimal next then
      let (time, rest') := (rest.drop 1).span isScalarChar
      if isClockTime time then
        some (.moment (String.ofList (written ++ [' '] ++ time)), rest')
      else none
    else (scalar? written).map fun v => (v, rest)
  | _ => (scalar? written).map fun v => (v, rest)

end Worklist.Toml
