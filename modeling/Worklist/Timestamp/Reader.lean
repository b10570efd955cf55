import Worklist.Text.Blank
import Worklist.Timestamp.Basic

/-!
# Reading timestamps

A date, a separator, a time and an offset from universal time, with blanks allowed around the parts
and leading zeros left out at will. A year without a sign has at most four digits. Fraction digits
beyond the ninth are ignored. The offset is `Z`, `UTC`, or a sign with hours and minutes.

Every part is checked as soon as it is read; whether the calendar has the day is checked last.
-/

namespace Worklist.Timestamp

/-- Why a text is not a timestamp. -/
inductive Fault where
  /-- The text ends too early. -/
  | ended
  /-- A character that cannot stand where it does. -/
  | invalid
  /-- The text goes on after the timestamp. -/
  | trailing
  /-- A part exceeds its bounds. -/
  | outOfRange
  /-- The offset leads out of the calendar. -/
  | impossible
  deriving Repr, DecidableEq

/-- The text of a fault. -/
def Fault.message : Fault → String
  | .ended => "premature end of input"
  | .invalid => "input contains invalid characters"
  | .trailing => "trailing input"
  | .outOfRange => "input is out of range"
  | .impossible => "no possible date and time matching input"

/-- Reads up to `width` digits, at least one. Like every reader of a part it gives the value and the
text after it. -/
def digits (width : Nat) (cs : List Char) : Except Fault (List Nat × List Char) :=
  match cs.head?, ((cs.take width).map Text.digit?).takeWhile Option.isSome with
  | none, _ => .error .ended
  | some _, [] => .error .invalid
  | some _, ds => .ok (ds.filterMap id, cs.drop ds.length)

/-- The number written by digits. -/
def ofDigits (ds : List Nat) : Nat :=
  ds.foldl (fun n d => n * 10 + d) 0

/-- Reads a number after blanks, and checks its bounds. -/
def bounded (width low high : Nat) (cs : List Char) : Except Fault (Nat × List Char) := do
  let (ds, rest) ← digits width (Text.trimStart cs)
  let n := ofDigits ds
  if low ≤ n ∧ n ≤ high then return (n, rest) else throw .outOfRange

/-- The largest year that is read at all. -/
def maxYear : Nat := 0x7fffffff

/-- Reads a year after blanks. -/
def year (cs : List Char) : Except Fault (Int × List Char) :=
  match Text.trimStart cs with
  | '-' :: rest => do
    let (ds, rest) ← digits rest.length rest
    if ofDigits ds ≤ maxYear + 1 then return (-(ofDigits ds : Int), rest) else throw .outOfRange
  | '+' :: rest => do
    let (ds, rest) ← digits rest.length rest
    if ofDigits ds ≤ maxYear then return ((ofDigits ds : Int), rest) else throw .outOfRange
  | rest => do
    let (ds, rest) ← digits 4 rest
    return ((ofDigits ds : Int), rest)

/-- Reads a mark after blanks. -/
def mark (c : Char) (cs : List Char) : Except Fault (List Char) :=
  match Text.trimStart cs with
  | [] => .error .ended
  | d :: rest => if d = c then .ok rest else .error .invalid

/-- Reads the mark between date and time. -/
def separator : List Char → Except Fault (List Char)
  | [] => .error .ended
  | c :: rest => if c = 't' ∨ c = 'T' ∨ c = ' ' then .ok rest else .error .invalid

/-- Reads a fraction of a second, if there is one, as nanoseconds. -/
def fraction : List Char → Except Fault (Nat × List Char)
  | '.' :: rest => do
    let (ds, rest) ← digits 9 rest
    let nanoseconds := ofDigits ds * Nat.pow 10 (9 - ds.length)
    return (nanoseconds, rest.dropWhile fun c => (Text.digit? c).isSome)
  | rest => .ok (0, rest)

/-- Reads two digits that are not preceded by blanks. -/
def pair : List Char → Except Fault ((Nat × Nat) × List Char)
  | [] => .error .ended
  | [c] => if c.utf8Size = 1 then .error .ended else .error .invalid
  | c :: d :: rest =>
    match Text.digit? c, Text.digit? d with
    | some x, some y => .ok ((x, y), rest)
    | _, _ => .error .invalid

/-- Reads hours and minutes of an offset, as minutes. -/
def offsetMinutes (cs : List Char) : Except Fault (Nat × List Char) := do
  let ((h, h'), rest) ← pair cs
  let ((m, m'), rest) ← pair (rest.dropWhile fun c => c == ':' || Text.isBlank c)
  if m ≤ 5 then return ((h * 10 + h') * 60 + m * 10 + m', rest) else throw .outOfRange

/-- Reads an offset from universal time, as minutes. -/
def offset (cs : List Char) : Except Fault (Int × List Char) :=
  let cs := Text.trimStart cs
  if (cs.take 3).map Char.toUpper = ['U', 'T', 'C'] then .ok (0, cs.drop 3)
  else match cs with
    | [] => .error .ended
    | c :: rest =>
      if c = 'Z' ∨ c = 'z' then .ok (0, rest)
      else if c = '+' then do
        let (n, rest) ← offsetMinutes rest
        return ((n : Int), rest)
      else if c = '-' ∨ c = '\u2212' then do
        let (n, rest) ← offsetMinutes rest
        return (-(n : Int), rest)
      else .error .invalid

/-- Whether a year belongs to the calendar. -/
def inCalendar (year : Int) : Bool :=
  -262143 ≤ year && year ≤ 262142

/-- A time of a day `offset` minutes ahead of universal time, in universal time. -/
def shifted (day : Day) (minutes : Int) : Day × Nat :=
  if minutes < 0 then (day.previous, (minutes + 1440).toNat)
  else if minutes < 1440 then (day, minutes.toNat)
  else (day.next, (minutes - 1440).toNat)

/-- The point in time with the given day and minute of the day. -/
def make? (day : Day) (minutes second nanosecond : Nat) : Option Timestamp :=
  if h : minutes / 60 < 24 ∧ minutes % 60 < 60 ∧ second ≤ 60 ∧ nanosecond < 1000000000 then
    some ⟨day, minutes / 60, minutes % 60, second, nanosecond, h⟩
  else none

/-- The point in time of a local day and time. -/
def resolve (year : Int) (month day hour minute second nanosecond : Nat) (offset : Int) :
    Except Fault Timestamp :=
  match if inCalendar year then Day.make? year month day else none with
  | none => .error .outOfRange
  | some local_ =>
    if 1440 ≤ offset.natAbs then .error .outOfRange
    else
      let (day, minutes) := shifted local_ ((hour * 60 + minute : Nat) - offset)
      match if inCalendar day.year then make? day minutes second nanosecond else none with
      | some t => .ok t
      | none => .error .impossible

/-- Reads a timestamp. -/
def ofChars (cs : List Char) : Except Fault Timestamp := do
  let (year, cs) ← year cs
  let cs ← mark '-' cs
  let (month, cs) ← bounded 2 1 12 cs
  let cs ← mark '-' cs
  let (day, cs) ← bounded 2 1 31 cs
  let cs ← separator cs
  let (hour, cs) ← bounded 2 0 23 cs
  let cs ← mark ':' cs
  let (minute, cs) ← bounded 2 0 59 cs
  let cs ← mark ':' cs
  let (second, cs) ← bounded 2 0 60 cs
  let (nanosecond, cs) ← fraction cs
  let (offset, cs) ← offset cs
  if Text.trimStart cs ≠ [] then throw .trailing
  resolve year month day hour minute second nanosecond offset

/-- Reads a timestamp. -/
def parse (s : String) : Except Fault Timestamp :=
  ofChars s.toList

end Worklist.Timestamp
