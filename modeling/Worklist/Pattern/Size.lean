import Worklist.Pattern.Basic

/-!
# The size of a pattern

A pattern is laid out as states that read a text byte by byte, once forwards and once backwards. Its
size is the number of bytes that the states of one layout take. A part that is repeated has states
of its own for every time that it must or may be there, which makes counts in braces dear. A pattern
must not be larger than `maxSize` in either layout.
-/

namespace Worklist.Pattern

/-- The direction in which a text is read. -/
inductive Direction where
  /-- From the first byte to the last. -/
  | forward
  /-- From the last byte to the first. -/
  | backward
  deriving DecidableEq

/-- What a state takes. -/
def stateSize : Nat := 32

/-! ### Characters as bytes -/

/-- The first and the last value that a byte may have. -/
abbrev ByteRange := Nat × Nat

/-- How characters are written as bytes: for each number of bytes that follow the first one, the
first and the last code, and what is added to the bits in the first byte. -/
def byteForms : List (Nat × Nat × Nat × Nat) :=
  [(0, 0x0, 0x7f, 0x0), (1, 0x80, 0x7ff, 0xc0), (2, 0x800, 0xd7ff, 0xe0), (2, 0xe000, 0xffff, 0xe0),
    (3, 0x10000, 0x10ffff, 0xf0)]

/-- The codes from `low` to `high`, written as a byte to which `lead` is added and `n` bytes that
hold six bits each: sequences of ranges of bytes that together stand for these codes. -/
def byteRanges : Nat → Nat → Nat → Nat → List (List ByteRange)
  | 0, lead, low, high => [[(lead + low, lead + high)]]
  | n + 1, lead, low, high =>
    let unit := Nat.pow 64 (n + 1)
    let first := low / unit
    let last := high / unit
    let under := fun (a b : Nat) (tails : List (List ByteRange)) =>
      tails.map ((lead + a, lead + b) :: ·)
    if first = last then under first first (byteRanges n 0x80 (low % unit) (high % unit))
    else
      let startsLate := low % unit ≠ 0
      let stopsEarly := high % unit ≠ unit - 1
      let from' := if startsLate then first + 1 else first
      let upTo := if stopsEarly then last else last + 1
      (if startsLate then under first first (byteRanges n 0x80 (low % unit) (unit - 1)) else []) ++
        (if from' < upTo then under from' (upTo - 1) (byteRanges n 0x80 0 (unit - 1)) else []) ++
        (if stopsEarly then under last last (byteRanges n 0x80 0 (high % unit)) else [])

/-- The characters of a set as sequences of ranges of bytes. -/
def CharSet.byteSequences (s : CharSet) : List (List ByteRange) :=
  (CharSet.runs s.bounds).flatMap fun (low, high) =>
    byteForms.flatMap fun (n, least, greatest, lead) =>
      if max low least ≤ min high greatest then
        byteRanges n lead (max low least) (min high greatest)
      else []

/-- What may follow each of the ranges with which sequences start. -/
def followers : List (List ByteRange) → List (ByteRange × List (List ByteRange))
  | [] => []
  | [] :: rest => followers rest
  | (r :: tail) :: rest =>
    match followers rest with
    | (r', tails) :: more =>
      if r = r' then (r, tail :: tails) :: more else (r, [tail]) :: (r', tails) :: more
    | [] => [(r, [tail])]

/-- What may follow at every place of sequences of up to `n` ranges. -/
def continuations : Nat → List (List ByteRange) → List (List (List ByteRange))
  | 0, _ => []
  | n + 1, sequences =>
    if sequences.all List.isEmpty then []
    else sequences :: (followers sequences).flatMap fun (_, tails) => continuations n tails

/-- The number of ranges of sequences with which none of the sequences before them starts. -/
def newRanges (before : List ByteRange) : List (List ByteRange) → Nat
  | [] => 0
  | sequence :: rest =>
    let shared := (before.zip sequence).takeWhile fun (a, b) => a = b
    sequence.length - shared.length + newRanges sequence rest

/-- What the states of a set take. Forwards, places with the same continuations share a state. -/
def CharSet.size (d : Direction) (s : CharSet) : Nat :=
  let runs := CharSet.runs s.bounds
  if runs.all (·.2 < 0x80) then 2 * stateSize + 8 * runs.length
  else
    let sequences := s.byteSequences
    match d with
    | .forward =>
      let places := (continuations 4 sequences).eraseDups
      places.foldl (fun size p => size + stateSize + 8 * (followers p).length) stateSize
    | .backward => 2 * stateSize + stateSize * newRanges [] sequences + 4 * sequences.length

/-! ### Parts -/

/-- Whether a part is a choice. -/
def Node.isChoice : Node → Bool
  | .alt _ _ => true
  | _ => false

/-- What a repetition takes, if the part takes `part`. -/
def repetitionSize (part : Nat) (advances : Bool) (least : Nat) : Option Nat → Nat
  | none =>
    if least = 0 then part + 40 + (if advances then 0 else 72) else least * part + 40
  | some most =>
    if least = most then least * part
    else if least = 0 ∧ most = 1 then part + 72
    else (if least = 0 then stateSize else least * part) + stateSize +
      (most - least) * (part + 40)

/-- What the states of a part take. -/
def Node.size (d : Direction) : Node → Nat
  | .empty => stateSize
  | .literal text => text.foldl (fun size c => size + stateSize * c.utf8Size) 0
  | .one s => s.size d
  | .at _ => stateSize
  | .capture _ _ n => n.size d + (if d = .forward then 2 * stateSize else 0)
  | .seq a b => a.size d + b.size d
  | .alt a b =>
    4 + a.size d + b.size d + (if b.isChoice then 0 else 4 + 2 * stateSize)
  | .iterate n least most _ => repetitionSize (n.size d) n.advances least most

/-- What a layout takes around the states of the pattern. -/
def frameSize : Direction → Nat
  | .forward => 208
  | .backward => 144

/-- The greatest size of a layout. -/
def maxSize : Nat := 10485760

/-- Whether a pattern is small enough to be laid out. -/
def Node.fits (n : Node) : Bool :=
  [Direction.forward, .backward].all fun d => frameSize d + n.size d ≤ maxSize

end Worklist.Pattern
