import Worklist.Text.Lowercase.Table

/-!
# Lower case

Titles are searched without regard to case, and unknown keys are compared with known ones in lower
case. Every character has a lower case form of its own, with one exception: a capital sigma at the
end of a word becomes the final small sigma. Where a word ends is decided by the nearest characters
on either side that case does not look through.
-/

namespace Worklist.Text

/-- The partner of a code point within a run. -/
def CaseRun.partner? (r : CaseRun) (n : Nat) : Option Nat :=
  if r.first ≤ n && n ≤ r.last && (n - r.first) % r.step == 0 then
    some ((n : Int) + r.delta).toNat
  else none

/-- The lower case form of a character outside of any word: one character, except for the capital
I with a dot, which keeps its dot as a combining mark. -/
def lowercaseChar (c : Char) : List Char :=
  if c.toNat < 0x80 then [c.toLower]
  else if c.toNat = 0x130 then ['i', Char.ofNat 0x307]
  else match lowercaseRuns.findSome? (·.partner? c.toNat) with
    | some n => [Char.ofNat n]
    | none => [c]

/-- Whether the first character that case does not look through is a cased one. -/
def startsCased (cs : List Char) : Bool :=
  match cs.dropWhile caseIgnorable.contains with
  | [] => false
  | c :: _ => casedOnly.contains c

/-- The lower case of `rest`, which stands after the reversed characters `before`. -/
def lowercaseAfter (before : List Char) : List Char → List Char
  | [] => []
  | c :: rest =>
    let form :=
      if c = 'Σ' then
        if startsCased before && !startsCased rest then ['ς'] else ['σ']
      else lowercaseChar c
    form ++ lowercaseAfter (c :: before) rest

/-- The lower case of a list of characters. -/
def lowercase (cs : List Char) : List Char :=
  lowercaseAfter [] cs

/-- The lower case of a text. -/
def lowercased (s : String) : String :=
  String.ofList (lowercase s.toList)

@[simp] theorem lowercase_nil : lowercase [] = [] := rfl

end Worklist.Text
