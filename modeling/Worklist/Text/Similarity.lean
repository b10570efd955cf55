/-!
# Similarity of words

The measure by which a misspelt key finds the key that was meant. Two characters of two words
*agree* when they are equal and their places differ by less than half the longer word's length;
each character agrees with at most one. The similarity is the mean of the share of agreeing
characters in either word and the share of them that also stand in the same order; words that are
alike already gain for each of their first four characters that are the same.
-/

namespace Worklist.Text

/-- Takes the first free place of `b`, numbered from `place`, in `[low, high)` that holds `x`: the
places with the taken one marked, or none if there is no such place. -/
def occupy (x : Char) (low high : Nat) : Nat → List (Char × Bool) → Option (List (Char × Bool))
  | _, [] => none
  | place, (y, taken) :: rest =>
    if low ≤ place && place < high && x == y && !taken then some ((y, true) :: rest)
    else (occupy x low high (place + 1) rest).map ((y, taken) :: ·)

/-- The characters of the first word that agree with one of the second, in order, and the places
of the second word with those marked that agree with one of the first. -/
def agree (reach : Nat) : Nat → List Char → List (Char × Bool) → List Char × List (Char × Bool)
  | _, [], places => ([], places)
  | i, x :: xs, places =>
    match occupy x (i - reach) (i + reach + 1) 0 places with
    | some places' =>
      let (agreeing, last) := agree reach (i + 1) xs places'
      (x :: agreeing, last)
    | none => agree reach (i + 1) xs places

/-- How alike two words are, from 0 to 1. -/
def similarity (a b : List Char) : Float :=
  if a.isEmpty && b.isEmpty then 1
  else if a.isEmpty || b.isEmpty then 0
  else
    let reach := max a.length b.length / 2 - 1
    let (agreeing, places) := agree reach 0 a (b.map (·, false))
    let matched := (places.filter (·.2)).map (·.1)
    let swapped := ((agreeing.zip matched).filter fun (x, y) => x != y).length / 2
    let count := Float.ofNat agreeing.length
    if agreeing.isEmpty then 0
    else
      (count / Float.ofNat a.length + count / Float.ofNat b.length +
        Float.ofNat (agreeing.length - swapped) / count) / 3

/-- Similarity, raised by the common start of words that are alike already. -/
def prefixedSimilarity (a b : List Char) : Float :=
  let sim := similarity a b
  if sim > 0.7 then
    let common := (((a.take 4).zip b).takeWhile fun (x, y) => x == y).length
    sim + 0.1 * Float.ofNat common * (1 - sim)
  else sim

end Worklist.Text
