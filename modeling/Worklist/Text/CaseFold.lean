import Worklist.Text.Lowercase

/-!
# Characters that differ only in case

Two characters differ only in case if they fold to the same one. A character folds to its lower case
partner, except for some small letters that have a more usual form: those fold to that form. Pairs
of letters that are too recent do not count.
-/

namespace Worklist.Text

/-- Small letters that fold to a more usual form. -/
def unusualForms : List (Nat × Nat) :=
  [(0x17F, 0x73), (0xB5, 0x3BC), (0x345, 0x3B9), (0x1FBE, 0x3B9), (0x3D0, 0x3B2), (0x3F5, 0x3B5),
    (0x3D1, 0x3B8), (0x3F0, 0x3BA), (0x3D6, 0x3C0), (0x3F1, 0x3C1), (0x3C2, 0x3C3),
    (0x3D5, 0x3C6), (0x1C80, 0x432), (0x1C81, 0x434), (0x1C82, 0x43E), (0x1C83, 0x441),
    (0x1C84, 0x442), (0x1C85, 0x442), (0x1C86, 0x44A), (0x1C87, 0x463), (0x1C88, 0xA64B),
    (0x1E9B, 0x1E61), (0x1FD3, 0x390), (0x1FE3, 0x3B0), (0xFB05, 0xFB06)]

/-- Letters with case that version 17 of the character standard has added. -/
def recentLetters : CharTable where
  bounds := #[0xA7CE, 0xA7D0, 0xA7D2, 0xA7D3, 0xA7D4, 0xA7D5, 0x16EA0, 0x16EB9, 0x16EBB, 0x16ED4]

/-- The code point to which a code point folds. -/
def foldCode (n : Nat) : Nat :=
  match unusualForms.lookup n with
  | some m => m
  | none => (lowercaseRuns.findSome? (·.partner? n)).getD n

/-- The code point of a run whose partner is the given one. -/
def CaseRun.source? (r : CaseRun) (m : Nat) : Option Nat :=
  let n := ((m : Int) - r.delta).toNat
  if r.partner? n = some m then some n else none

/-- The code points of the characters that fold to the given one. -/
def foldSources (m : Nat) : List Nat :=
  m :: lowercaseRuns.filterMap (·.source? m) ++
    (unusualForms.filter fun (_, usual) => usual == m).map (·.1)

/-- The characters that differ from a character only in case, and the character itself. -/
def caseVariants (c : Char) : List Char :=
  let others := (foldSources (foldCode c.toNat)).filter (!recentLetters.containsCode ·)
  if recentLetters.contains c then [c] else others.map Char.ofNat

/-- The partners of the code points of a run. -/
def CaseRun.partners (r : CaseRun) : List Nat :=
  (List.range ((r.last - r.first) / r.step + 1)).filterMap fun i =>
    r.partner? (r.first + i * r.step)

/-- The groups of two and more characters that differ only in case. -/
def caseGroups : List (List Char) :=
  let targets := lowercaseRuns.flatMap (·.partners) ++ unusualForms.map (·.2)
  (targets.map fun m => caseVariants (Char.ofNat m)).filter (1 < ·.length)

end Worklist.Text
