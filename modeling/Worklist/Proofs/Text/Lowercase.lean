import Worklist.Text.Lowercase

/-!
# Lower case of parts

The lower case of a text is put together from the lower case of its parts, but not of each part on
its own: whether a capital sigma ends a word may be decided by characters outside of the part. These
are the only characters that matter.
-/

namespace Worklist.Text

/-- Whether a word ends with the capital sigma between the reversed characters `before` and the
characters `after`. -/
def endsWord (before after : List Char) : Bool :=
  startsCased before && !startsCased after

/-- The lower case of a part of a text, which stands between the reversed characters `before` and
the characters `after`. -/
def lowercaseBetween (before after : List Char) : List Char → List Char
  | [] => []
  | c :: rest =>
    let form :=
      if c = 'Σ' then if endsWord before (rest ++ after) then ['ς'] else ['σ'] else lowercaseChar c
    form ++ lowercaseBetween (c :: before) after rest

/-- Every capital sigma of a part ends a word of the whole text exactly if it ends one of the part
alone. -/
def KeepsSigmas (lead part trail : List Char) : Prop :=
  ∀ before after, part = before ++ 'Σ' :: after →
    endsWord (before.reverse ++ lead.reverse) (after ++ trail) = endsWord before.reverse after

theorem lowercaseAfter_eq (before cs : List Char) :
    lowercaseAfter before cs = lowercaseBetween before [] cs := by
  induction cs generalizing before with
  | nil => rfl
  | cons c rest ih =>
    rw [lowercaseAfter, lowercaseBetween, ih, List.append_nil]
    rfl

theorem lowercaseBetween_append (before after xs ys : List Char) :
    lowercaseBetween before after (xs ++ ys) =
      lowercaseBetween before (ys ++ after) xs ++
        lowercaseBetween (xs.reverse ++ before) after ys := by
  induction xs generalizing before with
  | nil => rfl
  | cons c xs ih => simp [lowercaseBetween, ih]

/-- Only what becomes of the sigmas depends on the surroundings. -/
theorem lowercaseBetween_congr {before after before' after' cs : List Char}
    (h : ∀ xs ys, cs = xs ++ 'Σ' :: ys → endsWord (xs.reverse ++ before) (ys ++ after) =
      endsWord (xs.reverse ++ before') (ys ++ after')) :
    lowercaseBetween before after cs = lowercaseBetween before' after' cs := by
  induction cs generalizing before before' with
  | nil => rfl
  | cons c rest ih =>
    have hRest : lowercaseBetween (c :: before) after rest =
        lowercaseBetween (c :: before') after' rest := by
      apply ih
      intro xs ys hEq
      simpa using h (c :: xs) ys (by rw [hEq, List.cons_append])
    rw [lowercaseBetween, lowercaseBetween, hRest]
    by_cases hSigma : c = 'Σ'
    · have hHere : endsWord before (rest ++ after) = endsWord before' (rest ++ after') :=
        h [] rest (by rw [hSigma, List.nil_append])
      rw [hHere]
    · rw [if_neg hSigma, if_neg hSigma]

/-- The lower case of a text holds the lower case of a part that keeps its sigmas. -/
theorem lowercase_infix {lead part trail : List Char} (h : KeepsSigmas lead part trail) :
    lowercase part <:+: lowercase (lead ++ part ++ trail) := by
  have hPart : lowercaseBetween lead.reverse trail part = lowercase part := by
    rw [lowercase, lowercaseAfter_eq]
    apply lowercaseBetween_congr
    intro xs ys hEq
    rw [h xs ys hEq, List.append_nil, List.append_nil]
  rw [← hPart, lowercase, lowercaseAfter_eq, lowercaseBetween_append, lowercaseBetween_append,
    List.append_nil, List.append_nil]
  exact ⟨_, _, rfl⟩

end Worklist.Text
