import Worklist.Proofs.Pattern.Ways

/-!
# Words of a pattern

A part without conditions can be tried anywhere, and what it takes there is a word. For such a part
the ways through a text are told by its words and by what they keep: a part after another takes a
word after a word, and a repeated character takes a run.
-/

namespace Worklist.Pattern

/-- The words that a part takes, each with what was kept before it and after it. -/
abbrev Reading := List Char → Captures → Captures → Prop

namespace Reading

/-- Just the word. -/
def word (w : List Char) : Reading :=
  fun v kept kept' => v = w ∧ kept' = kept

/-- A run of at least one character of a set. -/
def run (s : CharSet) : Reading :=
  fun v kept kept' => (v ≠ [] ∧ ∀ c ∈ v, s.contains c = true) ∧ kept' = kept

/-- A word of either reading. -/
def either (L M : Reading) : Reading :=
  fun v kept kept' => L v kept kept' ∨ M v kept kept'

/-- A word of the first reading and then one of the second. -/
def andThen (L M : Reading) : Reading :=
  fun v kept kept' => ∃ u w mid, v = u ++ w ∧ L u kept mid ∧ M w mid kept'

/-- A word that is kept under a name. -/
def named (name : String) (L : Reading) : Reading :=
  fun v kept kept' => ∃ inner, L v kept inner ∧ kept' = inner.keep name v

end Reading

/-- The word stands in the text between two places. -/
def Stands (text : List Char) (i : Nat) (w : List Char) (j : Nat) : Prop :=
  w <+: text.drop i ∧ j = i + w.length

/-- Tried at a place, the part takes the words of the reading that stand there. -/
def Node.ReadsAt (text : List Char) (i : Nat) (n : Node) (L : Reading) : Prop :=
  ∀ kept b, n.Way text (i, kept) b ↔ ∃ w, Stands text i w b.1 ∧ L w kept b.2

/-- The part takes the words of the reading wherever it is tried. -/
def Node.Reads (text : List Char) (n : Node) (L : Reading) : Prop :=
  ∀ i, n.ReadsAt text i L

variable {text : List Char} {i j : Nat} {a b n : Node} {L M : Reading}

theorem stands_nil : Stands text i [] j ↔ j = i := by
  simp [Stands]

theorem stands_append {u w : List Char} :
    Stands text i (u ++ w) j ↔ ∃ m, Stands text i u m ∧ Stands text m w j := by
  unfold Stands
  constructor
  · rintro ⟨⟨rest, hRest⟩, hEnd⟩
    have hMid : text.drop (i + u.length) = w ++ rest := by
      rw [← List.drop_drop, ← hRest, List.append_assoc, List.drop_left]
    rw [List.length_append, ← Nat.add_assoc] at hEnd
    exact ⟨_, ⟨⟨w ++ rest, by rw [← hRest, List.append_assoc]⟩, rfl⟩, ⟨rest, hMid.symm⟩, hEnd⟩
  · rintro ⟨m, ⟨⟨rest, hRest⟩, rfl⟩, hNext, rfl⟩
    have hMid : text.drop (i + u.length) = rest := by
      rw [← List.drop_drop, ← hRest, List.drop_left]
    rw [hMid] at hNext
    refine ⟨?_, by rw [List.length_append, Nat.add_assoc]⟩
    rw [← hRest]
    exact (List.prefix_append_right_inj u).mpr hNext

theorem stands_singleton {c : Char} : Stands text i [c] j ↔ text[i]? = some c ∧ j = i + 1 := by
  unfold Stands
  refine and_congr_left fun _ => ?_
  rw [List.singleton_prefix_iff_head?_eq_some, List.head?_drop]

/-- A word that ends where the text ends is all that was left of the text. -/
theorem stands_to_end {w : List Char} (h : Stands text i w j) (hi : i ≤ text.length)
    (hEnd : text.drop j = []) : text.drop i = w ∧ j = text.length := by
  obtain ⟨⟨rest, hRest⟩, rfl⟩ := h
  have hNothing : rest = [] := by
    rw [← hEnd, ← List.drop_drop, ← hRest, List.drop_left]
  rw [hNothing, List.append_nil] at hRest
  refine ⟨hRest.symm, ?_⟩
  rw [hRest, List.length_drop]
  omega

theorem stands_drop (h : i ≤ text.length) : Stands text i (text.drop i) text.length := by
  refine ⟨List.prefix_refl _, ?_⟩
  rw [List.length_drop]
  omega

/-! ### Parts and their words -/

theorem Node.Reads.congr (h : n.Reads text L)
    (hSame : ∀ w kept kept', L w kept kept' ↔ M w kept kept') : n.Reads text M := by
  intro i kept b
  rw [h i kept b]
  exact exists_congr fun w => and_congr_right fun _ => hSame w kept b.2

theorem reads_literal (w : List Char) : (Node.literal w).Reads text (.word w) := by
  rintro i kept ⟨j, kept'⟩
  constructor
  · rintro ⟨hPrefix, hEnd⟩
    cases hEnd
    exact ⟨w, ⟨hPrefix, rfl⟩, rfl, rfl⟩
  · rintro ⟨_, ⟨hPrefix, rfl⟩, rfl, rfl⟩
    exact ⟨hPrefix, rfl⟩

theorem Node.ReadsAt.seq (ha : a.ReadsAt text i L) (hb : b.Reads text M) :
    (a.seq b).ReadsAt text i (L.andThen M) := by
  rintro kept ⟨k, kept'⟩
  constructor
  · rintro ⟨⟨m, mid⟩, hFirst, hSecond⟩
    obtain ⟨u, hu, hL⟩ := (ha _ _).mp hFirst
    obtain ⟨w, hw, hM⟩ := (hb _ _ _).mp hSecond
    exact ⟨u ++ w, stands_append.mpr ⟨m, hu, hw⟩, u, w, mid, rfl, hL, hM⟩
  · rintro ⟨_, hStands, u, w, mid, rfl, hL, hM⟩
    obtain ⟨m, hu, hw⟩ := stands_append.mp hStands
    exact ⟨(m, mid), (ha _ _).mpr ⟨u, hu, hL⟩, (hb _ _ _).mpr ⟨w, hw, hM⟩⟩

theorem Node.Reads.seq (ha : a.Reads text L) (hb : b.Reads text M) :
    (a.seq b).Reads text (L.andThen M) :=
  fun i => (ha i).seq hb

theorem Node.Reads.capture (h : n.Reads text L) (index : Nat) (name : String) :
    (Node.capture index (some name) n).Reads text (L.named name) := by
  rintro i kept ⟨j, kept'⟩
  -- What is kept is what stands between the two ends, that is, the word.
  have hTaken : ∀ w, Stands text i w j → (text.drop i).take (j - i) = w := by
    rintro w ⟨hPrefix, rfl⟩
    rw [Nat.add_sub_cancel_left]
    exact (List.prefix_iff_eq_take.mp hPrefix).symm
  constructor
  · rintro ⟨inner, hWay, hKept⟩
    obtain ⟨w, hw, hL⟩ := (h _ _ _).mp hWay
    dsimp only at hw hKept
    rw [hTaken w hw] at hKept
    exact ⟨w, hw, inner, hL, hKept⟩
  · rintro ⟨w, hw, inner, hL, rfl⟩
    refine ⟨inner, (h _ _ _).mpr ⟨w, hw, hL⟩, ?_⟩
    dsimp only at hw ⊢
    rw [hTaken w hw]
    rfl

/-- A part that may be missing. -/
def optionally (n : Node) : Node :=
  .iterate n 0 (some 1) true

theorem Node.Reads.optionally (h : n.Reads text L) :
    (Pattern.optionally n).Reads text ((Reading.word []).either L) := by
  rintro i kept ⟨j, kept'⟩
  constructor
  · rintro ⟨count, -, hMost, hSteps⟩
    have hCount : count ≤ 1 := hMost 1 rfl
    match count, hCount with
    | 0, _ =>
      cases hSteps
      exact ⟨[], stands_nil.mpr rfl, .inl ⟨rfl, rfl⟩⟩
    | 1, _ =>
      obtain ⟨c, hWay, hLast⟩ := hSteps
      cases hLast
      obtain ⟨w, hw, hL⟩ := (h _ _ _).mp hWay
      exact ⟨w, hw, .inr hL⟩
  · rintro ⟨w, hw, ⟨rfl, rfl⟩ | hL⟩
    · cases stands_nil.mp hw
      exact ⟨0, Nat.le_refl 0, by simp, rfl⟩
    · exact ⟨1, Nat.zero_le 1, by simp, .one ((h _ _ _).mpr ⟨w, hw, hL⟩)⟩

/-- As many steps of one character as a word has take that word. -/
theorem steps_one_iff {s : CharSet} {count : Nat} {kept kept' : Captures} :
    Steps ((Node.one s).Way text) count (i, kept) (j, kept') ↔
      ∃ w : List Char, w.length = count ∧ Stands text i w j ∧
        (∀ c ∈ w, s.contains c = true) ∧ kept' = kept := by
  induction count generalizing i with
  | zero =>
    constructor
    · intro h
      cases h
      exact ⟨[], rfl, stands_nil.mpr rfl, by simp, rfl⟩
    · rintro ⟨w, hLength, hStands, -, rfl⟩
      rw [List.length_eq_zero_iff.mp hLength, stands_nil] at hStands
      rw [hStands]
      rfl
  | succ count ih =>
    constructor
    · rintro ⟨_, ⟨c, hChar, hc, rfl⟩, hRest⟩
      obtain ⟨w, hLength, hStands, hAll, hKept⟩ := ih.mp hRest
      refine ⟨c :: w, by rw [List.length_cons, hLength], ?_, ?_, hKept⟩
      · exact stands_append.mpr ⟨i + 1, stands_singleton.mpr ⟨hChar, rfl⟩, hStands⟩
      · exact List.forall_mem_cons.mpr ⟨hc, hAll⟩
    · rintro ⟨w, hLength, hStands, hAll, hKept⟩
      cases w with
      | nil => cases hLength
      | cons c w =>
        obtain ⟨m, hFirst, hRest⟩ := stands_append.mp (List.singleton_append ▸ hStands)
        obtain ⟨hChar, rfl⟩ := stands_singleton.mp hFirst
        obtain ⟨hc, hAll⟩ := List.forall_mem_cons.mp hAll
        exact ⟨(i + 1, kept), ⟨c, hChar, hc, rfl⟩,
          ih.mpr ⟨w, Nat.succ.inj hLength, hRest, hAll, hKept⟩⟩

theorem reads_run (s : CharSet) (greedy : Bool) :
    (Node.iterate (.one s) 1 none greedy).Reads text (.run s) := by
  rintro i kept ⟨j, kept'⟩
  constructor
  · rintro ⟨count, hLeast, -, hSteps⟩
    obtain ⟨w, rfl, hStands, hAll, hKept⟩ := steps_one_iff.mp hSteps
    exact ⟨w, hStands, ⟨List.ne_nil_of_length_pos hLeast, hAll⟩, hKept⟩
  · rintro ⟨w, hStands, ⟨hne, hAll⟩, hKept⟩
    exact ⟨w.length, List.length_pos_iff.mpr hne, by simp,
      steps_one_iff.mpr ⟨w, rfl, hStands, hAll, hKept⟩⟩

end Worklist.Pattern
