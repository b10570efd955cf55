import Mathlib.Data.List.Basic
import Worklist.Pattern.Match

/-!
# Ways through a text

What a pattern describes, said without the order in which the matcher tries things: a part leads
from one stage of a text to another. Whatever the matcher finds is such a way, with the texts that
were kept on it.
-/

namespace Worklist.Pattern

/-- How far a text has been passed, and what was kept on the way. -/
abbrev Stage := Nat × Captures

/-- The place after the first `i` characters of a text. -/
def Spot.inText (text : List Char) (i : Nat) : Spot :=
  ⟨i, (text.take i).getLast?, text.drop i⟩

/-- Steps taken one after the other. -/
def Steps {α : Type} (R : α → α → Prop) : Nat → α → α → Prop
  | 0, a, b => b = a
  | n + 1, a, c => ∃ b, R a b ∧ Steps R n b c

/-- Keeps a text under a name, if there is one. -/
def Captures.keepUnder (name : Option String) (text : List Char) (kept : Captures) : Captures :=
  match name with
  | none => kept
  | some name => kept.keep name text

/-- The part can lead from one stage to the other. -/
def Node.Way (text : List Char) : Node → Stage → Stage → Prop
  | .empty, a, b => b = a
  | .literal word, a, b => word <+: text.drop a.1 ∧ b = (a.1 + word.length, a.2)
  | .one s, a, b => ∃ c, text[a.1]? = some c ∧ s.contains c = true ∧ b = (a.1 + 1, a.2)
  | .at c, a, b => (Spot.inText text a.1).meets c = true ∧ b = a
  | .capture _ name n, a, b => ∃ kept, n.Way text a (b.1, kept) ∧
      b.2 = kept.keepUnder name ((text.drop a.1).take (b.1 - a.1))
  | .seq x y, a, c => ∃ b, x.Way text a b ∧ y.Way text b c
  | .alt x y, a, b => x.Way text a b ∨ y.Way text a b
  | .iterate n least most _, a, b => ∃ count, least ≤ count ∧
      (∀ m ∈ most, count ≤ max least m) ∧ Steps (n.Way text) count a b

/-! ### Steps -/

section

variable {α : Type} {R : α → α → Prop} {m n : Nat} {a b c : α}

theorem Steps.one (h : R a b) : Steps R 1 a b :=
  ⟨b, h, rfl⟩

theorem Steps.trans (hab : Steps R m a b) (hbc : Steps R n b c) : Steps R (m + n) a c := by
  induction m generalizing a with
  | zero =>
    cases hab
    rw [Nat.zero_add]
    exact hbc
  | succ m ih =>
    obtain ⟨d, had, hdb⟩ := hab
    rw [Nat.add_right_comm]
    exact ⟨d, had, ih hdb⟩

end

/-! ### Outcomes in a text -/

namespace Outcome

/-- The outcome is at a place of the text. -/
def InText (text : List Char) (o : Outcome) : Prop :=
  o.spot = Spot.inText text o.spot.index ∧ o.spot.index ≤ text.length

/-- What a way goes on from. -/
def stage (o : Outcome) : Stage :=
  (o.spot.index, o.captures)

variable {text : List Char} {o : Outcome}

theorem InText.rest_eq (h : o.InText text) : o.spot.rest = text.drop o.spot.index := by
  rw [h.1]
  rfl

theorem InText.of_spot_eq {o' : Outcome} (h : o.InText text) (hSpot : o'.spot = o.spot) :
    o'.InText text := by
  unfold InText
  rw [hSpot]
  exact h

theorem InText.take {c : Char} {rest : List Char} (h : o.InText text)
    (hRest : o.spot.rest = c :: rest) :
    (o.take c rest).InText text ∧ text[o.spot.index]? = some c := by
  have hDrop : text.drop o.spot.index = c :: rest := h.rest_eq ▸ hRest
  have hChar : text[o.spot.index]? = some c := by
    rw [← List.head?_drop, hDrop]
    rfl
  obtain ⟨hLt, hGet⟩ := List.getElem?_eq_some_iff.mp hChar
  refine ⟨⟨?_, hLt⟩, hChar⟩
  have hTail : text.drop (o.spot.index + 1) = rest := by
    rw [← List.drop_drop, hDrop]
    rfl
  simp only [Outcome.take, Spot.next, Spot.inText, hTail, List.take_add_one, hChar]
  simp

end Outcome

/-! ### What is found is a way -/

variable {text : List Char} {R S : Stage → Stage → Prop} {f g : Outcome → List Outcome}

/-- From a place of the text, only places of the text are found that the relation leads to. -/
def FindsOnly (text : List Char) (f : Outcome → List Outcome) (R : Stage → Stage → Prop) : Prop :=
  ∀ o, o.InText text → ∀ o' ∈ f o, o'.InText text ∧ R o.stage o'.stage

theorem mem_of_mem_preferredBesides {ended : Marks} {os : List Outcome} {o : Outcome}
    (h : o ∈ preferredBesides ended os) : o ∈ os := by
  induction os generalizing ended with
  | nil => exact h
  | cons x os ih =>
    rw [preferredBesides] at h
    split at h
    · exact List.mem_cons_of_mem x (ih h)
    · rcases List.mem_cons.mp h with rfl | h
      · exact List.mem_cons_self
      · exact List.mem_cons_of_mem x (ih h)

theorem FindsOnly.preferred (h : FindsOnly text f R) :
    FindsOnly text (fun o => Pattern.preferred (f o)) R :=
  fun o ho o' ho' => h o ho o' (mem_of_mem_preferredBesides ho')

theorem FindsOnly.follow (hf : FindsOnly text f R) (hg : FindsOnly text g S) :
    FindsOnly text (fun o => Pattern.follow g (f o)) fun a c => ∃ b, R a b ∧ S b c := by
  intro o ho o' ho'
  obtain ⟨mid, hMid, hLast⟩ := List.mem_flatMap.mp (mem_of_mem_preferredBesides ho')
  obtain ⟨hIn, hFirst⟩ := hf o ho mid hMid
  obtain ⟨hIn', hSecond⟩ := hg mid hIn o' hLast
  exact ⟨hIn', mid.stage, hFirst, hSecond⟩

theorem times_succ (step : Nat → Outcome → List Outcome) (n : Nat) (o : Outcome) :
    times step (n + 1) o = follow (step n) (times step n o) := by
  rw [times, List.range_succ, List.foldl_append]
  rfl

theorem FindsOnly.times {step : Nat → Outcome → List Outcome}
    (h : ∀ i, FindsOnly text (step i) R) (n : Nat) :
    FindsOnly text (Pattern.times step n) (Steps R n) := by
  induction n with
  | zero =>
    intro o ho o' ho'
    cases List.mem_singleton.mp ho'
    exact ⟨ho, rfl⟩
  | succ n ih =>
    intro o ho o' ho'
    rw [times_succ] at ho'
    obtain ⟨hIn, mid, hFirst, hLast⟩ := ih.follow (h n) o ho o' ho'
    exact ⟨hIn, hFirst.trans (.one hLast)⟩

/-! ### Repetitions -/

section Repetitions

variable {α : Type} (onward : Outcome → StateM Marks (List Outcome)) (os : List Outcome)

theorem flatMapM_cons (o : Outcome) (s : Marks) :
    (o :: os).flatMapM onward s =
      ((onward o s).1 ++ (os.flatMapM onward (onward o s).2).1,
        (os.flatMapM onward (onward o s).2).2) := by
  rw [List.flatMapM_cons]
  rfl

theorem mem_flatMapM {o' : Outcome} {s : Marks} (h : o' ∈ (os.flatMapM onward s).1) :
    ∃ o ∈ os, ∃ s', o' ∈ (onward o s').1 := by
  induction os generalizing s with
  | nil => cases h
  | cons o os ih =>
    rw [flatMapM_cons] at h
    rcases List.mem_append.mp h with h | h
    · exact ⟨o, List.mem_cons_self, s, h⟩
    · obtain ⟨x, hx, hFound⟩ := ih h
      exact ⟨x, List.mem_cons_of_mem o hx, hFound⟩

end Repetitions

theorem mem_orStop {greedy : Bool} {o o' : Outcome} {os : List Outcome} :
    o' ∈ orStop greedy o os ↔ o' = o ∨ o' ∈ os := by
  unfold orStop
  split
  · rw [List.mem_append, List.mem_singleton, or_comm]
  · rw [List.mem_cons]

theorem upTo_succ (gate : Nat → Outcome → Option Outcome) (step : Nat → Outcome → List Outcome)
    (greedy : Bool) (more left : Nat) (o : Outcome) (s : Marks) :
    upTo gate step greedy more (left + 1) o s =
      if s.contains (o.spot.index * more + left) then ([], s)
      else match gate left o with
        | none => ([], s)
        | some o' =>
          let found := (step left o').flatMapM (upTo gate step greedy more left)
            (s.insert (o.spot.index * more + left))
          (orStop greedy o' found.1, found.2) := by
  rw [upTo]
  simp only [bind, StateT.bind, get, getThe, MonadStateOf.get, StateT.get, pure]
  split
  · rfl
  · cases gate left o <;> rfl

theorem rounds_succ (gate : Outcome → Option Outcome) (step : Outcome → List Outcome)
    (greedy : Bool) (fuel : Nat) (o : Outcome) (s : Marks) :
    rounds gate step greedy (fuel + 1) o s =
      if s.contains o.spot.index then ([], s)
      else match gate o with
        | none => ([], s)
        | some o' =>
          let found := (step o').flatMapM (rounds gate step greedy fuel)
            (s.insert o'.spot.index)
          (orStop greedy o' found.1, found.2) := by
  rw [rounds]
  simp only [bind, StateT.bind, get, getThe, MonadStateOf.get, StateT.get, pure]
  split
  · rfl
  · cases gate o <;> rfl

/-- Passing a branching does not lead anywhere else. -/
theorem Outcome.pass?_eq_some {place : Option Address} {o o' : Outcome}
    (h : o.pass? place = some o') : o'.spot = o.spot ∧ o'.stage = o.stage := by
  unfold Outcome.pass? at h
  split at h
  · cases h
    exact ⟨rfl, rfl⟩
  · split at h
    · cases h
    · cases h
      exact ⟨rfl, rfl⟩

theorem findsOnly_upTo {gate : Nat → Outcome → Option Outcome}
    {step : Nat → Outcome → List Outcome} (greedy : Bool) (more : Nat)
    (hGate : ∀ i o o', gate i o = some o' → o'.spot = o.spot ∧ o'.stage = o.stage)
    (hStep : ∀ i, FindsOnly text (step i) R) (left : Nat) (s : Marks) :
    FindsOnly text (fun o => (upTo gate step greedy more left o s).1) fun a b =>
      ∃ count ≤ left, Steps R count a b := by
  induction left generalizing s with
  | zero =>
    intro o ho o' ho'
    cases List.mem_singleton.mp ho'
    exact ⟨ho, 0, Nat.le_refl 0, rfl⟩
  | succ left ih =>
    intro o ho o' ho'
    simp only [upTo_succ] at ho'
    split at ho'
    case isTrue => cases ho'
    case isFalse =>
      cases hPass : gate left o with
      | none => simp [hPass] at ho'
      | some x =>
        obtain ⟨hSpot, hStage⟩ := hGate left o x hPass
        have hx := ho.of_spot_eq hSpot
        rw [hPass] at ho'
        rcases mem_orStop.mp ho' with rfl | ho'
        · exact ⟨hx, 0, Nat.zero_le _, hStage⟩
        · obtain ⟨mid, hMid, s', hLast⟩ := mem_flatMapM _ _ ho'
          obtain ⟨hIn, hFirst⟩ := hStep left x hx mid hMid
          obtain ⟨hIn', count, hCount, hRest⟩ := ih s' mid hIn o' hLast
          exact ⟨hIn', count + 1, Nat.succ_le_succ hCount, mid.stage, hStage ▸ hFirst, hRest⟩

theorem findsOnly_rounds {gate : Outcome → Option Outcome} {step : Outcome → List Outcome}
    (greedy : Bool) (hGate : ∀ o o', gate o = some o' → o'.spot = o.spot ∧ o'.stage = o.stage)
    (hStep : FindsOnly text step R) (fuel : Nat) (s : Marks) :
    FindsOnly text (fun o => (rounds gate step greedy fuel o s).1) fun a b =>
      ∃ count, Steps R count a b := by
  induction fuel generalizing s with
  | zero =>
    intro o ho o' ho'
    cases ho'
  | succ fuel ih =>
    intro o ho o' ho'
    simp only [rounds_succ] at ho'
    split at ho'
    case isTrue => cases ho'
    case isFalse =>
      cases hPass : gate o with
      | none => simp [hPass] at ho'
      | some x =>
        obtain ⟨hSpot, hStage⟩ := hGate o x hPass
        have hx := ho.of_spot_eq hSpot
        rw [hPass] at ho'
        rcases mem_orStop.mp ho' with rfl | ho'
        · exact ⟨hx, 0, hStage⟩
        · obtain ⟨mid, hMid, s', hLast⟩ := mem_flatMapM _ _ ho'
          obtain ⟨hIn, hFirst⟩ := hStep x hx mid hMid
          obtain ⟨hIn', count, hRest⟩ := ih s' mid hIn o' hLast
          exact ⟨hIn', count + 1, mid.stage, hStage ▸ hFirst, hRest⟩

theorem mem_gather {onward : Outcome → StateM Marks (List Outcome)} {os : List Outcome}
    {o' : Outcome} (h : o' ∈ gather onward os) : ∃ o ∈ os, ∃ s, o' ∈ (onward o s).1 :=
  mem_flatMapM onward os h

section Repeats

variable {part : Attempt} (hPart : ∀ place, FindsOnly text (part place) R)
include hPart

theorem findsOnly_boundedRepeat (least more : Nat) (greedy : Bool) (place : Option Address) :
    FindsOnly text (boundedRepeat part least more greedy place) fun a b =>
      ∃ count, least ≤ count ∧ count ≤ least + more ∧ Steps R count a b := by
  refine FindsOnly.preferred ?_
  intro o ho o' ho'
  obtain ⟨mid, hMid, s, hLast⟩ := mem_gather ho'
  obtain ⟨hIn, hFirst⟩ := FindsOnly.times (fun i => hPart _) least o ho mid hMid
  obtain ⟨hIn', count, hCount, hRest⟩ := findsOnly_upTo greedy more
    (fun _ _ _ h => Outcome.pass?_eq_some h) (fun i => hPart _) more s mid hIn o' hLast
  exact ⟨hIn', least + count, Nat.le_add_right _ _, Nat.add_le_add_left hCount _,
    hFirst.trans hRest⟩

theorem findsOnly_openRepeat (advances : Bool) (least : Nat) (greedy : Bool)
    (place : Option Address) :
    FindsOnly text (openRepeat part advances least greedy place) fun a b =>
      ∃ count, least ≤ count ∧ Steps R count a b := by
  refine FindsOnly.preferred ?_
  intro o ho o' ho'
  have hGate : ∀ x x' : Outcome, x.pass? (within 1 place) = some x' →
      x'.spot = x.spot ∧ x'.stage = x.stage := fun _ _ h => Outcome.pass?_eq_some h
  have hOnward := fun s => findsOnly_rounds greedy hGate
    (hPart (within (2 * (least - 1) + 3) place)) (o.spot.rest.length + 2) s
  split at ho'
  case isTrue hStart =>
    rw [hStart.1]
    dsimp only at ho'
    cases hPass : o.pass? (within 0 place) with
    | none => simp [hPass] at ho'
    | some x =>
      obtain ⟨hSpot, hStage⟩ := Outcome.pass?_eq_some hPass
      have hx := ho.of_spot_eq hSpot
      rw [hPass] at ho'
      rcases mem_orStop.mp ho' with rfl | ho'
      · exact ⟨hx, 0, Nat.le_refl 0, hStage⟩
      · obtain ⟨mid, hMid, s, hLast⟩ := mem_gather ho'
        obtain ⟨hIn, hFirst⟩ := hPart _ x hx mid hMid
        obtain ⟨hIn', count, hRest⟩ := hOnward s mid hIn o' hLast
        exact ⟨hIn', count + 1, Nat.zero_le _, mid.stage, hStage ▸ hFirst, hRest⟩
  case isFalse =>
    obtain ⟨mid, hMid, s, hLast⟩ := mem_gather ho'
    obtain ⟨hIn, hFirst⟩ := FindsOnly.times (fun i => hPart _) least o ho mid hMid
    obtain ⟨hIn', count, hRest⟩ := hOnward s mid hIn o' hLast
    exact ⟨hIn', least + count, Nat.le_add_right _ _, hFirst.trans hRest⟩

end Repeats

/-! ### Parts -/

theorem Outcome.InText.takeText? {word : List Char} {o o' : Outcome} (h : o.InText text)
    (hTake : o.takeText? word = some o') :
    o'.InText text ∧ word <+: text.drop o.spot.index ∧
      o'.stage = (o.spot.index + word.length, o.captures) := by
  induction word generalizing o with
  | nil =>
    cases hTake
    exact ⟨h, List.nil_prefix, rfl⟩
  | cons c word ih =>
    rw [Outcome.takeText?] at hTake
    cases hRest : o.spot.rest with
    | nil => simp [hRest] at hTake
    | cons d rest =>
      simp only [hRest] at hTake
      split at hTake
      case isTrue hc =>
        subst hc
        obtain ⟨hNext, -⟩ := h.take hRest
        obtain ⟨hIn, hPrefix, hStage⟩ := ih hNext hTake
        refine ⟨hIn, ?_, ?_⟩
        · rw [← h.rest_eq, hRest, List.prefix_cons_inj]
          rw [← hNext.rest_eq] at hPrefix
          exact hPrefix
        · rw [hStage, List.length_cons, Nat.add_comm word.length, ← Nat.add_assoc]
          rfl
      case isFalse => cases hTake

theorem Outcome.InText.keep {o : Outcome} (h : o.InText text) (name : Option String) (x : Outcome) :
    (x.keep o.spot name).spot = x.spot ∧ (x.keep o.spot name).captures =
      x.captures.keepUnder name ((text.drop o.spot.index).take (x.spot.index - o.spot.index)) := by
  rw [← h.rest_eq]
  cases name with
  | none => exact ⟨rfl, rfl⟩
  | some name => exact ⟨rfl, rfl⟩

/-- Whatever a part is found to lead to, there is a way of the part to it. Induction on the part,
at every address. -/
theorem findsOnly_outcomes (n : Node) (place : Option Address) :
    FindsOnly text (n.outcomes place) (n.Way text) := by
  induction n generalizing place with
  | empty =>
    intro o ho o' ho'
    cases List.mem_singleton.mp ho'
    exact ⟨ho, rfl⟩
  | literal word =>
    intro o ho o' ho'
    obtain ⟨hIn, hPrefix, hStage⟩ := ho.takeText? (Option.mem_toList.mp ho')
    exact ⟨hIn, hPrefix, hStage⟩
  | one s =>
    intro o ho o' ho'
    rw [Node.outcomes] at ho'
    cases hRest : o.spot.rest with
    | nil => simp [hRest] at ho'
    | cons c rest =>
      simp only [hRest] at ho'
      split at ho'
      case isTrue hc =>
        cases List.mem_singleton.mp ho'
        obtain ⟨hIn, hChar⟩ := ho.take hRest
        exact ⟨hIn, c, hChar, hc, rfl⟩
      case isFalse => cases ho'
  | «at» c =>
    intro o ho o' ho'
    rw [Node.outcomes] at ho'
    split at ho'
    case isTrue hc =>
      cases List.mem_singleton.mp ho'
      exact ⟨ho, ho.1 ▸ hc, rfl⟩
    case isFalse => cases ho'
  | capture index name n ih =>
    intro o ho o' ho'
    obtain ⟨x, hx, rfl⟩ := List.mem_map.mp ho'
    obtain ⟨hIn, hWay⟩ := ih place o ho x hx
    obtain ⟨hSpot, hKept⟩ := ho.keep name x
    have hEnd : (x.keep o.spot name).stage.1 = x.spot.index := congrArg Spot.index hSpot
    refine ⟨hIn.of_spot_eq hSpot, x.captures, ?_, ?_⟩
    · rw [hEnd]
      exact hWay
    · rw [hEnd]
      exact hKept
  | seq a b iha ihb => exact (iha _).follow (ihb _)
  | alt a b iha ihb =>
    intro o ho o' ho'
    rw [Node.outcomes] at ho'
    cases hPass : o.pass? (within 0 place) with
    | none => simp [hPass] at ho'
    | some x =>
      obtain ⟨hSpot, hStage⟩ := Outcome.pass?_eq_some hPass
      have hx := ho.of_spot_eq hSpot
      rw [hPass] at ho'
      rw [← hStage]
      rcases List.mem_append.mp (mem_of_mem_preferredBesides ho') with ho' | ho'
      · obtain ⟨hIn, hWay⟩ := iha _ x hx o' ho'
        exact ⟨hIn, .inl hWay⟩
      · obtain ⟨hIn, hWay⟩ := ihb _ x hx o' ho'
        exact ⟨hIn, .inr hWay⟩
  | iterate n least most greedy ih =>
    intro o ho o' ho'
    cases most with
    | some most =>
      obtain ⟨hIn, count, hLeast, hMost, hSteps⟩ :=
        findsOnly_boundedRepeat ih least (most - least) greedy place o ho o' ho'
      refine ⟨hIn, count, hLeast, ?_, hSteps⟩
      rintro m ⟨⟩
      omega
    | none =>
      have hRepeat : o'.InText text ∧ ∃ count, least ≤ count ∧
          Steps (n.Way text) count o.stage o'.stage := by
        rw [Node.outcomes] at ho'
        split at ho'
        · exact findsOnly_openRepeat ih false least greedy (some []) { o with passed := [] }
            (ho.of_spot_eq rfl) o' ho'
        · exact findsOnly_openRepeat ih n.advances least greedy place o ho o' ho'
      obtain ⟨hIn, count, hLeast, hSteps⟩ := hRepeat
      exact ⟨hIn, count, hLeast, by simp, hSteps⟩

/-! ### Searching -/

/-- The outcomes of a part at a place of a text, when nothing has been kept. -/
def Node.outcomesAt (n : Node) (text : List Char) (i : Nat) : List Outcome :=
  n.outcomes none ⟨Spot.inText text i, [], []⟩

/-- The outcome that a search takes: the preferred one at the first place where there is one. -/
structure Node.Takes (n : Node) (text : List Char) (i : Nat) (o : Outcome) : Prop where
  inside : i ≤ text.length
  first : ∀ h < i, n.outcomesAt text h = []
  preferred : (n.outcomesAt text i).head? = some o

theorem Node.Takes.unique {n : Node} {i j : Nat} {o o' : Outcome} (h : n.Takes text i o)
    (h' : n.Takes text j o') : i = j ∧ o = o' := by
  have hEarlier : ∀ {i j : Nat} {o o' : Outcome}, n.Takes text i o → n.Takes text j o' → i ≤ j := by
    intro i j o o' h h'
    by_contra hLt
    have hNone := h.first j (Nat.lt_of_not_le hLt)
    have hSome := h'.preferred
    rw [hNone] at hSome
    cases hSome
  have hPlace : i = j := Nat.le_antisymm (hEarlier h h') (hEarlier h' h)
  subst hPlace
  exact ⟨rfl, Option.some.inj (h.preferred.symm.trans h'.preferred)⟩

/-- What a search from a place on takes, if nothing was found before. -/
theorem searchFrom_spec (n : Node) {i : Nat} {rest : List Char} (hi : i ≤ text.length)
    (hRest : text.drop i = rest) (hBefore : ∀ h < i, n.outcomesAt text h = []) :
    (∀ kept, searchFrom n i (text.take i).getLast? rest = some kept →
      ∃ j o, n.Takes text j o ∧ o.captures = kept) ∧
    (searchFrom n i (text.take i).getLast? rest = none →
      ∀ j ≤ text.length, n.outcomesAt text j = []) := by
  induction rest generalizing i with
  | nil =>
    have hHere : n.outcomesAt text i =
        n.outcomes none ⟨⟨i, (text.take i).getLast?, []⟩, [], []⟩ := by
      rw [Node.outcomesAt, Spot.inText, hRest]
    rw [searchFrom, ← hHere]
    constructor
    · intro kept h
      obtain ⟨o, ho, hKept⟩ := Option.map_eq_some_iff.mp h
      exact ⟨i, o, ⟨hi, hBefore, ho⟩, hKept⟩
    · intro h j hj
      have hEnd : text.length ≤ i := List.drop_eq_nil_iff.mp hRest
      rw [Option.map_eq_none_iff, List.head?_eq_none_iff] at h
      rcases Nat.lt_or_eq_of_le (Nat.le_trans hj hEnd) with hLt | rfl
      · exact hBefore j hLt
      · exact h
  | cons c rest ih =>
    have hHere : n.outcomesAt text i =
        n.outcomes none ⟨⟨i, (text.take i).getLast?, c :: rest⟩, [], []⟩ := by
      rw [Node.outcomesAt, Spot.inText, hRest]
    have hChar : text[i]? = some c := by
      rw [← List.head?_drop, hRest]
      rfl
    obtain ⟨hLt, -⟩ := List.getElem?_eq_some_iff.mp hChar
    have hNext : text.drop (i + 1) = rest := by
      rw [← List.drop_drop, hRest]
      rfl
    have hLast : (text.take (i + 1)).getLast? = some c := by
      rw [List.take_add_one, hChar]
      simp
    rw [searchFrom, ← hHere]
    cases hOutcomes : n.outcomesAt text i with
    | nil =>
      have hBefore' : ∀ h < i + 1, n.outcomesAt text h = [] := by
        intro h hh
        rcases Nat.lt_succ_iff_lt_or_eq.mp hh with hh | rfl
        · exact hBefore h hh
        · exact hOutcomes
      have hTail := ih hLt hNext hBefore'
      rw [hLast] at hTail
      exact hTail
    | cons o os =>
      refine ⟨?_, fun h => nomatch h⟩
      rintro kept ⟨⟩
      exact ⟨i, o, ⟨hi, hBefore, by rw [hOutcomes]; rfl⟩, rfl⟩

/-- A search keeps what the outcome it takes has kept. -/
theorem search_eq_some_iff {p : Worklist.Pattern} {kept : Captures} :
    p.search text = some kept ↔ ∃ i o, p.body.Takes text i o ∧ o.captures = kept := by
  have hSpec := searchFrom_spec p.body (Nat.zero_le text.length) rfl
    (fun h hh => absurd hh (Nat.not_lt_zero h))
  constructor
  · exact hSpec.1 kept
  · rintro ⟨i, o, hTakes, rfl⟩
    cases hSearch : p.search text with
    | none =>
      have hNone := hSpec.2 hSearch i hTakes.inside
      have hSome := hTakes.preferred
      rw [hNone] at hSome
      cases hSome
    | some kept =>
      obtain ⟨j, o', hTakes', rfl⟩ := hSpec.1 kept hSearch
      rw [(hTakes.unique hTakes').2]

theorem outcomesAt_eq_nil_of_search {p : Worklist.Pattern} (h : p.search text = none) {i : Nat}
    (hi : i ≤ text.length) : p.body.outcomesAt text i = [] :=
  (searchFrom_spec p.body (Nat.zero_le _) rfl (fun h hh => absurd hh (Nat.not_lt_zero h))).2 h i hi

/-- The outcome that a search takes is at the end of a way of the part. -/
theorem Node.Takes.way {n : Node} {i : Nat} {o : Outcome} (h : n.Takes text i o) :
    n.Way text (i, []) o.stage :=
  (findsOnly_outcomes n none _ ⟨rfl, h.inside⟩ o (List.mem_of_head? h.preferred)).2

/-- What a search keeps was kept on a way of the pattern through some stretch of the text. -/
theorem way_of_search {p : Worklist.Pattern} {kept : Captures} (h : p.search text = some kept) :
    ∃ i ≤ text.length, ∃ j, p.body.Way text (i, []) (j, kept) := by
  obtain ⟨i, o, hTakes, rfl⟩ := search_eq_some_iff.mp h
  exact ⟨i, hTakes.inside, o.spot.index, hTakes.way⟩

end Worklist.Pattern
