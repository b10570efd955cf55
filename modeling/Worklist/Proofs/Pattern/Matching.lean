import Worklist.Proofs.Pattern.Ways

/-!
# The matcher overlooks nothing

As long as every part that is repeated without bound takes a character each time, the matcher finds
a way through a text wherever there is one. It tries a repetition at most once from each place, with
the same number of rounds left, so it has to be seen that nothing is missed by not trying it again.
-/

namespace Worklist.Pattern

variable {text : List Char}

/-! ### How far a way leads -/

theorem Steps.length_le {R : Stage → Stage → Prop} {k count : Nat} {a b : Stage}
    (hR : ∀ a b, R a b → a.1 + k ≤ b.1) (h : Steps R count a b) : a.1 + k * count ≤ b.1 := by
  induction count generalizing a with
  | zero =>
    cases h
    exact Nat.le_refl _
  | succ count ih =>
    obtain ⟨m, ham, hmb⟩ := h
    have hFirst := hR a m ham
    have hRest := ih hmb
    rw [Nat.mul_succ]
    omega

/-- A way takes at least as many characters as its part needs. -/
theorem Node.Way.shortest_le {n : Node} {k : Nat} {a b : Stage} (hk : n.shortest = some k)
    (h : n.Way text a b) : a.1 + k ≤ b.1 := by
  induction n generalizing k a b with
  | empty =>
    cases hk
    cases h
    exact Nat.le_refl _
  | literal word =>
    cases hk
    obtain ⟨-, rfl⟩ := h
    exact Nat.le_refl _
  | one s =>
    rw [shortest] at hk
    split at hk
    · cases hk
    · cases hk
      obtain ⟨c, -, -, rfl⟩ := h
      exact Nat.le_refl _
  | «at» c =>
    cases hk
    obtain ⟨-, rfl⟩ := h
    exact Nat.le_refl _
  | capture index name n ih =>
    obtain ⟨kept, hWay, -⟩ := h
    exact ih (b := (b.1, kept)) hk hWay
  | seq x y ihx ihy =>
    simp only [shortest, Option.bind_eq_bind, Option.bind_eq_some_iff, Option.pure_def,
      Option.some.injEq] at hk
    obtain ⟨kx, hkx, ky, hky, rfl⟩ := hk
    obtain ⟨m, hx, hy⟩ := h
    have hFirst := ihx hkx hx
    have hSecond := ihy hky hy
    omega
  | alt x y ihx ihy =>
    simp only [shortest, Option.bind_eq_bind, Option.bind_eq_some_iff, Option.pure_def,
      Option.some.injEq] at hk
    obtain ⟨kx, hkx, ky, hky, rfl⟩ := hk
    rcases h with h | h
    · have hBound := ihx hkx h
      omega
    · have hBound := ihy hky h
      omega
  | iterate n least most greedy ih =>
    simp only [shortest, Option.bind_eq_bind, Option.bind_eq_some_iff, Option.pure_def,
      Option.some.injEq] at hk
    obtain ⟨kn, hkn, rfl⟩ := hk
    obtain ⟨count, hLeast, -, hSteps⟩ := h
    have hBound := hSteps.length_le fun a b hab => ih hkn hab
    have hCount := Nat.mul_le_mul_left kn hLeast
    omega

theorem Node.Way.lt_of_advances {n : Node} {a b : Stage} (hn : n.advances = true)
    (h : n.Way text a b) : a.1 < b.1 := by
  rw [advances, Option.any_eq_true] at hn
  obtain ⟨k, hk, hPos⟩ := hn
  have hBound := h.shortest_le hk
  have hPos : 0 < k := of_decide_eq_true hPos
  omega

/-! ### What is found -/

/-- An outcome at the place is among those found. -/
def Found (os : List Outcome) (j : Nat) : Prop :=
  ∃ o ∈ os, o.spot.index = j

/-- From a place of the text, every place is found that the relation leads to. -/
def FindsAll (text : List Char) (f : Outcome → List Outcome) (R : Nat → Nat → Prop) : Prop :=
  ∀ o, o.InText text → ∀ j, R o.spot.index j → Found (f o) j

/-- The part can lead from one place to the other, whatever is kept. -/
def Node.Leads (text : List Char) (n : Node) (i j : Nat) : Prop :=
  ∃ kept kept', n.Way text (i, kept) (j, kept')

theorem Found.append_left {os : List Outcome} {j : Nat} (h : Found os j) (more : List Outcome) :
    Found (os ++ more) j := by
  obtain ⟨o, ho, hj⟩ := h
  exact ⟨o, List.mem_append_left more ho, hj⟩

theorem found_preferredBesides {os : List Outcome} {ended : Marks} {j : Nat} (h : Found os j)
    (hj : ended.contains j = false) : Found (preferredBesides ended os) j := by
  induction os generalizing ended with
  | nil =>
    obtain ⟨o, ho, -⟩ := h
    cases ho
  | cons x os ih =>
    obtain ⟨o, ho, hEnd⟩ := h
    rw [preferredBesides]
    split
    case isTrue hx =>
      rcases List.mem_cons.mp ho with rfl | ho
      · rw [hEnd, hj] at hx
        cases hx
      · exact ih ⟨o, ho, hEnd⟩ hj
    case isFalse =>
      by_cases hHere : x.spot.index = j
      · exact ⟨x, List.mem_cons_self, hHere⟩
      · rcases List.mem_cons.mp ho with rfl | ho
        · exact absurd hEnd hHere
        · have hNew : (ended.insert x.spot.index).contains j = false := by simp [hj, hHere]
          obtain ⟨y, hy, hyj⟩ := ih ⟨o, ho, hEnd⟩ hNew
          exact ⟨y, List.mem_cons_of_mem x hy, hyj⟩

theorem Found.orStop {found os : List Outcome} {j : Nat} (h : Found (found ++ os) j) (greedy : Bool)
    (o : Outcome) : Found (found ++ orStop greedy o os) j := by
  obtain ⟨x, hx, hj⟩ := h
  refine ⟨x, ?_, hj⟩
  rcases List.mem_append.mp hx with hx | hx
  · exact List.mem_append_left _ hx
  · exact List.mem_append_right _ (mem_orStop.mpr (.inr hx))

/-- Leaving out what ends where something preferred ends loses no place. -/
theorem Found.preferred {os : List Outcome} {j : Nat} (h : Found os j) : Found (preferred os) j :=
  found_preferredBesides h (Marks.contains_empty j)

section Sequences

variable {f g : Outcome → List Outcome} {R S : Stage → Stage → Prop} {F G : Nat → Nat → Prop}

theorem FindsAll.follow (hOnly : FindsOnly text f R) (hf : FindsAll text f F)
    (hg : FindsAll text g G) :
    FindsAll text (fun o => Pattern.follow g (f o)) fun i k => ∃ j, F i j ∧ G j k := by
  rintro o ho k ⟨j, hFirst, hSecond⟩
  obtain ⟨mid, hMid, rfl⟩ := hf o ho j hFirst
  obtain ⟨hIn, -⟩ := hOnly o ho mid hMid
  obtain ⟨last, hLast, rfl⟩ := hg mid hIn k hSecond
  exact Found.preferred ⟨last, List.mem_flatMap.mpr ⟨mid, hMid, hLast⟩, rfl⟩

theorem Steps.split {α : Type} {R : α → α → Prop} {m n : Nat} {a c : α}
    (h : Steps R (m + n) a c) : ∃ b, Steps R m a b ∧ Steps R n b c := by
  induction m generalizing a with
  | zero =>
    rw [Nat.zero_add] at h
    exact ⟨a, rfl, h⟩
  | succ m ih =>
    rw [Nat.add_right_comm] at h
    obtain ⟨d, had, hdc⟩ := h
    obtain ⟨b, hdb, hbc⟩ := ih hdc
    exact ⟨b, ⟨d, had, hdb⟩, hbc⟩

theorem Steps.map {α β : Type} {R : α → α → Prop} {S : β → β → Prop} {n : Nat} {a b : α}
    (f : α → β) (hf : ∀ a b, R a b → S (f a) (f b)) (h : Steps R n a b) :
    Steps S n (f a) (f b) := by
  induction n generalizing a with
  | zero =>
    cases h
    rfl
  | succ n ih =>
    obtain ⟨d, had, hdb⟩ := h
    exact ⟨f d, hf a d had, ih hdb⟩

theorem FindsAll.times {step : Nat → Outcome → List Outcome}
    (hOnly : ∀ i, FindsOnly text (step i) R) (hAll : ∀ i, FindsAll text (step i) F) (n : Nat) :
    FindsAll text (Pattern.times step n) (Steps F n) := by
  induction n with
  | zero =>
    rintro o ho j rfl
    exact ⟨o, List.mem_singleton_self o, rfl⟩
  | succ n ih =>
    intro o ho j hSteps
    rw [times_succ]
    obtain ⟨m, hFirst, _, hLast, rfl⟩ := hSteps.split
    exact (FindsAll.follow (FindsOnly.times hOnly n) ih (hAll n)) o ho _ ⟨m, hFirst, hLast⟩

end Sequences

/-! ### Repetitions -/

/-- If every turn keeps an invariant of the marks and of all that has been found, and deals with its
outcome for good, then the turns of several outcomes keep it and deal with all of them. -/
theorem flatMapM_invariant (onward : Outcome → StateM Marks (List Outcome))
    {Inv : Marks → List Outcome → Prop} (Done : Outcome → List Outcome → Prop)
    (hDone : ∀ o found more, Done o found → Done o (found ++ more)) {os : List Outcome}
    (hTurn : ∀ o ∈ os, ∀ s found, Inv s found → Inv (onward o s).2 (found ++ (onward o s).1) ∧
      Done o (found ++ (onward o s).1))
    {s : Marks} {found : List Outcome} (hInv : Inv s found) :
    Inv (os.flatMapM onward s).2 (found ++ (os.flatMapM onward s).1) ∧
      ∀ o ∈ os, Done o (found ++ (os.flatMapM onward s).1) := by
  induction os generalizing s found with
  | nil =>
    have hEmpty : ([] : List Outcome).flatMapM onward s = ([], s) := rfl
    rw [hEmpty, List.append_nil]
    exact ⟨hInv, fun _ h => nomatch h⟩
  | cons o os ih =>
    obtain ⟨hFirst, hHere⟩ := hTurn o List.mem_cons_self s found hInv
    obtain ⟨hRest, hOthers⟩ := ih (fun x hx => hTurn x (List.mem_cons_of_mem o hx)) hFirst
    rw [flatMapM_cons, ← List.append_assoc]
    refine ⟨hRest, fun x hx => ?_⟩
    rcases List.mem_cons.mp hx with rfl | hx
    · exact hDone _ _ _ hHere
    · exact hOthers x hx

section Bounded

variable {R : Stage → Stage → Prop} {F : Nat → Nat → Prop} {step : Nat → Outcome → List Outcome}
  {more : Nat}

/-- Everything up to `left` steps from a place has been found. -/
def DoneUpTo (F : Nat → Nat → Prop) (left i : Nat) (found : List Outcome) : Prop :=
  ∀ count ≤ left, ∀ j, Steps F count i j → Found found j

/-- The marks with fewer than `left` rounds behind them stand for what has been done, and the others
were there before. -/
structure Bookkeeping (F : Nat → Nat → Prop) (more left : Nat) (before s : Marks)
    (found : List Outcome) : Prop where
  done : ∀ i l, l < left → s.contains (i * more + l) = true → DoneUpTo F (l + 1) i found
  kept : ∀ i l, left ≤ l → l < more → s.contains (i * more + l) = true →
    before.contains (i * more + l) = true

theorem DoneUpTo.append {left i : Nat} {found : List Outcome} (h : DoneUpTo F left i found)
    (others : List Outcome) : DoneUpTo F left i (found ++ others) :=
  fun count hCount j hSteps => (h count hCount j hSteps).append_left others

theorem mark_inj {i i' l l' : Nat} (hl : l < more) (hl' : l' < more)
    (h : i * more + l = i' * more + l') : i = i' ∧ l = l' := by
  have hPos : 0 < more := by omega
  have hDiv := congrArg (· / more) h
  have hMod := congrArg (· % more) h
  simp only [Nat.mul_comm _ more, Nat.mul_add_div hPos, Nat.mul_add_mod, Nat.div_eq_of_lt hl,
    Nat.div_eq_of_lt hl', Nat.mod_eq_of_lt hl, Nat.mod_eq_of_lt hl', Nat.add_zero] at hDiv hMod
  exact ⟨hDiv, hMod⟩

/-- Nothing is missed by not trying a round again that was tried from the same place: what comes of
it has been found, because only rounds with more steps left are still open. -/
theorem upTo_bookkeeping {gate : Nat → Outcome → Option Outcome} {greedy : Bool}
    (hGate : ∀ l o, gate l o = some o) (hOnly : ∀ i, FindsOnly text (step i) R)
    (hAll : ∀ i, FindsAll text (step i) F) {left : Nat} (hLeft : left ≤ more) {o : Outcome}
    (ho : o.InText text) {before s : Marks} {found : List Outcome}
    (h : Bookkeeping F more left before s found) :
    Bookkeeping F more left before (upTo gate step greedy more left o s).2
        (found ++ (upTo gate step greedy more left o s).1) ∧
      DoneUpTo F left o.spot.index (found ++ (upTo gate step greedy more left o s).1) := by
  induction left generalizing o before s found with
  | zero =>
    have hStop : upTo gate step greedy more 0 o s = ([o], s) := rfl
    rw [hStop]
    refine ⟨⟨fun i l hl => absurd hl (Nat.not_lt_zero l), h.kept⟩, ?_⟩
    intro count hCount j hSteps
    cases Nat.le_zero.mp hCount
    cases hSteps
    exact ⟨o, List.mem_append_right _ List.mem_cons_self, rfl⟩
  | succ left ih =>
    rw [upTo_succ, hGate]
    split
    case isTrue hMarked =>
      simp only [List.append_nil]
      exact ⟨h, h.done _ left (Nat.lt_succ_self left) hMarked⟩
    case isFalse hFresh =>
      dsimp only
      set mark := o.spot.index * more + left with hMark
      set rest := (step left o).flatMapM (upTo gate step greedy more left) (s.insert mark)
      -- The new mark belongs to a round that is open, so it does not matter inside.
      have hInner : Bookkeeping F more left (s.insert mark) (s.insert mark) found := by
        refine ⟨fun i l hl hMem => ?_, fun _ _ _ _ hMem => hMem⟩
        rw [Marks.contains_insert, Bool.or_eq_true, decide_eq_true_eq] at hMem
        rcases hMem with hMem | hEq
        · exact h.done i l (by omega) hMem
        · have hSame := (mark_inj (by omega) (by omega) hEq).2
          omega
      obtain ⟨hAfter, hChildren⟩ := flatMapM_invariant _
        (fun x found => DoneUpTo F left x.spot.index found)
        (fun x found others hx => hx.append others)
        (fun x hx s found hInv => ih (by omega) (hOnly left o ho x hx).1 hInv) hInner
      have hHere : DoneUpTo F (left + 1) o.spot.index (found ++ orStop greedy o rest.1) := by
        intro count hCount j hSteps
        cases count with
        | zero =>
          cases hSteps
          exact ⟨o, List.mem_append_right _ (mem_orStop.mpr (.inl rfl)), rfl⟩
        | succ count =>
          obtain ⟨m, hFirst, hRest⟩ := hSteps
          obtain ⟨x, hx, rfl⟩ := hAll left o ho m hFirst
          exact (hChildren x hx count (by omega) j hRest).orStop greedy o
      refine ⟨⟨fun i l hl hMem => ?_, fun i l hl hMore hMem => ?_⟩, hHere⟩
      · by_cases hLevel : l < left
        · exact fun count hCount j hSteps =>
            (hAfter.done i l hLevel hMem count hCount j hSteps).orStop greedy o
        · have hEq : l = left := by omega
          subst hEq
          have hOld := hAfter.kept i l (Nat.le_refl l) (by omega) hMem
          rw [Marks.contains_insert, Bool.or_eq_true, decide_eq_true_eq] at hOld
          rcases hOld with hOld | hEq
          · exact (h.done i l (by omega) hOld).append _
          · rw [← (mark_inj (by omega) (by omega) hEq).1]
            exact hHere
      · have hOld := hAfter.kept i l (by omega) hMore hMem
        rw [Marks.contains_insert, Bool.or_eq_true, decide_eq_true_eq] at hOld
        rcases hOld with hOld | hEq
        · exact h.kept i l hl hMore hOld
        · have hSame := (mark_inj (by omega) hMore hEq).2
          omega

end Bounded

section Open

variable {R : Stage → Stage → Prop} {F : Nat → Nat → Prop} {step : Outcome → List Outcome}

/-- Everything that any number of steps leads to has been found. -/
def DoneAlways (F : Nat → Nat → Prop) (i : Nat) (found : List Outcome) : Prop :=
  ∀ count j, Steps F count i j → Found found j

/-- The marks from a place on stand for what has been done, and the others were there before. -/
structure BookkeepingFrom (F : Nat → Nat → Prop) (start : Nat) (before s : Marks)
    (found : List Outcome) : Prop where
  done : ∀ i, start ≤ i → s.contains i = true → DoneAlways F i found
  kept : ∀ i, i < start → s.contains i = true → before.contains i = true

theorem DoneAlways.append {i : Nat} {found : List Outcome} (h : DoneAlways F i found)
    (others : List Outcome) : DoneAlways F i (found ++ others) :=
  fun count j hSteps => (h count j hSteps).append_left others

/-- The same for steps that take a character each: only places further back are still open. -/
theorem rounds_bookkeeping {gate : Outcome → Option Outcome} {greedy : Bool}
    (hGate : ∀ o, gate o = some o) (hOnly : FindsOnly text step R)
    (hLonger : ∀ a b, R a b → a.1 < b.1) (hAll : FindsAll text step F) {fuel start : Nat}
    {o : Outcome} (ho : o.InText text) (hFuel : text.length < o.spot.index + fuel)
    (hStart : start ≤ o.spot.index) {before s : Marks} {found : List Outcome}
    (h : BookkeepingFrom F start before s found) :
    BookkeepingFrom F start before (rounds gate step greedy fuel o s).2
        (found ++ (rounds gate step greedy fuel o s).1) ∧
      DoneAlways F o.spot.index (found ++ (rounds gate step greedy fuel o s).1) := by
  induction fuel generalizing o start before s found with
  | zero =>
    have hEnd := ho.2
    omega
  | succ fuel ih =>
    rw [rounds_succ, hGate]
    split
    case isTrue hMarked =>
      simp only [List.append_nil]
      exact ⟨h, h.done _ hStart hMarked⟩
    case isFalse hFresh =>
      dsimp only
      set rest := (step o).flatMapM (rounds gate step greedy fuel) (s.insert o.spot.index)
      have hInner : BookkeepingFrom F (o.spot.index + 1) (s.insert o.spot.index)
          (s.insert o.spot.index) found := by
        refine ⟨fun i hi hMem => ?_, fun _ _ hMem => hMem⟩
        rw [Marks.contains_insert, Bool.or_eq_true, decide_eq_true_eq] at hMem
        rcases hMem with hMem | hEq
        · exact h.done i (by omega) hMem
        · omega
      obtain ⟨hAfter, hChildren⟩ := flatMapM_invariant _
        (fun x found => DoneAlways F x.spot.index found)
        (fun x found others hx => hx.append others)
        (fun x hx s found hInv => by
          obtain ⟨hIn, hStep⟩ := hOnly o ho x hx
          have hBehind : o.spot.index < x.spot.index := hLonger _ _ hStep
          exact ih hIn (by omega) hBehind hInv) hInner
      have hHere : DoneAlways F o.spot.index (found ++ orStop greedy o rest.1) := by
        intro count j hSteps
        cases count with
        | zero =>
          cases hSteps
          exact ⟨o, List.mem_append_right _ (mem_orStop.mpr (.inl rfl)), rfl⟩
        | succ count =>
          obtain ⟨m, hFirst, hRest⟩ := hSteps
          obtain ⟨x, hx, rfl⟩ := hAll o ho m hFirst
          exact (hChildren x hx count j hRest).orStop greedy o
      refine ⟨⟨fun i hi hMem => ?_, fun i hi hMem => ?_⟩, hHere⟩
      · by_cases hBehind : o.spot.index + 1 ≤ i
        · exact fun count j hSteps => (hAfter.done i hBehind hMem count j hSteps).orStop greedy o
        · have hOld := hAfter.kept i (by omega) hMem
          rw [Marks.contains_insert, Bool.or_eq_true, decide_eq_true_eq] at hOld
          rcases hOld with hOld | rfl
          · exact (h.done i hi hOld).append _
          · exact hHere
      · have hOld := hAfter.kept i (by omega) hMem
        rw [Marks.contains_insert, Bool.or_eq_true, decide_eq_true_eq] at hOld
        rcases hOld with hOld | rfl
        · exact h.kept i hi hOld
        · omega

end Open

section Repeats

variable {R : Stage → Stage → Prop} {F : Nat → Nat → Prop} {part : Attempt}
  (hOnly : FindsOnly text (part none) R) (hAll : FindsAll text (part none) F)
include hOnly hAll

theorem findsAll_boundedRepeat (least more : Nat) (greedy : Bool) :
    FindsAll text (boundedRepeat part least more greedy none) fun i j =>
      ∃ count, least ≤ count ∧ count ≤ least + more ∧ Steps F count i j := by
  rintro o ho j ⟨count, hLeast, hMost, hSteps⟩
  obtain ⟨others, rfl⟩ := Nat.exists_eq_add_of_le hLeast
  obtain ⟨m, hFirst, hRest⟩ := hSteps.split
  obtain ⟨mid, hMid, rfl⟩ := FindsAll.times (fun _ => hOnly) (fun _ => hAll) least o ho m hFirst
  have hNone : Bookkeeping F more more .empty .empty [] :=
    ⟨fun i l _ h => by simp at h, fun _ _ _ _ h => h⟩
  have hTurns := flatMapM_invariant
    (upTo (fun i => Outcome.pass? (within (2 * i + 2) none))
      (fun i => part (within (2 * (least + i) + 3) none)) greedy more more)
    (fun x found => DoneUpTo F more x.spot.index found)
    (fun x found others hx => hx.append others)
    (fun x hx s found hInv => upTo_bookkeeping (fun _ _ => rfl) (fun _ => hOnly) (fun _ => hAll)
      (Nat.le_refl more) (FindsOnly.times (fun _ => hOnly) least o ho x hx).1 hInv) hNone
  exact (hTurns.2 mid hMid others (by omega) j hRest).preferred

theorem findsAll_openRepeat (hLonger : ∀ a b, R a b → a.1 < b.1) (least : Nat) (greedy : Bool) :
    FindsAll text (openRepeat part true least greedy none) fun i j =>
      ∃ count, least ≤ count ∧ Steps F count i j := by
  rintro o ho j ⟨count, hLeast, hSteps⟩
  obtain ⟨others, rfl⟩ := Nat.exists_eq_add_of_le hLeast
  obtain ⟨m, hFirst, hRest⟩ := hSteps.split
  obtain ⟨mid, hMid, rfl⟩ := FindsAll.times (fun _ => hOnly) (fun _ => hAll) least o ho m hFirst
  have hNone : BookkeepingFrom F 0 .empty .empty [] :=
    ⟨fun i _ h => by simp at h, fun _ _ h => h⟩
  have hTurns := flatMapM_invariant
    (rounds (Outcome.pass? (within 1 none)) (part (within (2 * (least - 1) + 3) none))
      greedy (o.spot.rest.length + 2))
    (fun x found => DoneAlways F x.spot.index found)
    (fun x found others hx => hx.append others)
    (fun x hx s found hInv => by
      obtain ⟨hIn, hStart⟩ := FindsOnly.times (fun _ => hOnly) least o ho x hx
      have hReach : o.spot.index + 0 * least ≤ x.spot.index :=
        hStart.length_le fun a b hab => Nat.le_of_lt (hLonger a b hab)
      have hLeft : o.spot.rest.length = text.length - o.spot.index := by
        rw [ho.rest_eq, List.length_drop]
      exact rounds_bookkeeping (fun _ => rfl) hOnly hLonger hAll hIn (by omega) (Nat.zero_le _)
        hInv) hNone
  have hNoStart : ¬(least = 0 ∧ !true) := by simp
  simp only [openRepeat, if_neg hNoStart]
  exact (hTurns.2 mid hMid others j hRest).preferred

end Repeats

/-! ### Parts -/

/-- Every part that is repeated without bound takes a character each time. -/
def Node.Tame : Node → Prop
  | .capture _ _ n => n.Tame
  | .seq a b | .alt a b => a.Tame ∧ b.Tame
  | .iterate n _ most _ => n.Tame ∧ (most = none → n.advances = true)
  | _ => True

theorem takeText?_of_prefix {word : List Char} {o : Outcome} (h : word <+: o.spot.rest) :
    ∃ o', o.takeText? word = some o' ∧ o'.spot.index = o.spot.index + word.length := by
  induction word generalizing o with
  | nil => exact ⟨o, rfl, rfl⟩
  | cons c word ih =>
    obtain ⟨rest, hRest⟩ := h
    have hNext : word <+: (o.take c (word ++ rest)).spot.rest := List.prefix_append word rest
    obtain ⟨o', hTake, hEnd⟩ := ih hNext
    refine ⟨o', ?_, ?_⟩
    · rw [Outcome.takeText?, ← hRest]
      simp [hTake]
    · rw [hEnd, List.length_cons, Nat.add_comm word.length, ← Nat.add_assoc]
      rfl

/-- Wherever a way of a tame part leads, an outcome is found. Induction on the part. -/
theorem findsAll_outcomes {n : Node} (h : n.Tame) :
    FindsAll text (n.outcomes none) (n.Leads text) := by
  induction n with
  | empty =>
    rintro o ho j ⟨kept, kept', hWay⟩
    cases hWay
    exact ⟨o, List.mem_singleton_self o, rfl⟩
  | literal word =>
    rintro o ho j ⟨kept, kept', hPrefix, hWay⟩
    cases hWay
    obtain ⟨o', hTake, hEnd⟩ := takeText?_of_prefix (ho.rest_eq ▸ hPrefix)
    exact ⟨o', Option.mem_toList.mpr hTake, hEnd⟩
  | one s =>
    rintro o ho j ⟨kept, kept', c, hChar, hc, hWay⟩
    cases hWay
    have hRest : o.spot.rest = c :: text.drop (o.spot.index + 1) := by
      obtain ⟨hLt, hGet⟩ := List.getElem?_eq_some_iff.mp hChar
      rw [ho.rest_eq, List.drop_eq_getElem_cons hLt]
      exact congrArg (· :: _) hGet
    refine ⟨o.take c (text.drop (o.spot.index + 1)), ?_, rfl⟩
    rw [Node.outcomes, hRest]
    simp [hc]
  | «at» c =>
    rintro o ho j ⟨kept, kept', hc, hWay⟩
    cases hWay
    refine ⟨o, ?_, rfl⟩
    have hHere : o.spot.meets c = true := ho.1 ▸ hc
    simp [Node.outcomes, hHere]
  | capture index name n ih =>
    rintro o ho j ⟨kept, kept', inner, hWay, -⟩
    obtain ⟨x, hx, hEnd⟩ := ih h o ho j ⟨kept, inner, hWay⟩
    refine ⟨x.keep o.spot name, List.mem_map_of_mem hx, ?_⟩
    rw [(ho.keep name x).1, hEnd]
  | seq a b iha ihb =>
    rintro o ho j ⟨kept, kept', m, hFirst, hSecond⟩
    exact FindsAll.follow (findsOnly_outcomes a none) (iha h.1) (ihb h.2) o ho j
      ⟨m.1, ⟨kept, m.2, hFirst⟩, m.2, kept', hSecond⟩
  | alt a b iha ihb =>
    rintro o ho j ⟨kept, kept', hWay⟩
    have hFound : Found (a.outcomes none o ++ b.outcomes none o) j := by
      rcases hWay with hWay | hWay
      · exact (iha h.1 o ho j ⟨kept, kept', hWay⟩).append_left _
      · obtain ⟨x, hx, hEnd⟩ := ihb h.2 o ho j ⟨kept, kept', hWay⟩
        exact ⟨x, List.mem_append_right _ hx, hEnd⟩
    exact hFound.preferred
  | iterate n least most greedy ih =>
    rintro o ho j ⟨kept, kept', count, hLeast, hMost, hSteps⟩
    have hSteps : Steps (n.Leads text) count o.spot.index j :=
      hSteps.map Prod.fst fun a b hab => ⟨a.2, b.2, hab⟩
    have hOnly : FindsOnly text (n.outcomes none) (n.Way text) := findsOnly_outcomes n none
    cases most with
    | some most =>
      have hBound := hMost most rfl
      exact findsAll_boundedRepeat hOnly (ih h.1) least (most - least) greedy o ho j
        ⟨count, hLeast, by omega, hSteps⟩
    | none =>
      have hAdvances := h.2 rfl
      have hFound := findsAll_openRepeat hOnly (ih h.1)
        (fun a b hab => hab.lt_of_advances hAdvances) least greedy o ho j ⟨count, hLeast, hSteps⟩
      simpa [Node.outcomes, hAdvances] using hFound

/-- A tame pattern is found in a text exactly if there is a way of it through some stretch of the
text. -/
theorem search_isSome_iff {p : Worklist.Pattern} (h : p.body.Tame) :
    (p.search text).isSome ↔ ∃ i ≤ text.length, ∃ j, p.body.Leads text i j := by
  constructor
  · intro hSome
    obtain ⟨kept, hSearch⟩ := Option.isSome_iff_exists.mp hSome
    obtain ⟨i, hi, j, hWay⟩ := way_of_search hSearch
    exact ⟨i, hi, j, [], kept, hWay⟩
  · rintro ⟨i, hi, j, hLeads⟩
    by_contra hNone
    have hNone := Option.not_isSome_iff_eq_none.mp hNone
    have hOutcomes := outcomesAt_eq_nil_of_search hNone hi
    obtain ⟨o, ho, -⟩ := findsAll_outcomes h ⟨Spot.inText text i, [], []⟩ ⟨rfl, hi⟩ j hLeads
    rw [← Node.outcomesAt, hOutcomes] at ho
    cases ho

end Worklist.Pattern
