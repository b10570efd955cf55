import Mathlib.Data.List.Induction
import Worklist.Proofs.Pattern.Matching

/-!
# Visits of named parts

A trip of a pattern through a text visits named parts, some more than once and some not at all. What
is kept under a name is the text that was passed on the last visit of the part with this name, and
under the name of a part that was not visited nothing is kept.
-/

namespace Worklist.Pattern

/-- A named part is passed from one place of a text to another. -/
structure Visit where
  name : String
  start : Nat
  stop : Nat

/-- The text that is passed. -/
def Visit.word (text : List Char) (v : Visit) : List Char :=
  (text.drop v.start).take (v.stop - v.start)

/-- The last visit of the part with a name. -/
def lastVisit? (name : String) (vs : List Visit) : Option Visit :=
  vs.reverse.find? (·.name == name)

/-- Trips one after the other, with the visits of all of them. -/
def Legs (T : Nat → Nat → List Visit → Prop) : Nat → Nat → Nat → List Visit → Prop
  | 0, i, j, vs => j = i ∧ vs = []
  | n + 1, i, k, vs => ∃ j us ws, T i j us ∧ Legs T n j k ws ∧ vs = us ++ ws

/-- The part can lead from one place to the other with these visits, in the order of their ends. -/
def Node.Trip (text : List Char) : Node → Nat → Nat → List Visit → Prop
  | .empty, i, j, vs => j = i ∧ vs = []
  | .literal word, i, j, vs => (word <+: text.drop i ∧ j = i + word.length) ∧ vs = []
  | .one s, i, j, vs => ((∃ c, text[i]? = some c ∧ s.contains c = true) ∧ j = i + 1) ∧ vs = []
  | .at c, i, j, vs => ((Spot.inText text i).meets c = true ∧ j = i) ∧ vs = []
  | .capture _ name n, i, j, vs =>
    ∃ us, n.Trip text i j us ∧ vs = us ++ (name.map fun name => ⟨name, i, j⟩).toList
  | .seq x y, i, k, vs => ∃ j us ws, x.Trip text i j us ∧ y.Trip text j k ws ∧ vs = us ++ ws
  | .alt x y, i, j, vs => x.Trip text i j vs ∨ y.Trip text i j vs
  | .iterate n least most _, i, j, vs => ∃ count, least ≤ count ∧
      (∀ m ∈ most, count ≤ max least m) ∧ Legs (n.Trip text) count i j vs

/-- The names of the parts of a part. -/
def Node.names : Node → List String
  | .capture _ name n => n.names ++ name.toList
  | .seq x y | .alt x y => x.names ++ y.names
  | .iterate n _ _ _ => n.names
  | _ => []

/-- Keeps what is passed on each visit. -/
def Captures.keepVisits (text : List Char) (vs : List Visit) (kept : Captures) : Captures :=
  vs.foldl (fun kept v => kept.keep v.name (v.word text)) kept

variable {text : List Char} {n : Node} {i j : Nat} {vs us ws : List Visit} {kept : Captures}

/-! ### What is kept -/

namespace Captures

variable {name g : String} {word : List Char}

theorem lookup_cons_eq (pair : String × List Char) (kept : Captures) :
    List.lookup g (pair :: kept) = if g = pair.1 then some pair.2 else kept.lookup g := by
  rw [List.lookup_cons]
  by_cases h : g = pair.1
  · simp [h]
  · rw [beq_false_of_ne h, if_neg h]

theorem lookup_keep (name g : String) (word : List Char) (kept : Captures) :
    (kept.keep name word).lookup g = if g = name then some word else kept.lookup g := by
  induction kept with
  | nil => exact lookup_cons_eq (name, word) []
  | cons pair kept ih =>
    rw [keep]
    by_cases hName : pair.1 = name
    · rw [if_pos hName, lookup_cons_eq, lookup_cons_eq, hName]
      split <;> rfl
    · rw [if_neg hName, lookup_cons_eq, lookup_cons_eq, ih]
      by_cases hg : g = pair.1
      · have hOther : g ≠ name := hg ▸ hName
        rw [if_pos hg, if_neg hOther, if_pos hg]
      · rw [if_neg hg, if_neg hg]

theorem mem_names_keep : g ∈ (kept.keep name word).map (·.1) ↔ g = name ∨ g ∈ kept.map (·.1) := by
  induction kept with
  | nil => simp [keep]
  | cons pair kept ih =>
    rw [keep]
    by_cases hName : pair.1 = name
    · simp [hName]
    · rw [if_neg hName, List.map_cons, List.mem_cons, ih, List.map_cons, List.mem_cons]
      exact or_left_comm

theorem nodup_keep (h : (kept.map (·.1)).Nodup) : ((kept.keep name word).map (·.1)).Nodup := by
  induction kept with
  | nil => simp [keep]
  | cons pair kept ih =>
    obtain ⟨hFresh, hRest⟩ := List.nodup_cons.mp h
    rw [keep]
    by_cases hName : pair.1 = name
    · rw [if_pos hName, List.map_cons, ← hName]
      exact h
    · rw [if_neg hName, List.map_cons]
      refine List.nodup_cons.mpr ⟨?_, ih hRest⟩
      intro hMem
      rcases mem_names_keep.mp hMem with hSame | hMem
      · exact hName hSame
      · exact hFresh hMem

theorem keepVisits_append :
    kept.keepVisits text (us ++ ws) = (kept.keepVisits text us).keepVisits text ws :=
  List.foldl_append

theorem keepVisits_concat (v : Visit) :
    kept.keepVisits text (vs ++ [v]) = (kept.keepVisits text vs).keep v.name (v.word text) :=
  keepVisits_append

/-- What is kept is the text of the last visit. -/
theorem lookup_keepVisits :
    (keepVisits text vs []).lookup g = (lastVisit? g vs).map (Visit.word text) := by
  induction vs using List.reverseRecOn with
  | nil => rfl
  | append_singleton vs v ih =>
    rw [keepVisits_concat, lookup_keep, ih, lastVisit?, lastVisit?, List.reverse_concat,
      List.find?_cons]
    by_cases h : g = v.name
    · simp [h]
    · rw [if_neg h, beq_false_of_ne (Ne.symm h)]

theorem nodup_keepVisits : ((keepVisits text vs []).map (·.1)).Nodup := by
  induction vs using List.reverseRecOn with
  | nil => exact List.nodup_nil
  | append_singleton vs v ih =>
    rw [keepVisits_concat]
    exact nodup_keep ih

end Captures

/-! ### Trips -/

/-- The ways of a part are its trips, with what is kept on the visits. -/
def Keeps (text : List Char) (R : Stage → Stage → Prop) (T : Nat → Nat → List Visit → Prop) :
    Prop :=
  ∀ i j kept kept', R (i, kept) (j, kept') ↔ ∃ vs, T i j vs ∧ kept' = kept.keepVisits text vs

section

variable {R S : Stage → Stage → Prop} {T U : Nat → Nat → List Visit → Prop}

theorem Keeps.andThen (hR : Keeps text R T) (hS : Keeps text S U) :
    Keeps text (fun a c => ∃ b, R a b ∧ S b c)
      fun i k vs => ∃ j us ws, T i j us ∧ U j k ws ∧ vs = us ++ ws := by
  intro i k kept kept'
  constructor
  · rintro ⟨⟨j, mid⟩, hFirst, hSecond⟩
    obtain ⟨us, hus, rfl⟩ := (hR i j kept mid).mp hFirst
    obtain ⟨ws, hws, rfl⟩ := (hS j k _ kept').mp hSecond
    exact ⟨us ++ ws, ⟨j, us, ws, hus, hws, rfl⟩, Captures.keepVisits_append.symm⟩
  · rintro ⟨_, ⟨j, us, ws, hus, hws, rfl⟩, rfl⟩
    refine ⟨(j, kept.keepVisits text us), (hR i j kept _).mpr ⟨us, hus, rfl⟩, ?_⟩
    exact (hS j k _ _).mpr ⟨ws, hws, Captures.keepVisits_append⟩

theorem Keeps.steps (hR : Keeps text R T) (count : Nat) :
    Keeps text (Steps R count) (Legs T count) := by
  induction count with
  | zero =>
    intro i j kept kept'
    constructor
    · intro h
      cases h
      exact ⟨[], ⟨rfl, rfl⟩, rfl⟩
    · rintro ⟨_, ⟨rfl, rfl⟩, rfl⟩
      rfl
  | succ count ih => exact hR.andThen ih

/-- A part that visits nothing keeps what was kept. -/
theorem keeps_of_no_visit {P : Nat → Nat → Prop}
    (h : ∀ i j kept kept', R (i, kept) (j, kept') ↔ P i j ∧ kept' = kept) :
    Keeps text R fun i j vs => P i j ∧ vs = [] := by
  intro i j kept kept'
  rw [h]
  constructor
  · rintro ⟨hP, rfl⟩
    exact ⟨[], ⟨hP, rfl⟩, rfl⟩
  · rintro ⟨_, ⟨hP, rfl⟩, rfl⟩
    exact ⟨hP, rfl⟩

end

theorem keepUnder_eq_keepVisits (name : Option String) :
    kept.keepUnder name ((text.drop i).take (j - i)) =
      kept.keepVisits text (name.map fun name => ⟨name, i, j⟩).toList := by
  cases name with
  | none => rfl
  | some name => rfl

/-- Induction on the part. -/
theorem Node.keeps_trip (n : Node) : Keeps text (n.Way text) (n.Trip text) := by
  induction n with
  | empty =>
    apply keeps_of_no_visit
    intro i j kept kept'
    rw [Node.Way, Prod.mk.injEq]
  | literal word =>
    apply keeps_of_no_visit
    intro i j kept kept'
    rw [Node.Way, Prod.mk.injEq, and_assoc]
  | one s =>
    apply keeps_of_no_visit
    intro i j kept kept'
    simp only [Node.Way, Prod.mk.injEq, ← and_assoc, exists_and_right]
  | «at» c =>
    apply keeps_of_no_visit
    intro i j kept kept'
    rw [Node.Way, Prod.mk.injEq, and_assoc]
  | capture index name n ih =>
    intro i j kept kept'
    constructor
    · rintro ⟨inner, hWay, hKept⟩
      obtain ⟨us, hus, rfl⟩ := (ih i j kept inner).mp hWay
      refine ⟨_, ⟨us, hus, rfl⟩, hKept.trans ?_⟩
      rw [Captures.keepVisits_append]
      exact keepUnder_eq_keepVisits name
    · rintro ⟨_, ⟨us, hus, rfl⟩, rfl⟩
      refine ⟨kept.keepVisits text us, (ih i j kept _).mpr ⟨us, hus, rfl⟩, ?_⟩
      rw [Captures.keepVisits_append]
      exact (keepUnder_eq_keepVisits name).symm
  | seq x y ihx ihy => exact ihx.andThen ihy
  | alt x y ihx ihy =>
    intro i j kept kept'
    rw [Node.Way, ihx, ihy, ← exists_or]
    apply exists_congr
    intro vs
    rw [Node.Trip, or_and_right]
  | iterate n least most greedy ih =>
    intro i j kept kept'
    constructor
    · rintro ⟨count, hLeast, hMost, hSteps⟩
      obtain ⟨vs, hLegs, hKept⟩ := (ih.steps count i j kept kept').mp hSteps
      exact ⟨vs, ⟨count, hLeast, hMost, hLegs⟩, hKept⟩
    · rintro ⟨vs, ⟨count, hLeast, hMost, hLegs⟩, hKept⟩
      exact ⟨count, hLeast, hMost, (ih.steps count i j kept kept').mpr ⟨vs, hLegs, hKept⟩⟩

theorem Legs.visits {T : Nat → Nat → List Visit → Prop} {P : Visit → Prop}
    (hT : ∀ i j vs, T i j vs → ∀ v ∈ vs, P v) {count : Nat} (h : Legs T count i j vs) :
    ∀ v ∈ vs, P v := by
  induction count generalizing i vs with
  | zero =>
    obtain ⟨-, rfl⟩ := h
    intro v hv
    cases hv
  | succ count ih =>
    obtain ⟨m, us, ws, hFirst, hRest, rfl⟩ := h
    intro v hv
    rcases List.mem_append.mp hv with hv | hv
    · exact hT i m us hFirst v hv
    · exact ih hRest v hv

/-- Only parts of the part are visited. Induction on the part. -/
theorem Node.Trip.names (h : n.Trip text i j vs) : ∀ v ∈ vs, v.name ∈ n.names := by
  induction n generalizing i j vs with
  | empty | literal _ | one _ | «at» _ =>
    obtain ⟨-, rfl⟩ := h
    simp
  | capture index name n ih =>
    obtain ⟨us, hus, rfl⟩ := h
    intro v hv
    apply List.mem_append.mpr
    rcases List.mem_append.mp hv with hv | hv
    · exact .inl (ih hus v hv)
    · obtain ⟨g, hg, rfl⟩ := Option.map_eq_some_iff.mp (Option.mem_toList.mp hv)
      exact .inr (Option.mem_toList.mpr hg)
  | seq x y ihx ihy =>
    obtain ⟨m, us, ws, hus, hws, rfl⟩ := h
    intro v hv
    apply List.mem_append.mpr
    rcases List.mem_append.mp hv with hv | hv
    · exact .inl (ihx hus v hv)
    · exact .inr (ihy hws v hv)
  | alt x y ihx ihy =>
    intro v hv
    apply List.mem_append.mpr
    rcases h with h | h
    · exact .inl (ihx h v hv)
    · exact .inr (ihy h v hv)
  | iterate n least most greedy ih =>
    obtain ⟨count, -, -, hLegs⟩ := h
    exact hLegs.visits fun i j vs => ih

/-! ### Finding -/

/-- What a search finds: a trip of the pattern from the first place of the text where there is one
that the matcher takes, and on it the preferred one. -/
structure Finds (p : Worklist.Pattern) (text : List Char) (i j : Nat) (vs : List Visit) : Prop where
  trip : p.body.Trip text i j vs
  takes : ∃ o, p.body.Takes text i o ∧ o.stage = (j, Captures.keepVisits text vs [])

theorem search_eq_some_iff_finds {p : Worklist.Pattern} :
    p.search text = some kept ↔
      ∃ i j vs, Finds p text i j vs ∧ kept = Captures.keepVisits text vs [] := by
  rw [search_eq_some_iff]
  constructor
  · rintro ⟨i, o, hTakes, rfl⟩
    obtain ⟨vs, hTrip, hKept⟩ := (p.body.keeps_trip i o.spot.index [] o.captures).mp hTakes.way
    exact ⟨i, o.spot.index, vs, ⟨hTrip, o, hTakes, by rw [← hKept]; rfl⟩, hKept⟩
  · rintro ⟨i, j, vs, hFinds, rfl⟩
    obtain ⟨o, hTakes, hStage⟩ := hFinds.takes
    exact ⟨i, o, hTakes, congrArg Prod.snd hStage⟩

/-- A tame pattern is found in a text if there is a trip of it through some stretch of the text. -/
theorem exists_finds_of_tame {p : Worklist.Pattern} (h : p.body.Tame) (hi : i ≤ text.length)
    (hTrip : p.body.Trip text i j vs) : ∃ i j vs, Finds p text i j vs := by
  have hWay : p.body.Way text (i, []) (j, Captures.keepVisits text vs []) :=
    (p.body.keeps_trip i j [] _).mpr ⟨vs, hTrip, rfl⟩
  have hSome : (p.search text).isSome := (search_isSome_iff h).mpr ⟨i, hi, j, [], _, hWay⟩
  obtain ⟨kept, hSearch⟩ := Option.isSome_iff_exists.mp hSome
  obtain ⟨i, j, vs, hFinds, -⟩ := search_eq_some_iff_finds.mp hSearch
  exact ⟨i, j, vs, hFinds⟩

end Worklist.Pattern
