import Mathlib.Data.List.Nodup
import Worklist.Proofs.Uuid
import Worklist.Tracker.Dataset

/-!
# Walking the iterations of a space

An iteration lies below an identifier if its links to the iteration above lead there. The walk that
looks for the backlog iterations comes to an end whatever the links are, also if they run in
circles. What it has found by then is the topmost iteration and iterations below it that are not
running. It finds all of these if no two iterations of the space share an identifier; otherwise one
iteration may stand in for another.
-/

namespace Worklist.Tracker

/-- The iteration lies below the one with the identifier `root`: its link leads there, or to an
iteration that lies below it. -/
inductive Below (its : List Iteration) (root : String) : Iteration → Prop where
  | child {it : Iteration} : it ∈ its → it.parent = some root → Below its root it
  | descend {above it : Iteration} : Below its root above → it ∈ its →
      it.parent = some above.id → Below its root it

/-- The identifier is `root` itself or that of an iteration below. -/
def Reaches (its : List Iteration) (root id : String) : Prop :=
  id = root ∨ ∃ it, Below its root it ∧ it.id = id

variable {its : List Iteration} {root parent : String} {it : Iteration}

theorem Reaches.below (h : Reaches its root parent) (hMem : it ∈ its)
    (hParent : it.parent = some parent) : Below its root it := by
  rcases h with rfl | ⟨above, hAbove, rfl⟩
  · exact .child hMem hParent
  · exact .descend hAbove hMem hParent

theorem Below.mem (h : Below its root it) : it ∈ its := by
  cases h with
  | child hMem _ => exact hMem
  | descend _ hMem _ => exact hMem

namespace Dataset

namespace Walk

variable {w w' : Walk}

/-- The walk goes on to `w'`, in which nothing is pending. There is no bound on the rounds. -/
inductive EndsAt (its : List Iteration) : Walk → Walk → Prop where
  | done {w : Walk} : w.pending = [] → EndsAt its w w
  | round {w w' : Walk} {parent : String} {rest : List String} : w.pending = parent :: rest →
      EndsAt its (its.foldl (meet parent) { w with pending := rest }) w' → EndsAt its w w'

theorem EndsAt.pending_eq_nil (h : EndsAt its w w') : w'.pending = [] := by
  induction h with
  | done hDone => exact hDone
  | round _ _ ih => exact ih

/-- An iteration is passed by, or it is a child that was not met before and is taken in. -/
theorem meet_cases (parent : String) (w : Walk) (it : Iteration) :
    (meet parent w it = w ∧ (it.parent = some parent → it.id ∈ w.met)) ∨
      (it.parent = some parent ∧ it.id ∉ w.met ∧ meet parent w it =
        { found := if it.active then w.found else w.found ++ [it.id]
          met := it.id :: w.met
          pending := it.id :: w.pending }) := by
  unfold meet
  split
  · rename_i h
    exact .inr ⟨h.1, h.2, rfl⟩
  · rename_i h
    exact .inl ⟨rfl, fun hParent => by_contra fun hNew => h ⟨hParent, hNew⟩⟩

/-! ### The end of the walk -/

/-- The iterations that were not met. -/
def unmet (its : List Iteration) (w : Walk) : List Iteration :=
  its.filter fun it => it.id ∉ w.met

/-- What there is left to do: every pending iteration, and every one that may become pending. -/
def left (its : List Iteration) (w : Walk) : Nat :=
  w.pending.length + (unmet its w).length

theorem length_unmet_lt (hMem : it ∈ its) (hNew : it.id ∉ w.met) (found pending : List String) :
    (unmet its ⟨found, it.id :: w.met, pending⟩).length < (unmet its w).length := by
  have hFilter : unmet its ⟨found, it.id :: w.met, pending⟩ =
      (unmet its w).filter fun x => x.id ≠ it.id := by
    unfold unmet
    rw [List.filter_filter]
    refine List.filter_congr fun x _ => ?_
    simp
  rw [hFilter, List.length_filter_lt_length_iff_exists]
  exact ⟨it, List.mem_filter.mpr ⟨hMem, decide_eq_true hNew⟩, by simp⟩

theorem left_meet_le (w : Walk) (hMem : it ∈ its) : left its (meet parent w it) ≤ left its w := by
  rcases meet_cases parent w it with ⟨hSame, -⟩ | ⟨-, hNew, hMeet⟩
  · rw [hSame]
  · have hUnmet := length_unmet_lt hMem hNew
      (if it.active then w.found else w.found ++ [it.id]) (it.id :: w.pending)
    rw [hMeet]
    simp only [left, List.length_cons]
    omega

theorem left_foldl_meet_le (w : Walk) : left its (its.foldl (meet parent) w) ≤ left its w :=
  List.foldlRecOn its (meet parent) (motive := fun v => left its v ≤ left its w) le_rfl
    fun v hLe _ hMem => (left_meet_le v hMem).trans hLe

theorem left_of_pending_eq_cons {rest : List String} (h : w.pending = parent :: rest) :
    left its w = left its { w with pending := rest } + 1 := by
  simp only [left, h, List.length_cons]
  exact Nat.add_right_comm _ _ _

theorem endsAt_run {rounds : Nat} (h : left its w ≤ rounds) : EndsAt its w (run its rounds w) := by
  -- A round does one pending iteration, and an iteration that becomes pending was unmet before.
  induction rounds generalizing w with
  | zero =>
    refine .done (List.length_eq_zero_iff.mp ?_)
    unfold left at h
    omega
  | succ rounds ih =>
    unfold run
    split
    · rename_i hDone
      exact .done hDone
    · rename_i parent rest hPending
      refine .round hPending (ih ((left_foldl_meet_le _).trans ?_))
      rw [left_of_pending_eq_cons hPending] at h
      exact Nat.le_of_succ_le_succ h

theorem left_start_le (its : List Iteration) (root : String) :
    left its (start root) ≤ its.length + 1 := by
  have hUnmet : (unmet its (start root)).length ≤ its.length := List.length_filter_le _ _
  simp only [left, start, List.length_singleton] at hUnmet ⊢
  omega

/-! ### What has been found -/

/-- What is true of a walk from `root` at any time. -/
structure Sound (its : List Iteration) (root : String) (w : Walk) : Prop where
  found_eq : ∃ rest, w.found = root :: rest ∧
    ∀ id ∈ rest, ∃ it, Below its root it ∧ it.active = false ∧ it.id = id
  nodup : w.found.Nodup
  met_of_found : ∀ id ∈ w.found, id ∈ w.met
  met_of_pending : ∀ id ∈ w.pending, id ∈ w.met
  reaches : ∀ id ∈ w.met, Reaches its root id
  found_of_met : (its.map (·.id)).Nodup → ∀ it ∈ its, it.id ∈ w.met → it.active = false →
    it.id ∈ w.found

theorem sound_start (its : List Iteration) (root : String) : Sound its root (start root) where
  found_eq := ⟨[], rfl, List.forall_mem_nil _⟩
  nodup := List.nodup_singleton root
  met_of_found _ h := h
  met_of_pending _ h := h
  reaches _ h := .inl (List.mem_singleton.mp h)
  found_of_met _ _ _ h _ := h

theorem mem_noted {it : Iteration} {found : List String} {id : String} :
    id ∈ (if it.active then found else found ++ [it.id]) ↔
      id ∈ found ∨ (it.active = false ∧ id = it.id) := by
  cases it.active <;> simp

theorem Sound.meet (h : Sound its root w) (hParent : Reaches its root parent) (hMem : it ∈ its) :
    Sound its root (meet parent w it) := by
  rcases meet_cases parent w it with ⟨hSame, -⟩ | ⟨hLink, hNew, hMeet⟩
  · rw [hSame]
    exact h
  have hBelow : Below its root it := hParent.below hMem hLink
  have hNotFound : it.id ∉ w.found := fun hFound => hNew (h.met_of_found _ hFound)
  rw [hMeet]
  refine ⟨?found_eq, ?nodup, ?met_of_found, ?met_of_pending, ?reaches, ?found_of_met⟩
  case found_eq =>
    obtain ⟨rest, hRest, hWaiting⟩ := h.found_eq
    cases hActive : it.active with
    | true => exact ⟨rest, hRest, hWaiting⟩
    | false =>
      refine ⟨rest ++ [it.id], by simp [hRest], ?_⟩
      intro id hId
      rcases List.mem_append.mp hId with hId | hId
      · exact hWaiting id hId
      · exact ⟨it, hBelow, hActive, (List.mem_singleton.mp hId).symm⟩
  case nodup =>
    cases it.active with
    | true => exact h.nodup
    | false => simpa using h.nodup.concat hNotFound
  case met_of_found =>
    intro id hId
    rcases mem_noted.mp hId with hId | ⟨-, rfl⟩
    · exact List.mem_cons_of_mem _ (h.met_of_found id hId)
    · exact List.mem_cons_self
  case met_of_pending =>
    intro id hId
    rcases List.mem_cons.mp hId with rfl | hId
    · exact List.mem_cons_self
    · exact List.mem_cons_of_mem _ (h.met_of_pending id hId)
  case reaches =>
    intro id hId
    rcases List.mem_cons.mp hId with rfl | hId
    · exact .inr ⟨it, hBelow, rfl⟩
    · exact h.reaches id hId
  case found_of_met =>
    intro hDistinct x hx hMet hIdle
    rcases List.mem_cons.mp hMet with hId | hMet
    · -- No other iteration has this identifier, so it is the one that was just taken in.
      have hEq : x = it := List.inj_on_of_nodup_map hDistinct hx hMem hId
      exact mem_noted.mpr (.inr ⟨hEq ▸ hIdle, hId⟩)
    · exact mem_noted.mpr (.inl (h.found_of_met hDistinct x hx hMet hIdle))

theorem Sound.round (h : Sound its root w) {rest : List String}
    (hPending : w.pending = parent :: rest) :
    Sound its root (its.foldl (Walk.meet parent) { w with pending := rest }) := by
  have hReaches : Reaches its root parent :=
    h.reaches parent (h.met_of_pending parent (hPending ▸ List.mem_cons_self))
  have hTaken : Sound its root { w with pending := rest } :=
    { h with
      met_of_pending := fun id hId =>
        h.met_of_pending id (hPending ▸ List.mem_cons_of_mem parent hId) }
  exact List.foldlRecOn its _ hTaken fun v hv it hMem => hv.meet hReaches hMem

theorem EndsAt.sound (h : EndsAt its w w') (hw : Sound its root w) : Sound its root w' := by
  induction h with
  | done _ => exact hw
  | round hPending _ ih => exact ih (hw.round hPending)

/-! ### What has been looked at -/

/-- All children of an iteration have been met. -/
def Explored (its : List Iteration) (w : Walk) (parent : String) : Prop :=
  ∀ it ∈ its, it.parent = some parent → it.id ∈ w.met

theorem met_meet (w : Walk) (it : Iteration) {id : String} (h : id ∈ w.met) :
    id ∈ (meet parent w it).met := by
  rcases meet_cases parent w it with ⟨hSame, -⟩ | ⟨-, -, hMeet⟩
  · rwa [hSame]
  · rw [hMeet]
    exact List.mem_cons_of_mem _ h

theorem met_foldl_meet (its : List Iteration) (w : Walk) {id : String} (h : id ∈ w.met) :
    id ∈ (its.foldl (meet parent) w).met :=
  List.foldlRecOn its (meet parent) (motive := fun v => id ∈ v.met) h
    fun v hv it _ => met_meet v it hv

theorem explored_foldl_meet (its : List Iteration) (w : Walk) (parent : String) :
    Explored its (its.foldl (meet parent) w) parent := by
  induction its generalizing w with
  | nil => exact List.forall_mem_nil _
  | cons first rest ih =>
    intro it hMem hParent
    rcases List.mem_cons.mp hMem with rfl | hMem
    · refine met_foldl_meet rest _ ?_
      rcases meet_cases parent w it with ⟨hSame, hMet⟩ | ⟨-, -, hMeet⟩
      · rw [hSame]
        exact hMet hParent
      · rw [hMeet]
        exact List.mem_cons_self
    · exact ih _ it hMem hParent

/-- Whatever was met is pending or explored, apart from the iteration that is being looked at. -/
def Waits (its : List Iteration) (busy : String → Prop) (w : Walk) : Prop :=
  ∀ id ∈ w.met, busy id ∨ id ∈ w.pending ∨ Explored its w id

theorem Waits.meet {busy : String → Prop} (h : Waits its busy w) (parent : String)
    (it : Iteration) : Waits its busy (meet parent w it) := by
  rcases meet_cases parent w it with ⟨hSame, -⟩ | ⟨-, -, hMeet⟩
  · rwa [hSame]
  intro id hId
  rw [hMeet] at hId ⊢
  rcases List.mem_cons.mp hId with rfl | hId
  · exact .inr (.inl List.mem_cons_self)
  · rcases h id hId with hBusy | hPending | hExplored
    · exact .inl hBusy
    · exact .inr (.inl (List.mem_cons_of_mem _ hPending))
    · exact .inr (.inr fun x hx hLink => List.mem_cons_of_mem _ (hExplored x hx hLink))

theorem Waits.round (h : Waits its (fun _ => False) w) {rest : List String}
    (hPending : w.pending = parent :: rest) :
    Waits its (fun _ => False) (its.foldl (Walk.meet parent) { w with pending := rest }) := by
  -- While its children are met, the iteration that was taken out is neither pending nor explored.
  have hTaken : Waits its (· = parent) { w with pending := rest } := by
    intro id hId
    rcases h id hId with hNone | hWaiting | hExplored
    · exact hNone.elim
    · rw [hPending] at hWaiting
      exact (List.mem_cons.mp hWaiting).imp_right .inl
    · exact .inr (.inr hExplored)
  have hFold : Waits its (· = parent) (its.foldl (Walk.meet parent) { w with pending := rest }) :=
    List.foldlRecOn its _ hTaken fun v hv it _ => hv.meet parent it
  intro id hId
  rcases hFold id hId with rfl | hRest
  · exact .inr (.inr (explored_foldl_meet its _ id))
  · exact .inr hRest

theorem EndsAt.explored (h : EndsAt its w w') (hw : Waits its (fun _ => False) w) {id : String}
    (hId : id ∈ w'.met) : Explored its w' id := by
  induction h with
  | done hDone =>
    rcases hw id hId with hNone | hPending | hExplored
    · exact hNone.elim
    · rw [hDone] at hPending
      cases hPending
    · exact hExplored
  | round hPending _ ih => exact ih (hw.round hPending) hId

theorem EndsAt.met_of_below (h : EndsAt its (start root) w) (hBelow : Below its root it) :
    it.id ∈ w.met := by
  have hWaits : Waits its (fun _ => False) (start root) := fun id hId => .inr (.inl hId)
  have hRoot : root ∈ w.met := by
    obtain ⟨rest, hFound, -⟩ := (h.sound (sound_start its root)).found_eq
    exact (h.sound (sound_start its root)).met_of_found root (hFound ▸ List.mem_cons_self)
  induction hBelow with
  | child hMem hLink => exact h.explored hWaits hRoot _ hMem hLink
  | descend _ hMem hLink ih => exact h.explored hWaits ih _ hMem hLink

end Walk

/-! ### The iterations of the backlog -/

variable {d d' : Dataset} {space : Uuid}

/-- The first iteration of the space that has no parent. -/
def IsTopmost (d : Dataset) (space : Uuid) (root : Iteration) : Prop :=
  ∃ before after, d.iterations = before ++ root :: after ∧ root.space = space ∧
    root.parent = none ∧ ∀ it ∈ before, it.space = space → it.parent ≠ none

theorem rootIteration?_eq_some_iff {root : Iteration} :
    d.rootIteration? space = some root ↔ d.IsTopmost space root := by
  rw [rootIteration?, iterationsOf, List.find?_filter, List.find?_eq_some_iff_append]
  simp only [IsTopmost, beq_iff_eq, Option.isNone_iff_eq_none, Bool.decide_and, decide_eq_true_eq,
    Bool.and_eq_true, Bool.not_eq_true', Bool.and_eq_false_iff, decide_eq_false_iff_not]
  constructor
  · rintro ⟨⟨hSpace, hParent⟩, before, after, hEq, hBefore⟩
    exact ⟨before, after, hEq, hSpace, hParent, fun it hIt hHere =>
      (hBefore it hIt).resolve_left (not_not_intro hHere)⟩
  · rintro ⟨before, after, hEq, hSpace, hParent, hBefore⟩
    exact ⟨⟨hSpace, hParent⟩, before, after, hEq, fun it hIt =>
      Decidable.not_or_of_imp (hBefore it hIt)⟩

theorem rootIteration?_eq_none_iff :
    d.rootIteration? space = none ↔ ∀ it ∈ d.iterations, it.space = space → it.parent ≠ none := by
  rw [rootIteration?, iterationsOf, List.find?_filter, List.find?_eq_none]
  simp

theorem exists_endsAt {root : Iteration} (h : d.rootIteration? space = some root) :
    ∃ w, Walk.EndsAt (d.iterationsOf space) (.start root.id) w ∧
      d.backlogIterations space = w.found := by
  refine ⟨_, Walk.endsAt_run (Walk.left_start_le _ _), ?_⟩
  rw [backlogIterations, h]

theorem backlogIterations_eq_nil_iff :
    d.backlogIterations space = [] ↔ d.rootIteration? space = none := by
  cases hRoot : d.rootIteration? space with
  | none => simp [backlogIterations, hRoot]
  | some root =>
    obtain ⟨w, hEnds, hFound⟩ := exists_endsAt hRoot
    obtain ⟨rest, hRest, -⟩ := (hEnds.sound (Walk.sound_start _ _)).found_eq
    simp [hFound, hRest]

theorem nodup_backlogIterations : (d.backlogIterations space).Nodup := by
  cases hRoot : d.rootIteration? space with
  | none =>
    rw [backlogIterations_eq_nil_iff.mpr hRoot]
    exact List.nodup_nil
  | some root =>
    obtain ⟨w, hEnds, hFound⟩ := exists_endsAt hRoot
    rw [hFound]
    exact (hEnds.sound (Walk.sound_start _ _)).nodup

theorem backlogIterations_congr (h : d'.iterationsOf space = d.iterationsOf space) :
    d'.backlogIterations space = d.backlogIterations space := by
  simp only [backlogIterations, rootIteration?, h]

/-- The backlog iterations of a space are the topmost one, which comes first, and iterations below
it that are not running, none of them twice. There are none exactly if every iteration of the space
has a parent; otherwise the walk ends with nothing pending. All idle iterations below the topmost
one are among them if the identifiers in the space are distinct. The iterations of other spaces make
no difference. -/
theorem backlogIterations_lie_below_topmost (d : Dataset) (space : Uuid) :
    (d.backlogIterations space).Nodup ∧
    (d.backlogIterations space = [] ↔
      ∀ it ∈ d.iterations, it.space = space → it.parent ≠ none) ∧
    (d.backlogIterations space ≠ [] → ∃ root, d.IsTopmost space root ∧
      (∃ w, Walk.EndsAt (d.iterationsOf space) (.start root.id) w ∧ w.pending = [] ∧
        d.backlogIterations space = w.found) ∧
      (∃ rest, d.backlogIterations space = root.id :: rest ∧ ∀ id ∈ rest,
        ∃ it, Below (d.iterationsOf space) root.id it ∧ it.active = false ∧ it.id = id) ∧
      (((d.iterationsOf space).map (·.id)).Nodup →
        ∀ it, Below (d.iterationsOf space) root.id it → it.active = false →
          it.id ∈ d.backlogIterations space)) ∧
    ∀ d' : Dataset, d'.iterationsOf space = d.iterationsOf space →
      d'.backlogIterations space = d.backlogIterations space := by
  refine ⟨nodup_backlogIterations, backlogIterations_eq_nil_iff.trans rootIteration?_eq_none_iff,
    fun hSome => ?_, fun d' => backlogIterations_congr⟩
  obtain ⟨root, hRoot⟩ : ∃ root, d.rootIteration? space = some root :=
    Option.ne_none_iff_exists'.mp fun hNone => hSome (backlogIterations_eq_nil_iff.mpr hNone)
  obtain ⟨w, hEnds, hFound⟩ := exists_endsAt hRoot
  have hSound := hEnds.sound (Walk.sound_start _ _)
  have hTopmost : d.IsTopmost space root := rootIteration?_eq_some_iff.mp hRoot
  refine ⟨root, hTopmost, ⟨w, hEnds, hEnds.pending_eq_nil, hFound⟩, ?_, ?_⟩
  · rw [hFound]
    exact hSound.found_eq
  · intro hDistinct it hBelow hIdle
    rw [hFound]
    exact hSound.found_of_met hDistinct it hBelow.mem (hEnds.met_of_below hBelow) hIdle

/-- Iterations of one space: a running one at the top, a running one below it with an idle child,
two that lie below each other, and one below an iteration that is missing. -/
def tangled : List Iteration :=
  [⟨"later", .repeated 0, "later", some "now", false⟩,
    ⟨"root", .repeated 0, "root", none, true⟩,
    ⟨"east", .repeated 0, "east", some "west", false⟩,
    ⟨"now", .repeated 0, "now", some "root", true⟩,
    ⟨"west", .repeated 0, "west", some "east", false⟩,
    ⟨"stray", .repeated 0, "stray", some "gone", false⟩]

/-- The same iterations beside those of another space, where identifiers are used again. -/
def tangledTwice : Dataset :=
  { empty with
    iterations := ⟨"root", .repeated 1, "root", none, false⟩ :: tangled ++
      [⟨"east", .repeated 1, "east", some "root", false⟩] }

theorem tangled_backlog :
    ∃ rest, tangledTwice.backlogIterations (.repeated 0) = "root" :: rest ∧
      (∀ id ∈ rest, ∃ it, Below (tangledTwice.iterationsOf (.repeated 0)) "root" it ∧
        it.active = false ∧ it.id = id) ∧
      "later" ∈ tangledTwice.backlogIterations (.repeated 0) ∧
      { empty with iterations := tangled }.backlogIterations (.repeated 0) =
        tangledTwice.backlogIterations (.repeated 0) := by
  obtain ⟨-, -, hSome, hOthers⟩ := backlogIterations_lie_below_topmost tangledTwice (.repeated 0)
  obtain ⟨root, hTopmost, -, ⟨rest, hRest, hBelow⟩, hAll⟩ := hSome (by decide)
  have hRoot : root = ⟨"root", .repeated 0, "root", none, true⟩ := by
    have hFirst := rootIteration?_eq_some_iff.mpr hTopmost
    exact Option.some.inj (hFirst.symm.trans (by decide))
  subst hRoot
  refine ⟨rest, hRest, hBelow, ?_, hOthers _ (by decide)⟩
  have hNow : Below (tangledTwice.iterationsOf (.repeated 0)) "root"
      ⟨"now", .repeated 0, "now", some "root", true⟩ := .child (by decide) rfl
  exact hAll (by decide) ⟨"later", .repeated 0, "later", some "now", false⟩
    (.descend hNow (by decide) rfl) rfl

/-- A running iteration stands in for an idle one with the same identifier. -/
example : { empty with
    iterations := [⟨"root", .repeated 0, "root", none, false⟩,
      ⟨"now", .repeated 0, "now", some "root", true⟩,
      ⟨"now", .repeated 0, "now", some "root", false⟩] }.backlogIterations (.repeated 0) =
    ["root"] := by decide

end Dataset

end Worklist.Tracker
