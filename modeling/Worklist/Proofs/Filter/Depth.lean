import Worklist.Proofs.Filter.Grammar
import Worklist.Proofs.Filter.RoundTrip
import Worklist.Proofs.Json.RoundTrip

/-!
# How deep written filters are

A filter with several predicates is written as a group, which stands in an object of its own. So
what is written for a filter may be deeper than the text it was read from, but not more than twice
as deep and one.
-/

namespace Worklist.Filter

variable {t : FieldTable} {d : FieldDef} {key : String} {v : Json} {e : Expression}
  {members : List (String × Json)}

namespace Expression

mutual

/-- How many lists and objects stand within each other inside the object that is written for an
expression. -/
def writtenDepth : Expression → Nat
  | .equals _ l => l.toJson.depth
  | .not (.not e) => writtenDepth (.not e) + 2
  | .not e => writtenDepth e
  | .group _ members => writtenDepths members + 2
  | _ => 0

/-- The largest of these numbers among several expressions. -/
def writtenDepths : List Expression → Nat
  | [] => 0
  | e :: rest => max (writtenDepth e) (writtenDepths rest)

end

theorem writtenDepth_not (h : ∀ x, e ≠ .not x) :
    (Expression.not e).writtenDepth = e.writtenDepth := by
  rw [writtenDepth]
  exact h

theorem writtenDepths_le {es : List Expression} {n : Nat} (h : ∀ e ∈ es, e.writtenDepth ≤ n) :
    writtenDepths es ≤ n := by
  induction es with
  | nil => exact Nat.zero_le n
  | cons e rest ih =>
    have hRest := ih fun x hx => h x (List.mem_cons_of_mem e hx)
    exact Nat.max_le.mpr ⟨h e List.mem_cons_self, hRest⟩

/-- What is said together has at most one group more, and is no negation. -/
theorem writtenDepth_together {c : Connective} {es : List Expression} {n : Nat}
    (h : Together c es e) (hes : ∀ x ∈ es, (∀ y, x ≠ .not y) ∧ x.writtenDepth ≤ n) :
    (∀ y, e ≠ .not y) ∧ e.writtenDepth ≤ n + 2 := by
  cases h with
  | one =>
    obtain ⟨hPlain, hDepth⟩ := hes e List.mem_cons_self
    exact ⟨hPlain, by omega⟩
  | group =>
    have hDepth := writtenDepths_le fun z hz => (hes z hz).2
    exact ⟨by rintro z ⟨⟩, Nat.add_le_add_right hDepth 2⟩

/-! ### The depth of what is written -/

/-- What is written for several expressions, as objects. -/
theorem toItems_eq_ok_iff {es : List Expression} {items : List Json} :
    toItems es = .ok items ↔
      List.Forall₂ (fun e item => ∃ members, e.toMembers = .ok members ∧ item = .object members)
        es items := by
  induction es generalizing items with
  | nil => simp [toItems, eq_comm]
  | cons e rest ih =>
    rw [List.forall₂_cons_left_iff]
    simp only [toItems, bind_eq_ok_iff, ih]
    constructor
    · rintro ⟨members, hMembers, xs, hxs, hEq⟩
      cases hEq
      exact ⟨_, xs, ⟨members, hMembers, rfl⟩, hxs, rfl⟩
    · rintro ⟨_, xs, ⟨members, hMembers, rfl⟩, hxs, rfl⟩
      exact ⟨members, hMembers, xs, hxs, rfl⟩

theorem itemsDepth_toItems {es : List Expression} {items : List Json} (hne : es ≠ [])
    (h : List.Forall₂ (fun e item => item.depth = e.writtenDepth + 1) es items) :
    Json.itemsDepth items = writtenDepths es + 1 := by
  induction h with
  | nil => exact absurd rfl hne
  | @cons e item es items he hRest ih =>
    rw [Json.itemsDepth, writtenDepths, he]
    cases hRest with
    | nil => simp [Json.itemsDepth, writtenDepths]
    | cons _ _ =>
      rw [ih (List.cons_ne_nil _ _)]
      omega

/-- A negation mark has no depth. -/
theorem membersDepth_marks (e : Expression) :
    Json.membersDepth ((key, v) :: e.marks) = v.depth := by
  cases e with
  | _ => simp [marks, Json.membersDepth, Json.depth]

theorem Sound.membersDepth_eq (h : e.Sound t.Resolves) (hMembers : e.toMembers = .ok members) :
    Json.membersDepth members = e.writtenDepth := by
  induction h generalizing members with
  | equals =>
    cases hMembers
    simp [Json.membersDepth, writtenDepth]
  | isNull =>
    cases hMembers
    rfl
  | @not e he ih =>
    obtain ⟨key, v, body, hWrites⟩ := he.writes
    have hDepth := ih hWrites.toMembers_eq
    rcases e.eq_not_or with ⟨x, rfl⟩ | hPlain
    · rw [hWrites.not_not.toMembers_eq] at hMembers
      cases hMembers
      simp only [membersDepth_marks, Json.depth, Json.itemsDepth, hDepth, writtenDepth]
      omega
    · rw [(hWrites.not_plain hPlain).toMembers_eq] at hMembers
      cases hMembers
      rw [membersDepth_marks] at hDepth ⊢
      rw [hDepth, writtenDepth_not hPlain]
  | @group c es hne _ ih =>
    have hGroup : (Expression.group c es).toMembers =
        (toItems es).map fun items => [(c.key, .array items)] := by
      rw [toMembers]
      exact hne
    rw [hGroup, map_eq_ok_iff] at hMembers
    obtain ⟨items, hItems, rfl⟩ := hMembers
    have hDepths : List.Forall₂ (fun e item => item.depth = e.writtenDepth + 1) es items := by
      refine ((List.forall₂_and_left es items).mpr ⟨@ih, toItems_eq_ok_iff.mp hItems⟩).imp ?_
      rintro e _ ⟨he, members, hMembers, rfl⟩
      rw [Json.depth, he hMembers]
    simp [Json.membersDepth, Json.depth, itemsDepth_toItems hne hDepths, writtenDepth]

end Expression

/-! ### The depth of what is read -/

theorem itemsDepth_strings (items : List String) : Json.itemsDepth (items.map Json.string) = 0 := by
  refine Nat.le_zero.mp (Json.itemsDepth_le_iff.mpr fun v hv => ?_)
  obtain ⟨s, -, rfl⟩ := List.mem_map.mp hv
  exact Nat.le_refl 0

theorem FieldDef.depth_toJson_le {l : Literal} (h : d.literal? v = some l) :
    l.toJson.depth ≤ v.depth := by
  cases l with
  | texts items =>
    obtain ⟨hKind, -⟩ : d.kind = .text ∧ d.multi = true := admits_of_literal? h
    cases v with
    | array values =>
      rw [Literal.toJson, Json.strings, Json.depth, Json.depth, itemsDepth_strings]
      exact Nat.succ_le_succ (Nat.zero_le _)
    | _ => simp [literal?, hKind] at h
  | _ => exact Nat.zero_le _

theorem FieldDef.Says.writtenDepth_le (h : d.Says key v e) :
    (∀ x, e ≠ .not x) ∧ e.writtenDepth ≤ 2 * v.depth := by
  cases h with
  | null => exact ⟨by rintro x ⟨⟩, Nat.zero_le _⟩
  | literal hl =>
    have hDepth := depth_toJson_le (literal_eq_ok_iff.mp hl)
    refine ⟨by rintro x ⟨⟩, ?_⟩
    rw [Expression.writtenDepth]
    omega
  | @oneOf values ls e hls hOne =>
    have hDepths : ∀ x ∈ ls.map (Expression.equals d.target),
        (∀ y, x ≠ .not y) ∧ x.writtenDepth ≤ Json.itemsDepth values := by
      intro x hx
      obtain ⟨l, hl, rfl⟩ := List.mem_map.mp hx
      obtain ⟨v, hv, hLiteral⟩ := exists_left_of_mem hls hl
      have hValue := Json.itemsDepth_le_iff.mp (Nat.le_refl _) v hv
      exact ⟨by rintro y ⟨⟩, (depth_toJson_le (literal_eq_ok_iff.mp hLiteral)).trans hValue⟩
    obtain ⟨hPlain, hDepth⟩ := Expression.writtenDepth_together hOne hDepths
    refine ⟨hPlain, ?_⟩
    simp only [Json.depth, Json.membersDepth]
    omega

/-- Induction on the value: what is written for a node is compared with the value under its key,
what is written for a filter with its object. -/
theorem writtenDepth_le (v : Json) :
    (∀ key e, NodeOf t (key, v) e → (∀ x, e ≠ .not x) ∧ e.writtenDepth ≤ 2 * v.depth) ∧
      ∀ e, Says t v e → e.writtenDepth ≤ 2 * v.depth := by
  induction v with
  | array items ih =>
    refine ⟨fun key e h => ?_, fun e h => (nomatch h)⟩
    cases h with
    | field _ _ hSays => exact hSays.writtenDepth_le
    | @group c _ nodes _ hNodes =>
      have hDepths : Expression.writtenDepths nodes ≤ 2 * Json.itemsDepth items := by
        refine Expression.writtenDepths_le fun e he => ?_
        obtain ⟨x, hx, hSays⟩ := exists_left_of_mem hNodes he
        have hItem := (ih x hx).2 e hSays
        have hMax := Json.itemsDepth_le_iff.mp (Nat.le_refl _) x hx
        omega
      refine ⟨by rintro x ⟨⟩, ?_⟩
      rw [Expression.writtenDepth, Json.depth]
      omega
  | object members ih =>
    constructor
    · intro key e h
      cases h with
      | field _ _ hSays => exact hSays.writtenDepth_le
    · intro e h
      cases h with
      | @object _ nodes body mark _ hNodes hBody =>
        have hDepths : ∀ e ∈ nodes,
            (∀ x, e ≠ .not x) ∧ e.writtenDepth ≤ 2 * Json.membersDepth members := by
          intro e he
          obtain ⟨m, hm, hNode⟩ := exists_left_of_mem hNodes he
          have hMem := (mem_predicateMembers.mp hm).1
          obtain ⟨hPlain, hDepth⟩ := (ih m hMem).1 m.1 e hNode
          have hMax := Json.membersDepth_le_iff.mp (Nat.le_refl _) m hMem
          exact ⟨hPlain, by omega⟩
        obtain ⟨hPlain, hDepth⟩ := Expression.writtenDepth_together hBody hDepths
        have hMark : (if mark then Expression.not body else body).writtenDepth =
            body.writtenDepth := by
          cases mark with
          | true => exact Expression.writtenDepth_not hPlain
          | false => rfl
        rw [hMark, Json.depth]
        omega
  | _ =>
    refine ⟨fun key e h => ?_, fun e h => (nomatch h)⟩
    cases h with
    | field _ _ hSays => exact hSays.writtenDepth_le

end Worklist.Filter
