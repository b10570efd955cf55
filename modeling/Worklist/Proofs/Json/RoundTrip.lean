import Worklist.Proofs.Json.Layout

/-!
# Values read back from their texts

A value whose objects do not repeat a key is read back from every text of it unless lists and
objects stand too deep within each other; then the reader says so. What is written for a value whose
numbers are whole, without blanks or over several lines, is such a text.
-/

namespace Worklist.Json

mutual

/-- How many lists and objects stand within each other in a value. -/
def depth : Json → Nat
  | .array items => itemsDepth items + 1
  | .object members => membersDepth members + 1
  | _ => 0

/-- The largest depth of the items. -/
def itemsDepth : List Json → Nat
  | [] => 0
  | v :: rest => max (depth v) (itemsDepth rest)

/-- The largest depth of the members. -/
def membersDepth : List (String × Json) → Nat
  | [] => 0
  | (_, v) :: rest => max (depth v) (membersDepth rest)

end

theorem itemsDepth_le_iff {items : List Json} {n : Nat} :
    itemsDepth items ≤ n ↔ ∀ v ∈ items, v.depth ≤ n := by
  induction items with
  | nil => simp [itemsDepth]
  | cons v items ih => rw [itemsDepth, Nat.max_le, ih, List.forall_mem_cons]

theorem membersDepth_le_iff {members : List (String × Json)} {n : Nat} :
    membersDepth members ≤ n ↔ ∀ m ∈ members, m.2.depth ≤ n := by
  induction members with
  | nil => simp [membersDepth]
  | cons m members ih => rw [membersDepth, Nat.max_le, ih, List.forall_mem_cons]

/-- Something of this depth is had if the limit allows it, and refused as too deep otherwise. -/
def DepthLimited {α : Type} (limit depth : Nat) (result : Except Fault α) (x : α) : Prop :=
  (depth ≤ limit ∧ result = .ok x) ∨
    (limit < depth ∧ ∃ fault, result = .error fault ∧ fault.cause = .tooDeep)

namespace DepthLimited

variable {α β γ : Type} {limit a b : Nat} {r : Except Fault α} {s : Except Fault β} {x : α} {y : β}

theorem both (f : α → β → γ) (hx : DepthLimited limit a r x) (hy : DepthLimited limit b s y) :
    DepthLimited limit (max a b) (do
      let x ← r
      let y ← s
      return f x y) (f x y) := by
  rcases hx with ⟨ha, rfl⟩ | ⟨ha, fault, rfl, hCause⟩
  · rcases hy with ⟨hb, rfl⟩ | ⟨hb, fault, rfl, hCause⟩
    · exact .inl ⟨Nat.max_le.mpr ⟨ha, hb⟩, rfl⟩
    · exact .inr ⟨Nat.lt_of_lt_of_le hb (Nat.le_max_right a b), fault, rfl, hCause⟩
  · exact .inr ⟨Nat.lt_of_lt_of_le ha (Nat.le_max_left a b), fault, rfl, hCause⟩

theorem wrap (f : α → β) (h : DepthLimited limit a r x) :
    DepthLimited (limit + 1) (a + 1) (do
      let x ← r
      Located.refuse none
      return f x) (f x) := by
  rcases h with ⟨ha, rfl⟩ | ⟨ha, fault, rfl, hCause⟩
  · exact .inl ⟨Nat.succ_le_succ ha, rfl⟩
  · exact .inr ⟨Nat.succ_lt_succ ha, fault, rfl, hCause⟩

end DepthLimited

/-! ### Values of what is read -/

variable {limit : Nat} {tree : Located} {v : Json} {cs : List Char}

theorem ShowsItems.value {trees : List Located} {items : List Json}
    (h : ShowsItems limit trees items)
    (ih : ∀ v ∈ items, ∀ tree, Shows limit tree v → DepthLimited limit v.depth tree.value v) :
    DepthLimited limit (itemsDepth items) (Located.itemValues trees) items := by
  induction items generalizing trees with
  | nil =>
    cases h
    exact .inl ⟨Nat.zero_le limit, rfl⟩
  | cons v items ihItems =>
    cases h with
    | cons hv hItems =>
      have hFirst := ih v List.mem_cons_self _ hv
      have hRest := ihItems hItems fun x hx => ih x (List.mem_cons_of_mem v hx)
      exact hFirst.both List.cons hRest

theorem ShowsMembers.value {trees : List (Key × Located)} {members : List (String × Json)}
    (h : ShowsMembers limit trees members)
    (ih : ∀ m ∈ members, ∀ tree, Shows limit tree m.2 →
      DepthLimited limit m.2.depth tree.value m.2) :
    DepthLimited limit (membersDepth members) (Located.memberValues trees) members := by
  induction members generalizing trees with
  | nil =>
    cases h
    exact .inl ⟨Nat.zero_le limit, rfl⟩
  | cons m members ihMembers =>
    cases h with
    | @cons _ key _ v _ _ hFault hv hMembers =>
      have hFirst := ih (key.name, v) List.mem_cons_self _ hv
      have hRest := ihMembers hMembers fun x hx => ih x (List.mem_cons_of_mem _ hx)
      rw [Located.memberValues, hFault]
      exact hFirst.both (fun v ms => (key.name, v) :: ms) hRest

/-- Objects that do not repeat a key keep all their members. -/
theorem Shows.value (h : Shows limit tree v) (hv : v.Keyed) :
    DepthLimited limit v.depth tree.value v := by
  induction v generalizing limit tree with
  | array items ih =>
    cases hv with
    | array hKeyed =>
      cases h with
      | array hItems =>
        exact (hItems.value fun v hv tree hTree => ih v hv hTree (hKeyed v hv)).wrap Json.array
      | deepArray => exact .inr ⟨Nat.succ_pos _, _, rfl, rfl⟩
  | object members ih =>
    cases hv with
    | object hKeys hKeyed =>
      cases h with
      | object hMembers =>
        have hValue :=
          (hMembers.value fun m hm tree hTree => ih m hm hTree (hKeyed m hm)).wrap
            fun ms => Json.object (collect ms)
        rw [collect_of_nodup hKeys] at hValue
        exact hValue
      | deepObject => exact .inr ⟨Nat.succ_pos _, _, rfl, rfl⟩
  | _ =>
    cases h
    exact .inl ⟨Nat.zero_le limit, rfl⟩

/-- A value is read back from every text of it, with any blanks around, as far as its depth allows
it. -/
theorem parse_layout {before after : List Char} (h : Layout v cs) (hBefore : IsGap before)
    (hAfter : IsGap after) (hv : v.Keyed) :
    DepthLimited maxDepth v.depth (parse (before ++ (cs ++ after))) v := by
  obtain ⟨tree, hRead, hShows⟩ := read_layout h hBefore hAfter
  have hParse : parse (before ++ (cs ++ after)) = tree.value := by
    rw [parse, hRead]
    cases hValue : tree.value with
    | error fault => simp [hValue]
    | ok v => simp [hValue]
  rw [hParse]
  exact hShows.value hv

/-! ### Texts without blanks -/

/-- The numbers in the value are whole and fit a 64-bit word. -/
inductive Exact : Json → Prop where
  | null : Exact .null
  | bool {b : Bool} : Exact (.bool b)
  | whole {n : Int} : FitsWord n → Exact (.number (.whole n))
  | string {s : String} : Exact (.string s)
  | array {items : List Json} : (∀ v ∈ items, Exact v) → Exact (.array items)
  | object {members : List (String × Json)} : (∀ m ∈ members, Exact m.2) →
      Exact (.object members)

theorem separator_compact (first : Bool) : Separator first (if first then [] else [',']) := by
  cases first with
  | true => exact .first .nil
  | false => exact Separator.comma IsGap.nil IsGap.nil

theorem row_compactItems {items : List Json} (first : Bool)
    (h : ∀ v ∈ items, Layout v (compact v)) :
    Row Layout first items (compactItems first items) := by
  induction items generalizing first with
  | nil => exact .nil .nil
  | cons v items ih =>
    have hFirst := h v List.mem_cons_self
    have hRest := ih false fun x hx => h x (List.mem_cons_of_mem v hx)
    rw [compactItems, List.append_assoc]
    exact .cons (separator_compact first) hFirst hRest

theorem row_compactMembers {members : List (String × Json)} (first : Bool)
    (h : ∀ m ∈ members, Layout m.2 (compact m.2)) :
    Row MemberLayout first members (compactMembers first members) := by
  induction members generalizing first with
  | nil => exact .nil .nil
  | cons m members ih =>
    obtain ⟨key, v⟩ := m
    have hMember : MemberLayout (key, v) (stringText key ++ ([] ++ ':' :: ([] ++ compact v))) :=
      .mk .nil .nil (h (key, v) List.mem_cons_self)
    have hRest := ih false fun x hx => h x (List.mem_cons_of_mem (key, v) hx)
    have hRow := Row.cons (separator_compact first) hMember hRest
    simpa [compactMembers] using hRow

theorem layout_compact (h : v.Exact) : Layout v (compact v) := by
  induction v with
  | null => exact .null
  | bool b => exact .bool b
  | number n =>
    cases h with
    | whole hWord => exact .whole hWord
  | string s => exact .string s
  | array items ih =>
    cases h with
    | array hItems => exact .array (row_compactItems true fun v hv => ih v hv (hItems v hv))
  | object members ih =>
    cases h with
    | object hMembers => exact .object (row_compactMembers true fun m hm => ih m hm (hMembers m hm))

/-! ### Texts over several lines -/

theorem isGap_newline (level : Nat) : IsGap (newline level) := by
  intro c hc
  rcases List.mem_cons.mp hc with rfl | hc
  · rfl
  · rw [List.eq_of_mem_replicate hc]
    rfl

theorem row_prettyItems {items : List Json} {gap : List Char} (level : Nat) (hGap : IsGap gap)
    (h : ∀ v ∈ items, Layout v (pretty level v)) :
    Row Layout false items (prettyItems level items ++ gap) := by
  induction items with
  | nil => exact .nil hGap
  | cons v items ih =>
    have hFirst := h v List.mem_cons_self
    have hRest := ih fun x hx => h x (List.mem_cons_of_mem v hx)
    have hRow := Row.cons (.comma .nil (isGap_newline level)) hFirst hRest
    simpa [prettyItems] using hRow

theorem memberLayout_pretty {m : String × Json} {level : Nat} (h : Layout m.2 (pretty level m.2)) :
    MemberLayout m (stringText m.1 ++ ':' :: ' ' :: pretty level m.2) :=
  .mk .nil .space h

theorem row_prettyMembers {members : List (String × Json)} {gap : List Char} (level : Nat)
    (hGap : IsGap gap) (h : ∀ m ∈ members, Layout m.2 (pretty level m.2)) :
    Row MemberLayout false members (prettyMembers level members ++ gap) := by
  induction members with
  | nil => exact .nil hGap
  | cons m members ih =>
    have hMember := memberLayout_pretty (h m List.mem_cons_self)
    have hRest := ih fun x hx => h x (List.mem_cons_of_mem m hx)
    have hRow := Row.cons (.comma .nil (isGap_newline level)) hMember hRest
    simpa [prettyMembers] using hRow

theorem layout_pretty (h : v.Exact) (level : Nat) : Layout v (pretty level v) := by
  induction v generalizing level with
  | null => exact .null
  | bool b => exact .bool b
  | number n =>
    cases h with
    | whole hWord => exact .whole hWord
  | string s => exact .string s
  | array items ih =>
    cases h with
    | array hItems =>
      have hAll := fun v hv => ih v hv (hItems v hv) (level + 1)
      cases items with
      | nil => exact .array (.nil .nil)
      | cons v items =>
        have hRest := row_prettyItems (level + 1) (isGap_newline level)
          fun x hx => hAll x (List.mem_cons_of_mem v hx)
        have hRow := Row.cons (.first (isGap_newline (level + 1))) (hAll v List.mem_cons_self) hRest
        simpa [pretty] using Layout.array hRow
  | object members ih =>
    cases h with
    | object hMembers =>
      have hAll := fun m hm => ih m hm (hMembers m hm) (level + 1)
      cases members with
      | nil => exact .object (.nil .nil)
      | cons m members =>
        have hRest := row_prettyMembers (level + 1) (isGap_newline level)
          fun x hx => hAll x (List.mem_cons_of_mem m hx)
        have hRow := Row.cons (.first (isGap_newline (level + 1)))
          (memberLayout_pretty (hAll m List.mem_cons_self)) hRest
        simpa [pretty] using Layout.object hRow

/-! ### Plain values -/

/-- Values that are read back from what is written for them. -/
structure Plain (v : Json) : Prop where
  exact : v.Exact
  keyed : v.Keyed

theorem Plain.string (s : String) : (Json.string s).Plain where
  exact := .string
  keyed := .string

theorem Plain.array {items : List Json} (h : ∀ v ∈ items, v.Plain) : (Json.array items).Plain where
  exact := .array fun v hv => (h v hv).exact
  keyed := .array fun v hv => (h v hv).keyed

theorem Plain.object {members : List (String × Json)} (hKeys : (members.map (·.1)).Nodup)
    (h : ∀ m ∈ members, m.2.Plain) : (Json.object members).Plain where
  exact := .object fun m hm => (h m hm).exact
  keyed := .object hKeys fun m hm => (h m hm).keyed

theorem Plain.single (key : String) (h : v.Plain) : (Json.object [(key, v)]).Plain :=
  .object (by simp) (List.forall_mem_singleton.mpr h)

theorem Plain.of_mem {members : List (String × Json)} (h : (Json.object members).Plain)
    {m : String × Json} (hm : m ∈ members) : m.2.Plain := by
  obtain ⟨hExact, hKeyed⟩ := h
  cases hExact with
  | object hExact =>
    cases hKeyed with
    | object _ hKeyed => exact ⟨hExact m hm, hKeyed m hm⟩

theorem Plain.nodup_keys {members : List (String × Json)} (h : (Json.object members).Plain) :
    (members.map (·.1)).Nodup := by
  cases h.keyed with
  | object hKeys _ => exact hKeys

/-- A plain value is read back from its text without blanks as far as its depth allows it. -/
theorem Plain.parse_compact (h : v.Plain) :
    DepthLimited maxDepth v.depth (parse (compact v)) v := by
  have hParse := parse_layout (layout_compact h.exact) .nil .nil h.keyed
  rw [List.append_nil] at hParse
  exact hParse

end Worklist.Json
