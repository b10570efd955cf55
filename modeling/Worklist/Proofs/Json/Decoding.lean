import Worklist.Json.Document
import Worklist.Proofs.Json.RoundTrip

/-!
# Records decoded from their texts

What a decoder makes of the text of a value, without regard to how the text is laid out. A record is
decoded field by field: each field is given by a member, in whatever place, or may be missing.
-/

namespace Worklist.Json

variable {α : Type} {n m limit : Nat} {decode : Located → Except DecodeError α} {v : Json} {x : α}
  {tree : Located}

/-- The decoder makes this of every text of the value, where `n` lists and objects may stand within
each other. -/
def DecodesTo (n : Nat) (decode : Located → Except DecodeError α) (v : Json) (x : α) : Prop :=
  ∀ limit tree, n ≤ limit → Shows limit tree v → decode tree = .ok x

theorem DecodesTo.mono (h : DecodesTo n decode v x) (hLe : n ≤ m) : DecodesTo m decode v x :=
  fun limit tree hLimit => h limit tree (hLe.trans hLimit)

theorem decodeText_ofList (decode : Located → Except DecodeError α) (cs : List Char) :
    decodeText decode (String.ofList cs) = (do
      let (tree, trailing) := read cs
      let value ← decode tree
      Located.halt trailing
      return value) := by
  rw [decodeText, String.toList_ofList]

theorem decodeText_of_layout {cs : List Char} (hDecode : DecodesTo n decode v x)
    (hDepth : n ≤ maxDepth) (hLayout : Layout v cs) :
    decodeText decode (String.ofList cs) = .ok x := by
  obtain ⟨tree, hRead, hShows⟩ := read_layout hLayout .nil .nil
  rw [List.nil_append, List.append_nil] at hRead
  rw [decodeText_ofList, hRead]
  simp only [hDecode maxDepth tree hDepth hShows, bind, Except.bind]
  rfl

/-! ### Single values -/

theorem decodesTo_text (s : String) : DecodesTo 0 Located.text (.string s) s := by
  rintro limit _ - ⟨⟩
  rfl

theorem decodesTo_boolean (b : Bool) : DecodesTo 0 Located.boolean (.bool b) b := by
  rintro limit _ - ⟨⟩
  rfl

theorem decodesTo_int64 (k : Int64) : DecodesTo 0 Located.int64 (.int k.toInt) k := by
  rintro limit _ - ⟨⟩
  rw [Located.int64, Located.whole, Text.toInt64?_toInt]

theorem DecodesTo.optional (h : DecodesTo n decode v x) (hNull : v ≠ .null) :
    DecodesTo n (·.optional decode) v (some x) := by
  intro limit tree hLimit hShows
  change tree.optional decode = .ok (some x)
  unfold Located.optional
  split
  case h_1 =>
    cases hShows
    exact absurd rfl hNull
  case h_2 => rw [h limit tree hLimit hShows, Except.map]

theorem mapM_of_showsItems {toJson : α → Json} {xs : List α} {trees : List Located}
    (h : ∀ x ∈ xs, DecodesTo n decode (toJson x) x) (hLimit : n ≤ limit)
    (hShows : ShowsItems limit trees (xs.map toJson)) : trees.mapM decode = .ok xs := by
  induction xs generalizing trees with
  | nil =>
    cases hShows
    rfl
  | cons x xs ih =>
    cases hShows with
    | cons hFirst hRest =>
      obtain ⟨hHead, hTail⟩ := List.forall_mem_cons.mp h
      simp [List.mapM_cons, hHead limit _ hLimit hFirst, ih hTail hRest, bind, Except.bind, pure,
        Except.pure]

theorem decodesTo_list {toJson : α → Json} {xs : List α}
    (h : ∀ x ∈ xs, DecodesTo n decode (toJson x) x) :
    DecodesTo (n + 1) (·.list decode) (.array (xs.map toJson)) xs := by
  intro limit tree hLimit hShows
  cases hShows with
  | deepArray => cases hLimit
  | array hItems =>
    have hAll := mapM_of_showsItems h (Nat.le_of_succ_le_succ hLimit) hItems
    simp [Located.list, hAll, bind, Except.bind, Located.halt, pure, Except.pure]

/-! ### Records -/

/-- The members give the field this value, or leave it out and it stands for what is missing. -/
def Gives (n : Nat) (members : List (String × Json)) (f : RecordField α) (x : α) : Prop :=
  (∃ v, members.lookup f.name = some v ∧ DecodesTo n f.read v x) ∨
    members.lookup f.name = none ∧ f.ifMissing = some x

/-- The members give the field of the rule what it takes, or leave it out and it is not needed. -/
def Serves (n : Nat) (members : List (String × Json)) (rule : FieldRule) : Prop :=
  (∃ v, members.lookup rule.name = some v ∧ DecodesTo n rule.check v ()) ∨
    members.lookup rule.name = none ∧ rule.needed = false

theorem Gives.serves {members : List (String × Json)} {f : RecordField α}
    (h : Gives n members f x) : Serves n members f.rule := by
  rcases h with ⟨v, hLookup, hDecode⟩ | ⟨hLookup, hMissing⟩
  · refine .inl ⟨v, hLookup, fun limit tree hLimit hShows => ?_⟩
    have hRead := hDecode limit tree hLimit hShows
    simp [RecordField.rule, hRead, Except.map]
  · refine .inr ⟨hLookup, ?_⟩
    simp [RecordField.rule, hMissing]

/-- The values that the members of a tree have, with their keys. -/
def namedTrees (trees : List (Key × Located)) : List (String × Located) :=
  trees.map fun m => (m.1.name, m.2)

theorem checkMembers_eq_ok {rules : List FieldRule} {seen : List (String × Located)}
    {trees : List (Key × Located)}
    (hKeys : (seen.map (·.1) ++ (namedTrees trees).map (·.1)).Nodup)
    (h : ∀ m ∈ trees, m.1.fault = none ∧ ∃ rule, rules.find? (·.name == m.1.name) = some rule ∧
      rule.check m.2 = .ok ()) :
    checkMembers rules seen trees = .ok (seen ++ namedTrees trees) := by
  induction trees generalizing seen with
  | nil => simp [checkMembers, namedTrees]
  | cons m trees ih =>
    obtain ⟨key, l⟩ := m
    obtain ⟨⟨hFault, rule, hRule, hCheck⟩, hRest⟩ := List.forall_mem_cons.mp h
    have hNew : seen.lookup key.name = none := by
      refine lookup_eq_none_iff.mpr fun hSeen => ?_
      exact (List.nodup_append.mp hKeys).2.2 _ hSeen key.name List.mem_cons_self rfl
    have hKeysRest :
        ((seen ++ [(key.name, l)]).map (·.1) ++ (namedTrees trees).map (·.1)).Nodup := by
      simpa [namedTrees] using hKeys
    have hTail := ih hKeysRest hRest
    rw [checkMembers, hFault]
    simp only [Located.halt, hRule, hNew, hCheck, bind, Except.bind, Option.isSome_none,
      Bool.false_eq_true, if_false]
    rw [hTail, List.append_assoc]
    rfl

theorem keys_namedTrees {depth : Nat} {trees : List (Key × Located)}
    {members : List (String × Json)} (h : ShowsMembers depth trees members) :
    (namedTrees trees).map (·.1) = members.map (·.1) := by
  induction members generalizing trees with
  | nil =>
    cases h
    rfl
  | cons m members ih =>
    cases h with
    | cons _ _ hRest => exact congrArg _ (ih hRest)

theorem shown_of_mem {depth : Nat} {trees : List (Key × Located)} {members : List (String × Json)}
    (h : ShowsMembers depth trees members) : ∀ m ∈ trees, m.1.fault = none ∧
      ∃ v, (m.1.name, v) ∈ members ∧ Shows depth m.2 v := by
  induction members generalizing trees with
  | nil =>
    cases h
    exact fun _ hm => nomatch hm
  | cons m members ih =>
    cases h with
    | cons hFault hFirst hRest =>
      refine List.forall_mem_cons.mpr ⟨⟨hFault, _, List.mem_cons_self, hFirst⟩, fun m hm => ?_⟩
      obtain ⟨hFault, v, hv, hShows⟩ := ih hRest m hm
      exact ⟨hFault, v, List.mem_cons_of_mem _ hv, hShows⟩

theorem lookup_namedTrees {depth : Nat} {trees : List (Key × Located)}
    {members : List (String × Json)} (h : ShowsMembers depth trees members) {key : String}
    (hLookup : members.lookup key = some v) :
    ∃ tree, (namedTrees trees).lookup key = some tree ∧ Shows depth tree v := by
  induction members generalizing trees with
  | nil => cases hLookup
  | cons m members ih =>
    cases h with
    | @cons _ k tree w trees _ _ hFirst hRest =>
      rw [List.lookup_cons] at hLookup
      rw [namedTrees, List.map_cons, List.lookup_cons]
      cases hKey : key == k.name with
      | true =>
        rw [hKey] at hLookup
        cases hLookup
        exact ⟨tree, rfl, hFirst⟩
      | false =>
        rw [hKey] at hLookup
        exact ih hRest hLookup

theorem check_of_serves {rules : List FieldRule} {members : List (String × Json)} {depth : Nat}
    {trees : List (Key × Located)} (hKeys : (members.map (·.1)).Nodup)
    (hMembers : ∀ key ∈ members.map (·.1), key ∈ rules.map (·.name))
    (hServed : ∀ rule ∈ rules, Serves n members rule) (hDepth : n ≤ depth)
    (hTrees : ShowsMembers depth trees members) :
    ∀ m ∈ trees, m.1.fault = none ∧ ∃ rule, rules.find? (·.name == m.1.name) = some rule ∧
      rule.check m.2 = .ok () := by
  intro m hm
  obtain ⟨hFault, v, hv, hShown⟩ := shown_of_mem hTrees m hm
  have hKnown := hMembers m.1.name (List.mem_map.mpr ⟨_, hv, rfl⟩)
  obtain ⟨rule, hRule⟩ : ∃ rule, rules.find? (·.name == m.1.name) = some rule := by
    rw [← Option.isSome_iff_exists, List.find?_isSome]
    obtain ⟨rule, hRule, hName⟩ := List.mem_map.mp hKnown
    exact ⟨rule, hRule, beq_iff_eq.mpr hName⟩
  have hName : rule.name = m.1.name := beq_iff_eq.mp (List.find?_some hRule :)
  have hLookup := lookup_of_mem hKeys hv
  rw [← hName] at hLookup
  refine ⟨hFault, rule, hRule, ?_⟩
  rcases hServed rule (List.mem_of_find?_eq_some hRule) with ⟨w, hw, hDecode⟩ | ⟨hNone, -⟩
  · cases hLookup.symm.trans hw
    exact hDecode depth m.2 hDepth hShown
  · cases hLookup.symm.trans hNone

theorem record_of_serves (what : String) {rules : List FieldRule} {members : List (String × Json)}
    {depth : Nat} {trees : List (Key × Located)} (span : Option Span)
    (hNames : (rules.map (·.name)).Nodup)
    (hMembers : List.Sublist (members.map (·.1)) (rules.map (·.name)))
    (hServed : ∀ rule ∈ rules, Serves n members rule) (hDepth : n ≤ depth)
    (hTrees : ShowsMembers depth trees members) :
    (Located.object span trees none).record what rules = .ok ⟨namedTrees trees⟩ := by
  have hNodup : (members.map (·.1)).Nodup := hNames.sublist hMembers
  have hNew : (([] : List (String × Located)).map (·.1) ++ (namedTrees trees).map (·.1)).Nodup := by
    rw [List.map_nil, List.nil_append, keys_namedTrees hTrees]
    exact hNodup
  have hCheck :=
    check_of_serves hNodup (fun _ hKey => hMembers.subset hKey) hServed hDepth hTrees
  have hMissing : rules.find? (fun rule => rule.needed &&
      ((namedTrees trees).lookup rule.name).isNone) = none := by
    refine List.find?_eq_none.mpr fun rule hRule => ?_
    rcases hServed rule hRule with ⟨v, hLookup, -⟩ | ⟨-, hNeeded⟩
    · obtain ⟨tree, hTree, -⟩ := lookup_namedTrees hTrees hLookup
      simp [hTree]
    · simp [hNeeded]
  simp [Located.record, checkMembers_eq_ok hNew hCheck, bind, Except.bind, Located.halt, hMissing,
    pure, Except.pure]

theorem get_of_gives {members : List (String × Json)} {depth : Nat} {trees : List (Key × Located)}
    {f : RecordField α} (h : Gives n members f x) (hDepth : n ≤ depth)
    (hTrees : ShowsMembers depth trees members) : Slots.get ⟨namedTrees trees⟩ f = .ok x := by
  rcases h with ⟨v, hLookup, hDecode⟩ | ⟨hLookup, hDefault⟩
  · obtain ⟨tree, hTree, hShown⟩ := lookup_namedTrees hTrees hLookup
    simp only [Slots.get, hTree]
    exact hDecode depth tree hDepth hShown
  · rw [lookup_eq_none_iff, ← keys_namedTrees hTrees, ← lookup_eq_none_iff] at hLookup
    simp only [Slots.get, hLookup, hDefault]

/-- A record is decoded of the text of an object if every member is for a field and every field
gets what it takes: each field has the value that the members give it. -/
theorem decodesTo_record (what : String) {rules : List FieldRule} {members : List (String × Json)}
    {build : Slots → Except DecodeError α} (hNames : (rules.map (·.name)).Nodup)
    (hMembers : List.Sublist (members.map (·.1)) (rules.map (·.name)))
    (hServed : ∀ rule ∈ rules, Serves n members rule)
    (hBuild : ∀ slots : Slots, (∀ {β : Type} {f : RecordField β} {y : β}, Gives n members f y →
      slots.get f = .ok y) → build slots = .ok x) :
    DecodesTo (n + 1) (fun l => do
      let slots ← l.record what rules
      build slots) (.object members) x := by
  intro limit tree hLimit hShows
  cases hShows with
  | deepObject => cases hLimit
  | @object _ span _ _ hTrees =>
    have hDepth := Nat.le_of_succ_le_succ hLimit
    have hRecord := record_of_serves what span hNames hMembers hServed hDepth hTrees
    simp only [hRecord, bind, Except.bind]
    exact hBuild _ fun hGives => get_of_gives hGives hDepth hTrees

/-! ### Members that may be left out -/

theorem optionalMember_some (name : String) (v : Json) :
    optionalMember name id (some v) = [(name, v)] :=
  rfl

theorem optionalMember_map {β : Type} (name : String) (toJson : β → Json) (value : Option β) :
    optionalMember name id (value.map toJson) = optionalMember name toJson value := by
  cases value <;> rfl

/-- The members of a record of whose fields some have no value. -/
def writtenMembers (parts : List (String × Option Json)) : List (String × Json) :=
  parts.flatMap fun part => optionalMember part.1 id part.2

theorem keys_writtenMembers_sublist (parts : List (String × Option Json)) :
    List.Sublist ((writtenMembers parts).map (·.1)) (parts.map (·.1)) := by
  induction parts with
  | nil => exact List.Sublist.refl _
  | cons part parts ih =>
    obtain ⟨name, value⟩ := part
    cases value with
    | none => exact ih.cons name
    | some v => exact ih.cons_cons name

theorem lookup_writtenMembers {parts : List (String × Option Json)} {name : String}
    {value : Option Json} (hNames : (parts.map (·.1)).Nodup) (h : (name, value) ∈ parts) :
    (writtenMembers parts).lookup name = value := by
  induction parts with
  | nil => cases h
  | cons part parts ih =>
    obtain ⟨hFirst, hRest⟩ := List.nodup_cons.mp hNames
    have hSplit : writtenMembers (part :: parts) =
        optionalMember part.1 id part.2 ++ writtenMembers parts := List.flatMap_cons
    rw [hSplit, List.lookup_append]
    rcases List.mem_cons.mp h with rfl | h
    · cases value with
      | some v => rw [optionalMember_some, List.lookup_cons_self, Option.some_or]
      | none =>
        -- The key does not come again in the rest.
        have hNone : (writtenMembers parts).lookup name = none :=
          lookup_eq_none_iff.mpr fun hKey =>
            hFirst ((keys_writtenMembers_sublist parts).subset hKey)
        rw [hNone]
        rfl
    · have hOther : name ≠ part.1 := by
        rintro rfl
        exact hFirst (List.mem_map.mpr ⟨_, h, rfl⟩)
      have hNone : (optionalMember part.1 id part.2).lookup name = none := by
        cases part.2 with
        | none => rfl
        | some v =>
          rw [optionalMember_some, List.lookup_cons, beq_false_of_ne hOther, List.lookup_nil]
      rw [hNone, Option.none_or, ih hRest h]

theorem exact_writtenMembers {parts : List (String × Option Json)}
    (h : ∀ part ∈ parts, ∀ v ∈ part.2, v.Exact) : (Json.object (writtenMembers parts)).Exact := by
  refine .object fun m hm => ?_
  obtain ⟨⟨name, value⟩, hPart, hm⟩ := List.mem_flatMap.mp hm
  cases value with
  | none => cases hm
  | some v =>
    cases List.mem_singleton.mp hm
    exact h _ hPart v rfl

theorem exact_of_mem_some (h : v.Exact) : ∀ w ∈ some v, w.Exact := by
  rintro _ ⟨⟩
  exact h

theorem exact_of_mem_map {toJson : α → Json} {value : Option α} (h : ∀ x, (toJson x).Exact) :
    ∀ v ∈ value.map toJson, v.Exact := by
  intro v hv
  obtain ⟨x, -, rfl⟩ := Option.map_eq_some_iff.mp hv
  exact h x

theorem exact_list {toJson : α → Json} {xs : List α} (h : ∀ x, (toJson x).Exact) :
    (Json.array (xs.map toJson)).Exact :=
  .array (List.forall_mem_map.mpr fun x _ => h x)

section Fields

variable {parts : List (String × Option Json)} {f : RecordField α}

theorem gives_of_some (hNames : (parts.map (·.1)).Nodup) (hPart : (f.name, some v) ∈ parts)
    (h : DecodesTo m f.read v x) (hLe : m ≤ n) : Gives n (writtenMembers parts) f x :=
  .inl ⟨v, lookup_writtenMembers hNames hPart, h.mono hLe⟩

theorem gives_of_map {f : RecordField (Option α)} {toJson : α → Json} {value : Option α}
    (hField : f = .nullable f.name decode) (hNames : (parts.map (·.1)).Nodup)
    (hPart : (f.name, value.map toJson) ∈ parts) (h : ∀ x ∈ value, DecodesTo m decode (toJson x) x)
    (hNull : ∀ x, toJson x ≠ .null) (hLe : m ≤ n) : Gives n (writtenMembers parts) f value := by
  have hLookup := lookup_writtenMembers hNames hPart
  rw [hField]
  cases value with
  | none => exact .inr ⟨hLookup, rfl⟩
  | some x => exact .inl ⟨_, hLookup, ((h x rfl).optional (hNull x)).mono hLe⟩

end Fields

end Worklist.Json
