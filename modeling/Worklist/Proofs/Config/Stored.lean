import Worklist.Config.Stored
import Worklist.Proofs.Toml.Reader

/-!
# Configurations read back

The document that is written for a configuration is read as that configuration. Only a number that
does not fit the integers of a document keeps a configuration from being written.
-/

namespace Worklist.Config

open Text (decimal maxInt64)
open Toml (Members Value Document Leads Reads EndsMarks writeQuoted readItems skipLines)

variable {rest : List Char}

/-! ### Lists of texts -/

theorem skipLines_cons {c : Char} (hLine : c ≠ '\n') (hReturn : c ≠ '\r') (hComment : c ≠ '#')
    (hSpace : Toml.isSpace c = false) : skipLines false (c :: rest) = some (c :: rest) := by
  rw [skipLines]
  · exact if_neg (by rw [hSpace]; exact Bool.false_ne_true)
  all_goals
    intros
    contradiction

theorem readItems_congr {cs cs' : List Char} (h : skipLines false cs = skipLines false cs')
    (steps depth : Nat) : readItems (steps + 1) depth cs = readItems (steps + 1) depth cs' := by
  rw [readItems, readItems, h]

theorem readItems_last (steps depth : Nat) (s : String) :
    readItems (steps + 2) depth (writeQuoted s.toList ++ ']' :: rest) =
      some ([.text s], rest) := by
  have hEnds : EndsMarks (']' :: rest) := Toml.endsMarks_cons (by decide)
  have hValue := Toml.readValue_writeQuoted steps depth hEnds s
  have hNext : skipLines false (']' :: rest) = some (']' :: rest) := rfl
  obtain ⟨c, tail, hWritten, hMark⟩ := Toml.exists_cons_writeQuoted s.toList
  rw [hWritten, List.cons_append] at hValue ⊢
  rcases hMark with rfl | rfl
  · rw [readItems, skipLines_cons (by decide) (by decide) (by decide) (by decide)]
    simp [hValue, hNext]
  · rw [readItems, skipLines_cons (by decide) (by decide) (by decide) (by decide)]
    simp [hValue, hNext]

theorem readItems_more {steps depth : Nat} {values : List Value} {rest' : List Char}
    (h : readItems (steps + 1) depth rest = some (values, rest')) (s : String) :
    readItems (steps + 2) depth (writeQuoted s.toList ++ ',' :: rest) =
      some (.text s :: values, rest') := by
  have hEnds : EndsMarks (',' :: rest) := Toml.endsMarks_cons (by decide)
  have hValue := Toml.readValue_writeQuoted steps depth hEnds s
  have hNext : skipLines false (',' :: rest) = some (',' :: rest) := rfl
  obtain ⟨c, tail, hWritten, hMark⟩ := Toml.exists_cons_writeQuoted s.toList
  rw [hWritten, List.cons_append] at hValue ⊢
  rcases hMark with rfl | rfl
  · rw [readItems, skipLines_cons (by decide) (by decide) (by decide) (by decide)]
    simp [hValue, hNext, h]
  · rw [readItems, skipLines_cons (by decide) (by decide) (by decide) (by decide)]
    simp [hValue, hNext, h]

theorem readItems_lines {steps depth : Nat} (items : List String) (h : items.length + 1 < steps) :
    readItems steps depth (items.flatMap writeItem ++ '\n' :: ']' :: rest) =
      some (items.map .text, rest) := by
  induction items generalizing steps with
  | nil =>
    obtain ⟨steps, rfl⟩ := Nat.exists_eq_succ_of_ne_zero (Nat.ne_zero_of_lt h)
    have hEnd : skipLines false ('\n' :: ']' :: rest) = some (']' :: rest) := rfl
    rw [List.flatMap_nil, List.nil_append, readItems, hEnd]
    rfl
  | cons s items ih =>
    rw [List.length_cons] at h
    obtain ⟨steps, rfl⟩ : ∃ k, steps = k + 2 := ⟨steps - 2, by omega⟩
    have hItems : (s :: items).flatMap writeItem ++ '\n' :: ']' :: rest =
        '\n' :: ' ' :: ' ' :: ' ' :: ' ' :: (writeQuoted s.toList ++ ',' ::
          (items.flatMap writeItem ++ '\n' :: ']' :: rest)) := by
      simp [writeItem]
    have hIndent : ∀ cs, skipLines false ('\n' :: ' ' :: ' ' :: ' ' :: ' ' :: cs) =
        skipLines false cs := fun _ => rfl
    rw [hItems, readItems_congr (hIndent _)]
    exact readItems_more (ih (by omega)) s

theorem length_le_flatMap_writeItem (items : List String) :
    items.length ≤ (items.flatMap writeItem).length := by
  induction items with
  | nil => exact Nat.zero_le _
  | cons s items ih =>
    have hItem : 1 ≤ (writeItem s).length := by simp [writeItem]
    rw [List.flatMap_cons, List.length_append, List.length_cons]
    omega

theorem reads_texts {items : List String} (h : items ≠ []) :
    Reads (writeTexts items) (.list (items.map .text)) := by
  have hList : ∀ steps tail rest, readItems steps 78 tail = some (items.map .text, rest) →
      Toml.readValue (steps + 1) Toml.maxDepth ('[' :: tail) =
        some (.list (items.map .text), rest) := by
    intro steps tail rest hItems
    have hDepth : Toml.maxDepth - 1 = 78 := rfl
    rw [Toml.readValue, if_neg (by decide), hDepth, hItems]
    rfl
  cases items with
  | nil => exact absurd rfl h
  | cons s items =>
    cases items with
    | nil =>
      constructor
      · exact fun tail => ⟨'[', _, rfl, rfl⟩
      · intro tail steps hSteps
        have hLength : 3 ≤ (writeTexts [s]).length := by
          obtain ⟨c, more, hWritten, -⟩ := Toml.exists_cons_writeQuoted s.toList
          simp [writeTexts, hWritten]
        obtain ⟨steps, rfl⟩ : ∃ k, steps = k + 3 := ⟨steps - 3, by omega⟩
        have hText : writeTexts [s] ++ '\n' :: tail =
            '[' :: (writeQuoted s.toList ++ ']' :: '\n' :: tail) := by
          simp [writeTexts]
        rw [hText]
        exact hList _ _ _ (readItems_last steps 78 s)
    | cons s' items =>
      constructor
      · exact fun tail => ⟨'[', _, rfl, rfl⟩
      · intro tail steps hSteps
        have hItems := length_le_flatMap_writeItem (s :: s' :: items)
        have hLength : (writeTexts (s :: s' :: items)).length =
            ((s :: s' :: items).flatMap writeItem).length + 3 := by
          simp [writeTexts]
          omega
        obtain ⟨steps, rfl⟩ : ∃ k, steps = k + 1 := ⟨steps - 1, by omega⟩
        have hText : writeTexts (s :: s' :: items) ++ '\n' :: tail =
            '[' :: ((s :: s' :: items).flatMap writeItem ++ '\n' :: ']' :: '\n' :: tail) := by
          simp [writeTexts]
        rw [hText]
        exact hList _ _ _ (readItems_lines _ (by omega))

theorem reads_boolean (b : Bool) : Reads (writeBoolean b) (.boolean b) := by
  cases b with
  | false => exact Toml.reads_scalar (List.cons_ne_nil _ _) (List.all_eq_true.mp rfl) rfl
  | true => exact Toml.reads_scalar (List.cons_ne_nil _ _) (List.all_eq_true.mp rfl) rfl

/-! ### Documents -/

/-- The member for a value that may be missing. -/
def settled {α : Type} (key : String) (value : α → Value) (o : Option α) : Members :=
  match o with
  | some x => [(key, value x)]
  | none => []

section Lines

variable {α : Type} {key : String} {write : α → List Char} {value : α → Value} {o : Option α}
  {m inner : Members} {name : String}

theorem leads_line_to_root {written : List Char} {v : Value} (hKey : Toml.isBare key = true)
    (hReads : Reads written v) (hNew : m.lookup key = none) (rest : List Char) :
    Leads ⟨m, []⟩ (line key written ++ rest) ⟨m ++ [(key, v)], []⟩ rest := by
  have hText : line key written ++ rest =
      key.toList ++ ' ' :: '=' :: ' ' :: (written ++ '\n' :: rest) := by
    simp [line]
  rw [hText]
  exact Toml.leads_setting hKey hReads (Toml.add_to_root hNew v) rest

theorem leads_line_to_table {written : List Char} {v : Value} (hKey : Toml.isBare key = true)
    (hReads : Reads written v) (hName : m.lookup name = none) (hNew : inner.lookup key = none)
    (rest : List Char) :
    Leads ⟨m ++ [(name, .table .header inner)], [name]⟩ (line key written ++ rest)
      ⟨m ++ [(name, .table .header (inner ++ [(key, v)]))], [name]⟩ rest := by
  have hText : line key written ++ rest =
      key.toList ++ ' ' :: '=' :: ' ' :: (written ++ '\n' :: rest) := by
    simp [line]
  rw [hText]
  exact Toml.leads_setting hKey hReads (Toml.add_to_table hName hNew v) rest

/-- A line of the root that may be missing adds its member, if it is there. -/
theorem leads_optionalLine_to_root (hKey : Toml.isBare key = true)
    (hReads : ∀ x ∈ o, Reads (write x) (value x)) (hNew : m.lookup key = none)
    (rest : List Char) :
    Leads ⟨m, []⟩ (optionalLine key write o ++ rest) ⟨m ++ settled key value o, []⟩ rest := by
  cases o with
  | none =>
    rw [settled, List.append_nil]
    exact .refl _ _
  | some x => exact leads_line_to_root hKey (hReads x rfl) hNew rest

/-- A line of a table that may be missing adds its member, if it is there. -/
theorem leads_optionalLine_to_table (hKey : Toml.isBare key = true)
    (hReads : ∀ x ∈ o, Reads (write x) (value x)) (hName : m.lookup name = none)
    (hNew : inner.lookup key = none) (rest : List Char) :
    Leads ⟨m ++ [(name, .table .header inner)], [name]⟩ (optionalLine key write o ++ rest)
      ⟨m ++ [(name, .table .header (inner ++ settled key value o))], [name]⟩ rest := by
  cases o with
  | none =>
    rw [settled, List.append_nil]
    exact .refl _ _
  | some x => exact leads_line_to_table hKey (hReads x rfl) hName hNew rest

theorem leads_header (hName : Toml.isBare name = true) (hNew : m.lookup name = none)
    (path : List String) (rest : List Char) :
    Leads ⟨m, path⟩ (header name ++ rest) ⟨m ++ [(name, .table .header [])], [name]⟩ rest := by
  have hText : header name ++ rest = '\n' :: '[' :: (name.toList ++ ']' :: '\n' :: rest) := by
    simp [header]
  rw [hText]
  exact (Toml.leads_emptyLine _ _).trans (Toml.leads_header hName hNew rest)

end Lines

/-- The numbers of a configuration fit the integers of a document. -/
structure Fits (c : Config) : Prop where
  defaultLimit : ∀ n ∈ c.defaultLimit, n ≤ maxInt64
  maxLimit : ∀ n ∈ c.maxLimit, n ≤ maxInt64

theorem write?_eq_some {c : Config} {text : String} (h : c.write? = some text) :
    c.Fits ∧ text = String.ofList c.document := by
  unfold write? at h
  dsimp only at h
  split_ifs at h with hFits
  rw [Option.all_eq_true, Option.all_eq_true] at hFits
  refine ⟨⟨?_, ?_⟩, (Option.some.inj h).symm⟩
  · exact fun n hn => of_decide_eq_true (hFits.1 n hn)
  · exact fun n hn => of_decide_eq_true (hFits.2 n hn)

/-- A number as a value. -/
def number (n : Nat) : Value :=
  .integer (Int64.ofInt n)

/-- The values of the root. -/
def settings (c : Config) : Members :=
  [("version", number version)] ++ settled "data" (fun p : Path => .text p.text) c.data ++
    settled "known_hosts" (fun hosts => .list (hosts.map .text)) c.knownHosts?

/-- The values of pages. -/
def pagingSettings (c : Config) : Members :=
  settled "default_limit" number c.defaultLimit ++ settled "max_limit" number c.maxLimit

/-- The values of output. -/
def outputSettings (c : Config) : Members :=
  settled "color" .boolean c.color

/-- The table of a document. -/
def root (c : Config) : Members :=
  c.settings ++ [("paging", .table .header c.pagingSettings)] ++
    [("output", .table .header c.outputSettings)]

theorem knownHosts?_ne_nil {c : Config} {hosts : List String} (h : hosts ∈ c.knownHosts?) :
    hosts ≠ [] := by
  unfold knownHosts? at h
  split_ifs at h with hNil
  · cases h
  · rw [← Option.some.inj h]
    exact hNil

theorem lookup_settled {α : Type} {key other : String} (hne : other ≠ key) (value : α → Value)
    (o : Option α) : (settled key value o).lookup other = none := by
  cases o with
  | none => rfl
  | some x =>
    rw [settled, List.lookup_cons, beq_eq_false_iff_ne.mpr hne]
    rfl

theorem lookup_settings_new {c : Config} {key : String} (hVersion : key ≠ "version")
    (hData : key ≠ "data") (hHosts : key ≠ "known_hosts") : c.settings.lookup key = none := by
  rw [settings, List.lookup_append, List.lookup_append, lookup_settled hData,
    lookup_settled hHosts, List.lookup_cons, beq_eq_false_iff_ne.mpr hVersion]
  rfl

/-- The document of a configuration is read as the table of its settings. -/
theorem parse_document {c : Config} (h : c.Fits) : Toml.parse c.document = some c.root := by
  have hNumber : ∀ n, n ≤ maxInt64 → Reads (decimal n) (number n) := fun n hn =>
    Toml.reads_decimal hn
  have hPaging : c.settings.lookup "paging" = none :=
    lookup_settings_new (by decide) (by decide) (by decide)
  have hOutput : List.lookup "output"
      (c.settings ++ [("paging", Value.table .header c.pagingSettings)]) = none := by
    rw [List.lookup_append, lookup_settings_new (by decide) (by decide) (by decide)]
    rfl
  have hKnown : List.lookup "known_hosts" ([("version", number version)] ++
      settled "data" (fun p : Path => .text p.text) c.data) = none := by
    rw [List.lookup_append, lookup_settled (by decide)]
    rfl
  have hMax : List.lookup "max_limit" (settled "default_limit" number c.defaultLimit) = none :=
    lookup_settled (by decide) _ _
  have hVersionLine := leads_line_to_root (m := []) (by decide : Toml.isBare "version" = true)
    (hNumber version (by decide)) rfl
  have hDataLine := leads_optionalLine_to_root (m := [("version", number version)]) (o := c.data)
    (by decide : Toml.isBare "data" = true) (fun p _ => Toml.reads_text p.text) rfl
  have hHostsLine := leads_optionalLine_to_root (o := c.knownHosts?)
    (by decide : Toml.isBare "known_hosts" = true)
    (fun hosts hHosts => reads_texts (knownHosts?_ne_nil hHosts)) hKnown
  have hDefaultLine := leads_optionalLine_to_table (o := c.defaultLimit)
    (by decide : Toml.isBare "default_limit" = true)
    (fun n hn => hNumber n (h.defaultLimit n hn)) hPaging (List.lookup_nil)
  have hMaxLine := leads_optionalLine_to_table (o := c.maxLimit)
    (by decide : Toml.isBare "max_limit" = true)
    (fun n hn => hNumber n (h.maxLimit n hn)) hPaging hMax
  have hColorLine := leads_optionalLine_to_table (o := c.color)
    (by decide : Toml.isBare "color" = true) (fun b _ => reads_boolean b) hOutput
    (List.lookup_nil)
  have hAll : Leads .empty (c.document ++ []) ⟨c.root, ["output"]⟩ [] := by
    simp only [document, List.append_assoc]
    refine (hVersionLine _).trans ((hDataLine _).trans ((hHostsLine _).trans ?_))
    refine (leads_header (by decide) hPaging _ _).trans ((hDefaultLine _).trans ?_)
    refine (hMaxLine _).trans ((leads_header (by decide) hOutput _ _).trans ?_)
    exact hColorLine _
  rw [List.append_nil] at hAll
  exact hAll.parse (by rintro tail ⟨⟩)

/-! ### Values -/

section Values

variable {α β : Type} {m : Members} {key : String}

theorem lookup_settled_self (key : String) (value : α → Value) (o : Option α) :
    (settled key value o).lookup key = o.map value := by
  cases o with
  | none => rfl
  | some x =>
    rw [settled, List.lookup_cons_self]
    rfl

theorem member?_eq_some {value : α → Value} {read : Value → Option β} {o : Option α} {f : α → β}
    (hLookup : m.lookup key = o.map value) (hRead : ∀ x ∈ o, read (value x) = some (f x)) :
    member? m key read = some (o.map f) := by
  rw [member?, hLookup]
  cases o with
  | none => rfl
  | some x =>
    change (read (value x)).map some = _
    rw [hRead x rfl]
    rfl

end Values

theorem natural?_number {most n : Nat} (hMost : n ≤ most) (hWord : n ≤ maxInt64) :
    natural? most (number n) = some n := by
  have hInt : (Int64.ofInt n).toInt = n := by
    unfold maxInt64 at hWord
    exact Int64.toInt_ofInt_of_le (by omega) (by omega)
  have hBounds : 0 ≤ (n : Int) ∧ (n : Int) ≤ most := by omega
  rw [number, natural?, hInt, if_pos hBounds, Int.toNat_natCast]

theorem texts?_list (hosts : List String) : texts? (.list (hosts.map .text)) = some hosts := by
  rw [texts?]
  induction hosts with
  | nil => rfl
  | cons host hosts ih =>
    rw [List.map_cons, List.mapM_cons, ih]
    rfl

variable {c : Config}

theorem paging?_pagingSettings (h : c.Fits) :
    paging? (.table .header c.pagingSettings) = some (c.defaultLimit, c.maxLimit) := by
  have hWord : maxInt64 ≤ Text.maxUInt64 := by decide
  have hDefault : c.pagingSettings.lookup "default_limit" = c.defaultLimit.map number := by
    rw [pagingSettings, List.lookup_append, lookup_settled_self, lookup_settled (by decide),
      Option.or_none]
  have hMax : c.pagingSettings.lookup "max_limit" = c.maxLimit.map number := by
    rw [pagingSettings, List.lookup_append, lookup_settled_self, lookup_settled (by decide),
      Option.none_or]
  rw [paging?, member?_eq_some (f := id) hDefault fun n hn =>
      natural?_number ((h.defaultLimit n hn).trans hWord) (h.defaultLimit n hn),
    member?_eq_some (f := id) hMax fun n hn =>
      natural?_number ((h.maxLimit n hn).trans hWord) (h.maxLimit n hn),
    Option.map_id]
  rfl

theorem output?_outputSettings : output? (.table .header c.outputSettings) = some c.color := by
  have hColor : c.outputSettings.lookup "color" = c.color.map .boolean :=
    lookup_settled_self _ _ _
  rw [output?, member?_eq_some (f := id) hColor fun b _ => rfl, Option.map_id]
  rfl

theorem lookup_root_of_settings {key : String} {v : Option Value}
    (h : c.settings.lookup key = v) (hPaging : key ≠ "paging") (hOutput : key ≠ "output") :
    c.root.lookup key = v := by
  rw [root, List.lookup_append, List.lookup_append, h, List.lookup_cons,
    beq_eq_false_iff_ne.mpr hPaging, List.lookup_cons, beq_eq_false_iff_ne.mpr hOutput]
  simp

/-- The table of a configuration is read as that configuration. -/
theorem ofMembers_root (h : c.Fits) : ofMembers c.root = .ok c := by
  have hVersion : c.root.lookup "version" = (some version).map number := by
    refine lookup_root_of_settings ?_ (by decide) (by decide)
    rw [settings, List.append_assoc]
    rfl
  have hData : c.root.lookup "data" = c.data.map fun p => .text p.text := by
    refine lookup_root_of_settings ?_ (by decide) (by decide)
    rw [settings, List.lookup_append, List.lookup_append, lookup_settled_self,
      lookup_settled (by decide), Option.or_none]
    rfl
  have hHosts : c.root.lookup "known_hosts" =
      c.knownHosts?.map fun hosts => .list (hosts.map .text) := by
    refine lookup_root_of_settings ?_ (by decide) (by decide)
    rw [settings, List.lookup_append, List.lookup_append, lookup_settled_self,
      lookup_settled (by decide)]
    rfl
  have hNew : ∀ key, key ≠ "version" → key ≠ "data" → key ≠ "known_hosts" →
      c.settings.lookup key = none := fun key => lookup_settings_new
  have hPaging : c.root.lookup "paging" =
      (some c.pagingSettings).map (Value.table .header) := by
    rw [root, List.lookup_append, List.lookup_append, hNew _ (by decide) (by decide) (by decide)]
    rfl
  have hOutput : c.root.lookup "output" = (some c.outputSettings).map (Value.table .header) := by
    rw [root, List.lookup_append, List.lookup_append, hNew _ (by decide) (by decide) (by decide)]
    rfl
  have hKnown : c.knownHosts?.getD [] = c.knownHosts := by
    unfold knownHosts?
    split_ifs with hNil
    · exact hNil.symm
    · rfl
  have hPath : (c.data.map Path.text).map Path.mk = c.data := by
    cases c.data with
    | none => rfl
    | some p => rfl
  rw [ofMembers, member?_eq_some (f := id) hVersion fun n hn => by
      obtain rfl := Option.some.inj hn
      exact natural?_number (by decide) (by decide),
    member?_eq_some (f := Path.text) hData fun p _ => rfl,
    member?_eq_some (f := id) hHosts fun hosts _ => texts?_list hosts,
    member?_eq_some (f := fun _ => (c.defaultLimit, c.maxLimit)) hPaging fun m hm => by
      obtain rfl := Option.some.inj hm
      exact paging?_pagingSettings h,
    member?_eq_some (f := fun _ => c.color) hOutput fun m hm => by
      obtain rfl := Option.some.inj hm
      exact output?_outputSettings]
  simp [hKnown, hPath]

/-- A configuration is read from what is written for it. -/
theorem parse_write {text : String} (h : c.write? = some text) : parse text = .ok c := by
  obtain ⟨hFits, rfl⟩ := write?_eq_some h
  rw [parse, String.toList_ofList, parse_document hFits]
  exact ofMembers_root hFits

end Worklist.Config
