import Mathlib.Data.List.DropRight
import Worklist.Display.Links
import Worklist.Display.Outline
import Worklist.Display.WorkItems
import Worklist.Proofs.Filter.Expression
import Worklist.Proofs.Text.Blank
import Worklist.Proofs.Text.Numeral
import Worklist.Proofs.Text.Quoted
import Worklist.Proofs.Tracker.Record
import Worklist.Proofs.Uuid

/-!
# Colors change nothing but colors

A terminal takes the control sequences out of what is shown and displays the rest. For a text with
colors the rest is the text without colors, character by character: the sequences change no width of
a column, and they do not keep blanks at the end of a line that would go without them.

`unstyled` takes the sequences out. `Shows colored plain` says that this leaves `plain` of `colored`
whatever stands behind it, so that texts can be put together.
-/

namespace Worklist.Display

/-! ### Taking control sequences out -/

/-- What stands behind a control sequence for a style, if the text goes on with one after its first
character. -/
def afterSequence? : List Char → Option (List Char)
  | '[' :: cs =>
    match cs.takeWhile Char.isDigit, cs.dropWhile Char.isDigit with
    | _ :: _, 'm' :: rest => some rest
    | _, _ => none
  | _ => none

theorem length_of_afterSequence? {cs rest : List Char} (h : afterSequence? cs = some rest) :
    rest.length < cs.length := by
  unfold afterSequence? at h
  split at h
  · rename_i tail
    split at h
    · rename_i hDrop
      cases h
      have hLength := (List.dropWhile_sublist (l := tail) Char.isDigit).length_le
      rw [hDrop] at hLength
      simp only [List.length_cons] at hLength ⊢
      omega
    · cases h
  · cases h

/-- A text without its control sequences for styles. -/
def unstyled : List Char → List Char
  | [] => []
  | c :: cs =>
    if c = '\x1b' then
      match _ : afterSequence? cs with
      | some rest => unstyled rest
      | none => c :: unstyled cs
    else c :: unstyled cs
termination_by cs => cs.length
decreasing_by
  · have hLength := length_of_afterSequence? ‹_›
    simp only [List.length_cons]
    omega
  · simp
  · simp

/-- The text does not hold the character with which control sequences start. -/
def Plain (cs : List Char) : Prop :=
  '\x1b' ∉ cs

instance : DecidablePred Plain := fun cs =>
  inferInstanceAs (Decidable ('\x1b' ∉ cs))

/-- Without its control sequences the first text is the second one, whatever follows. -/
def Shows (colored plain : List Char) : Prop :=
  ∀ rest, unstyled (colored ++ rest) = plain ++ unstyled rest

section Shows

variable {a b cs ds rest code : List Char}

theorem unstyled_cons_of_ne {c : Char} (h : c ≠ '\x1b') :
    unstyled (c :: cs) = c :: unstyled cs := by
  rw [unstyled, if_neg h]

theorem afterSequence?_sequence (hNe : code ≠ []) (hDigits : ∀ c ∈ code, c.isDigit = true)
    (rest : List Char) :
    afterSequence? ('[' :: (code ++ 'm' :: rest)) = some rest := by
  have hTake : (code ++ 'm' :: rest).takeWhile Char.isDigit = code := by
    rw [List.takeWhile_append_of_pos hDigits, List.takeWhile_cons_of_neg (by decide),
      List.append_nil]
  have hDrop : (code ++ 'm' :: rest).dropWhile Char.isDigit = 'm' :: rest := by
    rw [List.dropWhile_append_of_pos hDigits, List.dropWhile_cons_of_neg (by decide)]
  obtain ⟨d, ds, rfl⟩ := List.exists_cons_of_ne_nil hNe
  simp only [afterSequence?, hTake, hDrop]

theorem unstyled_sequence (hNe : code ≠ []) (hDigits : ∀ c ∈ code, c.isDigit = true) :
    unstyled (Style.sequence code ++ rest) = unstyled rest := by
  have hAfter := afterSequence?_sequence hNe hDigits rest
  have hEq : Style.sequence code ++ rest = '\x1b' :: '[' :: (code ++ 'm' :: rest) := by
    simp [Style.sequence]
  rw [hEq, unstyled, if_pos rfl]
  split
  · rename_i hSome
    rw [hAfter] at hSome
    cases hSome
    rfl
  · rename_i hNone
    rw [hAfter] at hNone
    cases hNone

theorem Shows.unstyled_eq (h : Shows a b) : unstyled a = b := by
  have hAlone := h []
  rwa [List.append_nil, unstyled, List.append_nil] at hAlone

theorem Shows.append (h : Shows a b) (h' : Shows cs ds) : Shows (a ++ cs) (b ++ ds) := by
  intro rest
  rw [List.append_assoc, h, h', List.append_assoc]

theorem Shows.flatMap {α : Type} {f g : α → List Char} {xs : List α}
    (h : ∀ x ∈ xs, Shows (f x) (g x)) : Shows (xs.flatMap f) (xs.flatMap g) := by
  induction xs with
  | nil =>
    intro rest
    rfl
  | cons x xs ih =>
    rw [List.flatMap_cons, List.flatMap_cons]
    exact (h x List.mem_cons_self).append (ih fun y hy => h y (List.mem_cons_of_mem x hy))

theorem Plain.shows (h : Plain cs) : Shows cs cs := by
  intro rest
  induction cs with
  | nil => rfl
  | cons c cs ih =>
    have hNe : c ≠ '\x1b' := fun hEq => h (hEq ▸ List.mem_cons_self)
    rw [List.cons_append, unstyled_cons_of_ne hNe, List.cons_append,
      ih fun hMem => h (List.mem_cons_of_mem c hMem)]

theorem Plain.append (h : Plain a) (h' : Plain b) : Plain (a ++ b) := by
  intro hMem
  rcases List.mem_append.mp hMem with hMem | hMem
  · exact h hMem
  · exact h' hMem

theorem Plain.sublist (h : Plain cs) (hSub : ds.Sublist cs) : Plain ds :=
  fun hMem => h (hSub.subset hMem)

theorem plain_of_not_control (h : ∀ c ∈ cs, 0x20 ≤ c.toNat) : Plain cs :=
  fun hMem => absurd (h _ hMem) (by decide)

theorem Style.code_digits (style : Style) :
    (style.start ≠ [] ∧ ∀ c ∈ style.start, c.isDigit = true) ∧
      style.stop ≠ [] ∧ ∀ c ∈ style.stop, c.isDigit = true := by
  simp only [← List.all_eq_true]
  cases style <;> decide

theorem Plain.shows_paint (h : Plain cs) (style : Style) : Shows (style.paint true cs) cs := by
  obtain ⟨⟨hStart, hStartDigits⟩, hStop, hStopDigits⟩ := style.code_digits
  intro rest
  have hPaint : style.paint true cs ++ rest =
      Style.sequence style.start ++ (cs ++ (Style.sequence style.stop ++ rest)) := by
    simp [Style.paint]
  rw [hPaint, unstyled_sequence hStart hStartDigits, h.shows,
    unstyled_sequence hStop hStopDigits]

end Shows

/-! ### Texts without control sequences -/

section Plain

variable {cs : List Char} {width : Nat}

theorem plain_padding (width : Nat) (cs : List Char) : Plain (padding width cs) := by
  intro hMem
  exact absurd (List.eq_of_mem_replicate hMem) (by decide)

theorem Plain.clip (h : Plain cs) : Plain (clip width cs) := by
  unfold Display.clip
  split
  · exact (h.sublist (List.take_sublist _ _)).append (by decide)
  · exact h

theorem Plain.flushLeft (h : Plain cs) : Plain (flushLeft width cs) :=
  h.append (plain_padding width cs)

theorem Plain.flushRight (h : Plain cs) : Plain (flushRight width cs) :=
  (plain_padding width cs).append h

theorem plain_decimal (n : Nat) : Plain (Text.decimal n) :=
  fun hMem => absurd (Text.isDigit_of_mem_decimal hMem) (by decide)

theorem plain_decimalInt (n : Int) : Plain (Text.decimalInt n) := by
  intro hMem
  rcases Text.mem_decimalInt hMem with hSign | hDigit
  · exact absurd hSign (by decide)
  · exact absurd hDigit (by decide)

theorem plain_uuid (u : Uuid) : Plain u.chars := by
  intro hMem
  rcases Uuid.mem_chars hMem with hHyphen | ⟨d, hDigit⟩
  · exact absurd hHyphen (by decide)
  · have hAll : ∀ d : Fin 16, '\x1b' ≠ Uuid.digitChar d := by decide
    exact hAll d hDigit

theorem plain_labelText {labels : List String} (h : ∀ l ∈ labels, Plain l.toList) :
    Plain (labelText labels) := by
  intro hMem
  rcases mem_intercalate hMem with hSep | ⟨t, ht, hMem⟩
  · exact absurd hSep (by decide)
  · obtain ⟨l, hl, rfl⟩ := List.mem_map.mp ht
    rcases List.mem_cons.mp hMem with hAt | hMem
    · exact absurd hAt (by decide)
    · exact h l hl hMem

/-- Quoted texts are plain whatever they quote. -/
theorem plain_literal (l : Filter.Literal) : Plain l.display.toList := by
  cases l with
  | text s =>
    apply plain_of_not_control
    intro c hc
    rw [Filter.Literal.display, Text.quoted, String.toList_ofList] at hc
    exact Text.control_not_mem_quote hc
  | uuid u =>
    rw [Filter.Literal.display, Uuid.text, String.toList_ofList]
    exact plain_uuid u
  | number n =>
    rw [Filter.Literal.display, String.toList_ofList]
    exact plain_decimalInt n.toInt
  | bool b => cases b <;> decide
  | texts items => exact plain_of_not_control fun c hc => Text.control_not_mem_quotedList hc

end Plain

/-! ### Lines of items -/

section Lines

variable {before cell after : List Char}

theorem getLast?_paint (style : Style) (cs : List Char) :
    (style.paint true cs).getLast? = some 'm' := by
  rw [Style.paint, if_pos rfl, Style.sequence, Style.sequence, ← List.append_assoc,
    List.getLast?_concat]

/-- A painted cell that ends with something visible does not change which blanks are left off the
end of its line. -/
theorem shows_trimEnd_paint (style : Style) (hBefore : Plain before) (hCell : Plain cell)
    (hAfter : Plain after) (hEnd : ∃ c ∈ cell.getLast?, Text.isBlank c = false) :
    Shows (Text.trimEnd (before ++ style.paint true cell ++ after))
      (Text.trimEnd (before ++ cell ++ after)) := by
  have hFront := hBefore.shows.append (hCell.shows_paint style)
  by_cases hVisible : ∃ c ∈ after, Text.isBlank c = false
  · rw [Text.trimEnd_append_of_exists hVisible, Text.trimEnd_append_of_exists hVisible]
    exact hFront.append (hAfter.sublist (Text.trimEnd_sublist after)).shows
  · -- The cell is the last thing to be seen, and so is the sequence behind it.
    have hBlank : ∀ c ∈ after, Text.isBlank c = true := by
      intro c hc
      by_contra hNot
      exact hVisible ⟨c, hc, Bool.eq_false_iff.mpr hNot⟩
    have hPainted : ∃ c ∈ (style.paint true cell).getLast?, Text.isBlank c = false :=
      ⟨'m', getLast?_paint style cell, by decide⟩
    rw [Text.trimEnd_append_of_blank hBlank, Text.trimEnd_append_of_visible hPainted,
      Text.trimEnd_append_of_blank hBlank, Text.trimEnd_append_of_visible hEnd]
    exact hFront

theorem stateStyle?_visible {state : List Char} {style : Style}
    (h : stateStyle? state = some style) : ∃ c ∈ state.getLast?, Text.isBlank c = false := by
  unfold stateStyle? at h
  split_ifs at h with hNew hOpen hResolved hClosed
  · exact ⟨'w', by rw [hNew]; decide, by decide⟩
  · rcases hOpen with hOpen | hProgress
    · exact ⟨'n', by rw [hOpen]; decide, by decide⟩
    · exact ⟨'s', by rw [hProgress]; decide, by decide⟩
  · exact ⟨'d', by rw [hResolved]; decide, by decide⟩
  · exact ⟨'d', by rw [hClosed]; decide, by decide⟩

/-- A state is shown in the style that it has, if it has one. -/
theorem stateCell_cases (state : List Char) :
    (∀ colors, stateCell colors state = clip 12 state ++ padding 12 (clip 12 state)) ∨
      ∃ style, stateStyle? (clip 12 state) = some style ∧ ∀ colors, stateCell colors state =
        style.paint colors (clip 12 state) ++ padding 12 (clip 12 state) := by
  cases hStyle : stateStyle? (clip 12 state) with
  | none =>
    left
    intro colors
    simp only [stateCell, hStyle]
  | some style =>
    right
    refine ⟨style, rfl, ?_⟩
    intro colors
    simp only [stateCell, hStyle]

/-- No text of the item starts a control sequence. -/
structure PlainItem (w : Tracker.WorkItem) : Prop where
  typeName : Plain w.typeName.toList
  state : Plain w.state.toList
  title : Plain w.title.toList
  labels : ∀ l ∈ w.labels, Plain l.toList

/-- What stands in front of the state of an item. -/
def beforeState (w : Tracker.WorkItem) : List Char :=
  flushRight 6 (Text.decimalInt w.number.toInt) ++ [' '] ++ flushLeft 10 (shortId w.id) ++ [' '] ++
    flushLeft 9 (clip 9 w.typeName.toList) ++ [' ']

/-- What stands behind the state of an item, up to the end of the line. -/
def afterState (w : Tracker.WorkItem) : List Char :=
  padding 12 (clip 12 w.state.toList) ++ [' '] ++ flushLeft 40 (clip 40 w.title.toList) ++ [' '] ++
    clip 30 (labelText w.labels)

variable {w : Tracker.WorkItem}

theorem PlainItem.beforeState (h : PlainItem w) : Plain (beforeState w) := by
  have hSpace : Plain [' '] := by decide
  have hNumber : Plain (flushRight 6 (Text.decimalInt w.number.toInt)) :=
    (plain_decimalInt _).flushRight
  have hId : Plain (flushLeft 10 (shortId w.id)) :=
    ((plain_uuid w.id).sublist (List.take_sublist 8 _)).flushLeft
  have hType : Plain (flushLeft 9 (clip 9 w.typeName.toList)) := h.typeName.clip.flushLeft
  exact ((((hNumber.append hSpace).append hId).append hSpace).append hType).append hSpace

theorem PlainItem.afterState (h : PlainItem w) : Plain (afterState w) := by
  have hSpace : Plain [' '] := by decide
  have hPadding := plain_padding 12 (clip 12 w.state.toList)
  have hTitle : Plain (flushLeft 40 (clip 40 w.title.toList)) := h.title.clip.flushLeft
  have hLabels : Plain (clip 30 (labelText w.labels)) := (plain_labelText h.labels).clip
  exact (((hPadding.append hSpace).append hTitle).append hSpace).append hLabels

theorem itemLine_eq {colors : Bool} {cell : List Char}
    (h : stateCell colors w.state.toList = cell ++ padding 12 (clip 12 w.state.toList)) :
    itemLine colors w = Text.trimEnd (beforeState w ++ cell ++ afterState w) ++ ['\n'] := by
  simp only [itemLine, cells, h, beforeState, afterState, List.append_assoc]

theorem shows_itemLine (h : PlainItem w) : Shows (itemLine true w) (itemLine false w) := by
  have hLineEnd : Shows ['\n'] ['\n'] := Plain.shows (by decide)
  have hState : Plain (clip 12 w.state.toList) := h.state.clip
  rcases stateCell_cases w.state.toList with hCell | ⟨style, hStyle, hCell⟩
  · rw [itemLine_eq (hCell true), itemLine_eq (hCell false)]
    have hLine := (h.beforeState.append hState).append h.afterState
    exact (hLine.sublist (Text.trimEnd_sublist _)).shows.append hLineEnd
  · rw [itemLine_eq (hCell true), itemLine_eq (hCell false), Style.paint_false]
    exact (shows_trimEnd_paint style h.beforeState hState h.afterState
      (stateStyle?_visible hStyle)).append hLineEnd

end Lines

/-! ### Pages, links and filters -/

/-- No text of the page starts a control sequence. -/
structure PlainPage (p : Listing.Page Tracker.WorkItem) : Prop where
  items : ∀ w ∈ p.rows, PlainItem w
  next : ∀ url ∈ p.links.next, Plain url.toList

/-- No address starts a control sequence. -/
structure PlainLinks (l : PageLinks) : Prop where
  first : Plain l.first.toList
  prev : ∀ url ∈ l.prev, Plain url.toList
  next : ∀ url ∈ l.next, Plain url.toList
  last : Plain l.last.toList

theorem shows_headLine : Shows (headLine true) (headLine false) := by
  have hHead : Plain (cells "#".toList "ID".toList "Type".toList (flushLeft 12 "State".toList)
      "Title".toList "Labels".toList) := by
    decide
  exact (hHead.shows_paint .dimmed).append (Plain.shows (by decide))

theorem plain_summary {p : Listing.Page Tracker.WorkItem}
    (h : ∀ url ∈ p.links.next, Plain url.toList) : Plain (summary p) := by
  have hFrom := Plain.append (a := ['\n'] ++ "Showing ".toList) (by decide)
    (plain_decimal (p.request.offset + 1))
  have hTo := (hFrom.append (b := ['-']) (by decide)).append
    (plain_decimal (p.request.offset + p.rows.length))
  have hCount := (hTo.append (b := " of ".toList) (by decide)).append (plain_decimal p.totalCount)
  have hRows := hCount.append (b := ['\n']) (by decide)
  unfold summary
  cases hNext : p.links.next with
  | none => exact hRows.append (by decide)
  | some url =>
    have hUrl := Plain.append (a := "Next: ".toList) (by decide) (h url hNext)
    exact hRows.append (hUrl.append (by decide))

theorem shows_pageTable {p : Listing.Page Tracker.WorkItem} (h : PlainPage p) :
    Shows (pageTable true p) (pageTable false p) := by
  unfold pageTable
  split
  · have hCount := Plain.append (a := "No work items found (".toList) (by decide)
      (plain_decimal p.totalCount)
    exact (hCount.append (by decide)).shows
  · have hItems := Shows.flatMap fun w hw => shows_itemLine (h.items w hw)
    exact (shows_headLine.append hItems).append (plain_summary h.next).shows

theorem shows_linkLine {name : String} (hName : Plain (flushLeft 6 name.toList))
    {url : Option String} (hUrl : ∀ u ∈ url, Plain u.toList) :
    Shows (linkLine true name url) (linkLine false name url) := by
  have hLabel := hName.shows_paint .bold
  have hLineEnd : Shows ['\n'] ['\n'] := Plain.shows (by decide)
  cases url with
  | none =>
    have hHyphen : Plain ['-'] := by decide
    exact (hLabel.append (hHyphen.shows_paint .dimmed)).append hLineEnd
  | some u => exact (hLabel.append (hUrl u rfl).shows).append hLineEnd

theorem shows_linkTable {l : PageLinks} (h : PlainLinks l) :
    Shows (linkTable true l) (linkTable false l) := by
  have hFirst : ∀ u ∈ some l.first, Plain u.toList := by
    rintro _ ⟨⟩
    exact h.first
  have hLast : ∀ u ∈ some l.last, Plain u.toList := by
    rintro _ ⟨⟩
    exact h.last
  exact (((shows_linkLine (by decide) hFirst).append (shows_linkLine (by decide) h.prev)).append
    (shows_linkLine (by decide) h.next)).append (shows_linkLine (by decide) hLast)

section Outline

open Worklist.Filter (Expression)

theorem plain_indent (depth : Nat) : Plain (indent depth) :=
  fun hMem => absurd (List.eq_of_mem_replicate hMem) (by decide)

theorem plain_leafLine {depth : Nat} {e : Expression} (h : Plain e.display.toList) :
    Plain (leafLine depth e) :=
  ((plain_indent depth).append h).append (by decide)

theorem shows_wordLine (depth : Nat) {word : String} (h : Plain word.toList) :
    Shows (wordLine true depth word) (wordLine false depth word) :=
  ((plain_indent depth).shows.append (h.shows_paint .bold)).append (Plain.shows (by decide))

theorem outlines_eq_flatMap (colors : Bool) (depth : Nat) (es : List Expression) :
    outlines colors depth es = es.flatMap (outline colors depth) := by
  induction es with
  | nil => rfl
  | cons e rest ih => rw [outlines, ih, List.flatMap_cons]

/-- By induction on the expression. Only lines with a word are painted. -/
theorem shows_outline {e : Expression} (h : ∀ name ∈ e.fields, Plain name.toList) (depth : Nat) :
    Shows (outline true depth e) (outline false depth e) := by
  induction e generalizing depth with
  | literal l =>
    apply (plain_leafLine _).shows
    rw [Expression.display]
    exact plain_literal l
  | field name =>
    apply (plain_leafLine _).shows
    rw [Expression.display]
    exact h name List.mem_cons_self
  | equals name l =>
    apply (plain_leafLine _).shows
    rw [Expression.display, String.toList_append, String.toList_append]
    exact ((h name List.mem_cons_self).append (by decide)).append (plain_literal l)
  | isNull name =>
    apply (plain_leafLine _).shows
    rw [Expression.display, String.toList_append]
    exact (h name List.mem_cons_self).append (by decide)
  | not e ih => exact (shows_wordLine depth (by decide)).append (ih h (depth + 1))
  | group c members ih =>
    have hWord : Plain c.word.toList := by cases c <;> decide
    rw [outline, outline, outlines_eq_flatMap, outlines_eq_flatMap]
    refine (shows_wordLine depth hWord).append (Shows.flatMap ?_)
    intro e he
    refine ih e he ?_ (depth + 1)
    intro name hName
    apply h
    rw [Expression.fields, Expression.fieldsOf_eq_flatMap]
    exact List.mem_flatMap.mpr ⟨e, he, hName⟩

end Outline

/-- Once the control sequences are taken out of a page, of links or of a filter with colors, what is
left is what is shown without colors. The texts shown must not bring control sequences of their own;
those that a filter compares with may, since they are quoted. -/
theorem colors_change_nothing_but_colors :
    (∀ p : Listing.Page Tracker.WorkItem, PlainPage p →
      unstyled (pageTable true p) = pageTable false p) ∧
    (∀ l : PageLinks, PlainLinks l → unstyled (linkTable true l) = linkTable false l) ∧
    ∀ filter : Option Filter.Expression,
      (∀ e ∈ filter, ∀ name ∈ e.fields, Plain name.toList) →
      unstyled (filterOutline true filter) = filterOutline false filter := by
  refine ⟨?_, ?_, ?_⟩
  · intro p h
    exact (shows_pageTable h).unstyled_eq
  · intro l h
    exact (shows_linkTable h).unstyled_eq
  · intro filter h
    cases filter with
    | none => exact (Plain.shows (by decide)).unstyled_eq
    | some e => exact (shows_outline (h e rfl) 0).unstyled_eq

/-- An item that is open and has neither a title nor labels, so that its state ends the line. -/
def untitled : Tracker.WorkItem :=
  { Tracker.unplanned with state := "open", title := "" }

/-- A page with this item alone. -/
def untitledPage : Listing.Page Tracker.WorkItem where
  rows := [untitled]
  totalCount := 1
  links := ⟨"/i?0", none, none, "/i?0"⟩
  request := ⟨0, 1, by decide⟩

theorem untitledPage_is_plain :
    unstyled (pageTable true untitledPage) = pageTable false untitledPage ∧
      pageTable true untitledPage ≠ pageTable false untitledPage ∧
      unstyled (linkTable true untitledPage.links) = linkTable false untitledPage.links ∧
      unstyled (filterOutline true (some (.not (.equals "title" (.text "\x1b[1m"))))) =
        "NOT\n  title = \"\\u\x7b1b\x7d[1m\"\n".toList := by
  obtain ⟨hPages, hLinks, hFilters⟩ := colors_change_nothing_but_colors
  have hItem : PlainItem untitled := ⟨by decide, by decide, by decide, by decide⟩
  have hName : ∀ name ∈ (Filter.Expression.not (.equals "title" (.text "\x1b[1m"))).fields,
      Plain name.toList := by
    decide
  refine ⟨hPages _ ⟨?_, by decide⟩, ?_, hLinks _ ⟨by decide, by decide, by decide, by decide⟩, ?_⟩
  · intro w hw
    rw [List.mem_singleton.mp hw]
    exact hItem
  · intro hEq
    exact absurd (congrArg List.head? hEq) (by decide)
  · rw [hFilters]
    · decide +kernel
    · rintro _ ⟨⟩
      exact hName

end Worklist.Display
