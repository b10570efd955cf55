import Worklist.Proofs.Filter.Joined
import Worklist.Proofs.Listing.Exactness
import Worklist.Proofs.Listing.Resolution

/-!
# Searches are exact

A search finds, in order, the items with the number or the text that is searched for among the items
that the listing with the same filter shows. So a search for a number shows the same page as the
listing whose filter asks for the number as well.
-/

namespace Worklist.Listing

open Worklist.Filter (Composition Expression joinedText meetsFilter)
open Tracker (Dataset WorkItem settled_of_parse workItemFields)

variable {d : Dataset} {r : ListRequest} {sizes : PageSizes} {f : Option Expression}
  {query : SearchQuery} {registry known : HostRegistry} {text : String}

/-! ### What is found -/

/-- The item has the number, or the text in its title in whatever case. -/
def SearchQuery.Finds : SearchQuery → WorkItem → Prop
  | .number n, w => w.number = n
  | .text s, w => Text.lowercase s.toList <:+: Text.lowercase w.title.toList

instance (query : SearchQuery) : DecidablePred query.Finds := fun w =>
  match query with
  | .number n => inferInstanceAs (Decidable (w.number = n))
  | .text s =>
    inferInstanceAs (Decidable (Text.lowercase s.toList <:+: Text.lowercase w.title.toList))

theorem occursIn_iff {needle cs : List Char} : occursIn needle cs = true ↔ needle <:+: cs := by
  induction cs with
  | nil => simp [occursIn]
  | cons c cs ih => simp [occursIn, ih, List.infix_cons_iff]

theorem titleContains_eq (s : String) (w : WorkItem) :
    titleContains s w = decide ((SearchQuery.text s).Finds w) := by
  rw [Bool.eq_iff_iff, decide_eq_true_iff]
  exact occursIn_iff

/-- The items that meet a filter, in order. -/
def listedItems (d : Dataset) (filter : Option Expression) : List WorkItem :=
  sortByNumber (d.workItems.filter (meetsFilter ·.record filter))

theorem matchingItems_of_settled (h : ∀ w : WorkItem, ∀ e, f = some e → e.Settled w.record) :
    matchingItems d f = .ok (listedItems d f) := by
  cases f with
  | none => simp [matchingItems, listedItems, meetsFilter]
  | some e =>
    have hSettled : ∀ w ∈ d.workItems, e.Settled w.record := fun w _ => h w e rfl
    simp only [matchingItems, Filter.Expression.select_of_settled WorkItem.record hSettled]
    rfl

theorem listedItems_and {g : Option Expression} {p : WorkItem → Bool}
    (h : ∀ w : WorkItem, meetsFilter w.record g = (meetsFilter w.record f && p w)) :
    listedItems d g = (listedItems d f).filter p := by
  rw [listedItems, listedItems, ← sortByNumber_filter, List.filter_filter]
  refine congrArg sortByNumber (List.filter_congr fun w _ => ?_)
  rw [h, Bool.and_comm]

theorem record_number (w : WorkItem) :
    w.record Tracker.numberAttribute = some (.number w.number) :=
  rfl

theorem settled_number (n : Int64) (w : WorkItem) :
    (Expression.equals Tracker.numberAttribute (.number n)).Settled w.record :=
  .equals (record_number w) _

theorem meets_number (n : Int64) (w : WorkItem) :
    (Expression.equals Tracker.numberAttribute (.number n)).meets w.record =
      decide ((SearchQuery.number n).Finds w) := by
  rw [Expression.meets_equals (record_number w)]
  rfl

/-- A number is found by a constraint that is added to the filter, a text in what is listed. -/
theorem foundItems_of_settled (h : ∀ w : WorkItem, ∀ e, f = some e → e.Settled w.record) :
    foundItems d query f = .ok ((listedItems d f).filter fun w => query.Finds w) := by
  cases query with
  | text s =>
    rw [foundItems, matchingItems_of_settled h, funext (titleContains_eq s)]
    rfl
  | number n =>
    let constraint := Expression.equals Tracker.numberAttribute (.number n)
    have hAll : ∀ w : WorkItem, ∀ e ∈ f.toList ++ [constraint], e.Settled w.record := by
      intro w e he
      rcases List.mem_append.mp he with he | he
      · exact h w e (Option.mem_toList.mp he)
      · exact List.mem_singleton.mp he ▸ settled_number n w
    have hSettled : ∀ w : WorkItem, ∀ e, Filter.conjoin f [constraint] = some e →
        e.Settled w.record := by
      intro w e he
      refine (Composition.wants_join (hAll w)).2 e ?_
      rw [Filter.conjoin] at he
      rw [he]
      rfl
    have hMeets : ∀ w : WorkItem, meetsFilter w.record (Filter.conjoin f [constraint]) =
        (meetsFilter w.record f && decide ((SearchQuery.number n).Finds w)) := by
      intro w
      rw [← Composition.wants_ofExpression?, Filter.conjoin, (Composition.wants_join (hAll w)).1,
        List.all_append, List.all_cons, List.all_nil, Bool.and_true, meets_number]
      cases f <;> simp [meetsFilter]
    exact (matchingItems_of_settled hSettled).trans (congrArg _ (listedItems_and hMeets))

/-! ### The filter for a number -/

/-- The filter that asks for a number. -/
def numberFilter (n : Int64) : List (String × Json) :=
  [("number", .number (.whole n.toInt))]

/-- The text of the filter that asks for a number. -/
def numberText (n : Int64) : List Char :=
  '\x7b' :: (Json.stringText "number" ++ ':' :: ' ' :: (Text.decimalInt n.toInt ++ ['\x7d']))

/-- The same request with a filter that asks for a number as well. -/
def ListRequest.narrowed (r : ListRequest) (n : Int64) : ListRequest :=
  { r with filter := some (joinedText (r.filter.getD "") (numberText n)) }

theorem layout_numberText (n : Int64) : Json.Layout (.object (numberFilter n)) (numberText n) := by
  have hMember : Json.MemberLayout ("number", .number (.whole n.toInt))
      (Json.stringText "number" ++ ([] ++ ':' :: ([' '] ++ Text.decimalInt n.toInt))) :=
    .mk .nil .space (.whole (Json.fitsWord_toInt n))
  have hRow := Json.Row.cons (.first .nil) hMember (.nil .nil)
  simpa [numberText, numberFilter] using Json.Layout.object hRow

theorem keyed_numberFilter (n : Int64) : (Json.object (numberFilter n)).Keyed :=
  .object (by simp [numberFilter]) (List.forall_mem_singleton.mpr .number)

theorem ofJson_numberFilter (n : Int64) :
    Filter.ofJson workItemFields (.object (numberFilter n)) =
      .ok (.equals Tracker.numberAttribute (.number n)) := by
  rw [Filter.ofJson_says_iff (keyed_numberFilter n), numberFilter,
    Filter.says_single_iff (by decide)]
  refine .field (by decide) (by rfl) (.literal ?_)
  simp [Filter.FieldDef.literal, Filter.FieldDef.literal?, Text.toInt64?_toInt]

/-! ### Answers -/

/-- The page has the requested ones of the listed items and counts all of them. -/
structure IsSliceOf (listed : List WorkItem) (request : PageRequest) (page : Page WorkItem) : Prop
    where
  rows : page.rows = (listed.drop request.offset).take request.limit
  totalCount : page.totalCount = listed.length
  request : page.request = request

/-- The registry is known once it has been told of the host, if there is one. -/
def Told (registry : HostRegistry) : Option String → HostRegistry → Prop
  | none, known => known = registry
  | some host, known => ∃ added, registry.registerHost host = (.ok added, known)

theorem search_of_told {host : Option String} (h : Told registry host known) :
    search d sizes r text host registry = (searchWith d sizes r text known, known) := by
  cases host with
  | none =>
    cases h
    rfl
  | some host =>
    obtain ⟨added, h⟩ := h
    simp [search, registerFor, h]

theorem list_unscoped {s : ListRequest}
    (h : Filter.parse workItemFields (s.filter.getD "") = .ok f) :
    list (itemSource d) sizes s (CommandLine.listScope d none false) =
      .ok (s.finish (s.page sizes) (pageOf (listedItems d f) (s.page sizes))) := by
  have hAll : wantedItems d none false f = d.workItems.filter (meetsFilter ·.record f) :=
    List.filter_congr fun w _ => Bool.and_true _
  rw [list_eq_ok h, hAll]
  rfl

theorem resolve_of_blank (h : ∀ c ∈ text.toList, Text.isBlank c = true) :
    SearchQuery.resolve text known = .error .emptyQuery := by
  rw [SearchQuery.resolve, Text.trim_eq_nil_iff.mpr h]

theorem exists_resolve (known : HostRegistry) (h : ¬∀ c ∈ text.toList, Text.isBlank c = true) :
    ∃ query, SearchQuery.resolve text known = .ok query := by
  rw [SearchQuery.resolve_of_not_blank (mt Text.trim_eq_nil_iff.mp h)]
  split
  · exact ⟨_, rfl⟩
  · exact ⟨_, rfl⟩

theorem searchWith_of_blank (h : ∀ c ∈ text.toList, Text.isBlank c = true) :
    searchWith d sizes r text known = .error .emptyQuery := by
  rw [searchWith, resolve_of_blank h]
  rfl

theorem searchWith_of_fault {fault : Filter.FilterError}
    (h : ¬∀ c ∈ text.toList, Text.isBlank c = true)
    (hFilter : Filter.parse workItemFields (r.filter.getD "") = .error fault) :
    searchWith d sizes r text known = .error (.badFilter fault) := by
  obtain ⟨query, hQuery⟩ := exists_resolve known h
  have hUser : r.userFilter = .error (.badFilter fault) :=
    mapError_eq_error_iff.mpr ⟨fault, hFilter, rfl⟩
  rw [searchWith, hQuery, hUser]
  rfl

theorem searchWith_of_query (hQuery : SearchQuery.resolve text known = .ok query)
    (hFilter : Filter.parse workItemFields (r.filter.getD "") = .ok f) :
    searchWith d sizes r text known = .ok (r.finish (r.page sizes)
      (pageOf ((listedItems d f).filter fun w => query.Finds w) (r.page sizes))) := by
  have hUser : r.userFilter = .ok f := mapError_eq_ok_iff.mpr hFilter
  rw [searchWith, hQuery, hUser]
  simp only [bind, Except.bind, foundItems_of_settled fun w => settled_of_parse w hFilter]
  rfl

/-- The listing whose filter asks for the number as well is answered with the page that is found. -/
theorem list_narrowed {n : Int64} {f' : Option Expression}
    (hFilter : Filter.parse workItemFields (r.filter.getD "") = .ok f)
    (hJoined : Filter.parse workItemFields ((r.narrowed n).filter.getD "") = .ok f') :
    list (itemSource d) sizes (r.narrowed n) (CommandLine.listScope d none false) =
      .ok (r.finish (r.page sizes)
        (pageOf ((listedItems d f).filter fun w => (SearchQuery.number n).Finds w)
          (r.page sizes))) := by
  obtain rfl := Filter.eq_joined_of_parse hFilter (layout_numberText n) (keyed_numberFilter n)
    (ofJson_numberFilter n) hJoined
  have hMeets : ∀ w : WorkItem, meetsFilter w.record (some (Filter.joined f
      (.equals Tracker.numberAttribute (.number n)))) =
        (meetsFilter w.record f && decide ((SearchQuery.number n).Finds w)) := by
    intro w
    rw [← meets_number]
    exact Filter.meets_joined (settled_of_parse w hFilter) (settled_number n w)
  rw [list_unscoped hJoined, listedItems_and hMeets]
  rfl

theorem search_of_refused {h : String} {err : RegistryError}
    (hRefused : (registry.registerHost h).1 = .error err) :
    search d sizes r text (some h) registry = (.error (.registry err), registry) := by
  have hSame : (registry.registerHost h).2 = registry :=
    HostRegistry.after_of_answer_ne_true (c := .registerHost h) fun hTrue => by
      cases hRefused.symm.trans hTrue
  have hAnswer : registry.registerHost h = (.error err, registry) := Prod.ext hRefused hSame
  simp [search, registerFor, hAnswer]

/-- Searching fails with the error of the registry if the host is refused, or else because the text
is blank, or else because the filter cannot be read. Otherwise the page has the requested ones of
the items that the query finds among those that the listing with the same filter shows. It is the
page of the listing whose filter asks for the number as well, if a number is searched for and that
filter is accepted. -/
theorem search_is_exact (d : Dataset) (sizes : PageSizes) (r : ListRequest) (text : String)
    (host : Option String) (registry : HostRegistry) :
    (∀ h ∈ host, ∀ err, (registry.registerHost h).1 = .error err →
      search d sizes r text host registry = (.error (.registry err), registry)) ∧
    ∀ known, Told registry host known →
      (search d sizes r text host registry = (.error .emptyQuery, known) ↔
        ∀ c ∈ text.toList, Text.isBlank c = true) ∧
      (∀ fault, search d sizes r text host registry = (.error (.badFilter fault), known) ↔
        (¬∀ c ∈ text.toList, Text.isBlank c = true) ∧
          Filter.parse workItemFields (r.filter.getD "") = .error fault) ∧
      ∀ filter, (¬∀ c ∈ text.toList, Text.isBlank c = true) →
        Filter.parse workItemFields (r.filter.getD "") = .ok filter →
        ∃ query page listed, SearchQuery.resolve text known = .ok query ∧
          search d sizes r text host registry = (.ok page, known) ∧
          OrderedByNumber (d.workItems.filter (meetsFilter ·.record filter)) listed ∧
          (∀ s : ListRequest, s.filter = r.filter → ∃ shown,
            list (itemSource d) sizes s (CommandLine.listScope d none false) = .ok shown ∧
              IsSliceOf listed (s.page sizes) shown) ∧
          IsSliceOf (listed.filter fun w => query.Finds w) (r.page sizes) page ∧
          ∀ n narrow, query = .number n →
            Filter.parse workItemFields ((r.narrowed n).filter.getD "") = .ok narrow →
            list (itemSource d) sizes (r.narrowed n) (CommandLine.listScope d none false) =
              .ok page := by
  refine ⟨?_, fun known hTold => ?_⟩
  · rintro h ⟨⟩ err hErr
    exact search_of_refused hErr
  rw [search_of_told hTold]
  by_cases hBlank : ∀ c ∈ text.toList, Text.isBlank c = true
  · rw [searchWith_of_blank hBlank]
    refine ⟨iff_of_true rfl hBlank, fun fault => iff_of_false ?_ fun h => h.1 hBlank,
      fun filter h => absurd hBlank h⟩
    rintro ⟨⟩
  cases hFilter : Filter.parse workItemFields (r.filter.getD "") with
  | error fault =>
    rw [searchWith_of_fault hBlank hFilter]
    refine ⟨iff_of_false ?_ hBlank, fun fault' => ?_, ?_⟩
    · rintro ⟨⟩
    · simp only [Prod.mk.injEq, Except.error.injEq, ListingError.badFilter.injEq, and_true]
      exact ⟨fun h => ⟨hBlank, h⟩, And.right⟩
    · rintro filter - ⟨⟩
  | ok f =>
    obtain ⟨query, hQuery⟩ := exists_resolve known hBlank
    rw [searchWith_of_query hQuery hFilter]
    refine ⟨iff_of_false ?_ hBlank, fun fault' => iff_of_false ?_ ?_, ?_⟩
    · rintro ⟨⟩
    · rintro ⟨⟩
    · rintro ⟨-, ⟨⟩⟩
    · rintro filter - ⟨⟩
      refine ⟨query, _, listedItems d f, hQuery, rfl, orderedByNumber_sortByNumber _, ?_,
        ⟨rfl, rfl, rfl⟩, ?_⟩
      · intro s hSame
        exact ⟨_, list_unscoped (hSame ▸ hFilter), rfl, rfl, rfl⟩
      · rintro n joined rfl hJoined
        exact list_narrowed hFilter hJoined

theorem text_narrowed : (anyNumber.narrowed 1).filter.getD "" =
    "\x7b\"$AND\": [\x7b\"$OR\":[\x7b\"number\":1\x7d,\x7b\"number\":1,\"negate\":true" ++
      "\x7d]\x7d, \x7b\"number\": 1\x7d]\x7d" := by
  decide +kernel

theorem parse_narrowed : Filter.parse workItemFields ((anyNumber.narrowed 1).filter.getD "") =
    .ok (some (.group .all [oneOrNot, .equals Tracker.numberAttribute (.number 1)])) := by
  rw [text_narrowed]
  cbv

theorem search_for_one :
    (search twoSpaces .standard anyNumber "number: 1" (some "/") .empty).1 =
      .error (.registry .emptyHost) ∧
    ∃ page known, search twoSpaces .standard anyNumber "number: 1" none .empty = (.ok page, known) ∧
      page.totalCount = 3 ∧ list (itemSource twoSpaces) .standard (anyNumber.narrowed 1)
        (CommandLine.listScope twoSpaces none false) = .ok page := by
  have hRefused : (HostRegistry.empty.registerHost "/").1 = .error .emptyHost := by cbv
  have hQuery : SearchQuery.resolve "number: 1" .empty = .ok (.number 1) := by cbv
  have hText : ¬∀ c ∈ "number: 1".toList, Text.isBlank c = true := by
    intro h
    exact absurd (h 'n' (by simp)) (by decide +kernel)
  obtain ⟨hError, -⟩ :=
    search_is_exact twoSpaces .standard anyNumber "number: 1" (some "/") .empty
  obtain ⟨-, hKnown⟩ := search_is_exact twoSpaces .standard anyNumber "number: 1" none .empty
  obtain ⟨query, page, listed, hResolve, hSearch, hOrdered, -, hFound, hList⟩ :=
    (hKnown .empty rfl).2.2 _ hText parse_anyNumber
  cases hResolve.symm.trans hQuery
  refine ⟨by rw [hError "/" rfl _ hRefused], page, _, hSearch, ?_, hList 1 _ rfl parse_narrowed⟩
  rw [hFound.totalCount, orderedByNumber_iff.mp hOrdered]
  cbv

end Worklist.Listing
