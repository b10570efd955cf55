import Worklist.Proofs.Listing.Search

/-!
# What a search leaves behind

A search reads the items, and all that it changes is the registry, which is told of the host. That
comes first, so it happens whatever becomes of the search. What the search finds hangs on what the
registry knows by then: a link of the host is a text to a registry that has not been told of it. But
a registry that has been told of a host learns nothing when it is told again, so the same search
finds the same once more.
-/

namespace Worklist.Listing

open HostRegistry (after_of_answer_ne_true after_registerHost_again answer_registerHost_again)
open Tracker (Dataset)

variable {d : Dataset} {sizes : PageSizes} {r : ListRequest} {text h : String}
  {registry : HostRegistry} {err : RegistryError}

/-- The registry once it has been told of the host, if there is one. -/
def toldOf (registry : HostRegistry) : Option String → HostRegistry
  | none => registry
  | some host => registry.after (.registerHost host)

/-- A host that is refused is not registered. -/
theorem toldOf_refused (hRefused : (registry.registerHost h).1 = .error err) :
    toldOf registry (some h) = registry := by
  apply after_of_answer_ne_true
  intro hTrue
  cases hRefused.symm.trans hTrue

/-- A search that is not refused is made with the registry that has been told of the host. -/
theorem search_of_registered {added : Bool} (hAdded : (registry.registerHost h).1 = .ok added) :
    search d sizes r text (some h) registry =
      (searchWith d sizes r text (toldOf registry (some h)), toldOf registry (some h)) :=
  search_of_told ⟨added, Prod.ext hAdded rfl⟩

/-- The registry is left as it is once it has been told of the host, and as it was if there is no
host or the host is refused. Made again, the search gives the same page or the same error, and the
registry stays as it is. -/
theorem search_just_tells_of_host (d : Dataset) (sizes : PageSizes) (r : ListRequest)
    (text : String) (host : Option String) (registry : HostRegistry) :
    (search d sizes r text host registry).2 = toldOf registry host ∧
    (host = none ∨ (∃ h err, host = some h ∧ (registry.registerHost h).1 = .error err) →
      toldOf registry host = registry) ∧
    search d sizes r text host (search d sizes r text host registry).2 =
      search d sizes r text host registry := by
  cases host with
  | none => exact ⟨rfl, fun _ => rfl, rfl⟩
  | some h =>
    cases hAnswer : (registry.registerHost h).1 with
    | error err =>
      rw [search_of_refused hAnswer]
      exact ⟨(toldOf_refused hAnswer).symm, fun _ => toldOf_refused hAnswer,
        search_of_refused hAnswer⟩
    | ok added =>
      rw [search_of_registered hAnswer]
      refine ⟨rfl, ?_, ?_⟩
      · rintro (⟨⟨⟩⟩ | ⟨_, err, ⟨⟩, hRefused⟩)
        cases hRefused.symm.trans hAnswer
      · -- The registry knows the host now, so it learns nothing when it is told again.
        have hNothingNew : ((toldOf registry (some h)).registerHost h).1 = .ok false :=
          answer_registerHost_again hAnswer
        have hAgain : toldOf (toldOf registry (some h)) (some h) = toldOf registry (some h) :=
          after_registerHost_again registry h
        change search d sizes r text (some h) (toldOf registry (some h)) = _
        rw [search_of_registered hNothingNew, hAgain]

theorem search_for_link_again :
    (search twoSpaces .standard anyNumber "work.example/home/plan/detail/1" (some "/") .empty).2 =
      .empty ∧
    search twoSpaces .standard anyNumber "work.example/home/plan/detail/1" (some "work.example")
        (HostRegistry.empty.after (.registerHost "work.example")) =
      search twoSpaces .standard anyNumber "work.example/home/plan/detail/1" (some "work.example")
        .empty := by
  have hRefused : (HostRegistry.empty.registerHost "/").1 = .error .emptyHost := by cbv
  obtain ⟨hAfter, hNothing, -⟩ := search_just_tells_of_host twoSpaces .standard anyNumber
    "work.example/home/plan/detail/1" (some "/") .empty
  obtain ⟨hTold, -, hAgain⟩ := search_just_tells_of_host twoSpaces .standard anyNumber
    "work.example/home/plan/detail/1" (some "work.example") .empty
  constructor
  · rw [hAfter]
    exact hNothing (.inr ⟨"/", .emptyHost, rfl, hRefused⟩)
  · rw [hTold] at hAgain
    exact hAgain

end Worklist.Listing
