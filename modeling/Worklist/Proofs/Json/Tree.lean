import Worklist.Json.Located

/-!
# JSON values as trees

Induction principles whose cases for lists and objects speak of all items and of all members at
once, for values and for values with their places.
-/

namespace Worklist.Json

@[elab_as_elim, induction_eliminator]
theorem treeInduction {motive : Json → Prop} (null : motive .null)
    (bool : ∀ b, motive (.bool b)) (number : ∀ n, motive (.number n))
    (string : ∀ s, motive (.string s))
    (array : ∀ items, (∀ v ∈ items, motive v) → motive (.array items))
    (object : ∀ members, (∀ m ∈ members, motive m.2) → motive (.object members))
    (v : Json) : motive v := by
  refine @Json.rec motive (fun vs => ∀ v ∈ vs, motive v) (fun ms => ∀ m ∈ ms, motive m.2)
    (fun m => motive m.2) null bool number string array object ?_ ?_ ?_ ?_ ?_ v
  · intro v hv
    cases hv
  · intro first rest hFirst hRest v hv
    rcases List.mem_cons.mp hv with rfl | hv
    · exact hFirst
    · exact hRest v hv
  · intro m hm
    cases hm
  · intro first rest hFirst hRest m hm
    rcases List.mem_cons.mp hm with rfl | hm
    · exact hFirst
    · exact hRest m hm
  · intro key v hv
    exact hv

@[elab_as_elim, induction_eliminator]
theorem Located.treeInduction {motive : Located → Prop} (null : ∀ span, motive (.null span))
    (bool : ∀ span b, motive (.bool span b)) (number : ∀ span n, motive (.number span n))
    (string : ∀ span s, motive (.string span s))
    (array : ∀ span items ending, (∀ l ∈ items, motive l) → motive (.array span items ending))
    (object : ∀ span members ending, (∀ m ∈ members, motive m.2) →
      motive (.object span members ending))
    (unreadable : ∀ start fault skipped, motive (.unreadable start fault skipped))
    (l : Located) : motive l := by
  refine @Located.rec motive (fun ls => ∀ l ∈ ls, motive l) (fun ms => ∀ m ∈ ms, motive m.2)
    (fun m => motive m.2) null bool number string array object unreadable ?_ ?_ ?_ ?_ ?_ l
  · intro l hl
    cases hl
  · intro first rest hFirst hRest l hl
    rcases List.mem_cons.mp hl with rfl | hl
    · exact hFirst
    · exact hRest l hl
  · intro m hm
    cases hm
  · intro first rest hFirst hRest m hm
    rcases List.mem_cons.mp hm with rfl | hm
    · exact hFirst
    · exact hRest m hm
  · intro key l hl
    exact hl

end Worklist.Json
