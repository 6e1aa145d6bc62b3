import Mathlib.Data.Finset.Card
import Phrasebook.Proofs.Firsts

/-!
# `Phrasebook.Proofs.Distinct`: how many keys there are

Cutting a list into the elements that come first with their key and the others also
counts its keys. Every element is on one of the two sides
(`length_firsts_add_length_repeats`), and there is one first for each key
(`length_firsts`). So the repeats are as many as the list is longer than the set of its
keys.
-/

set_option autoImplicit false

namespace Phrasebook

variable {α : Type} {key : α → String} {known : List String}

/-- Every element comes first with its key or repeats it. -/
theorem length_firsts_add_length_repeats (known : List String) (xs : List α) :
    (firsts key known xs).length + (repeats key known xs).length = xs.length := by
  induction xs generalizing known with
  | nil => rfl
  | cons x xs ih =>
      have hrest := ih (key x :: known)
      rw [firsts, repeats]
      split
      · simp only [List.length_cons]
        omega
      · simp only [List.length_cons]
        omega

/-- There is one first for each key that was not known. -/
theorem length_firsts_known (known : List String) (xs : List α) :
    (firsts key known xs).length = ((xs.map key).toFinset \ known.toFinset).card := by
  induction xs generalizing known with
  | nil => simp [firsts]
  | cons x xs ih =>
      rw [List.map_cons, List.toFinset_cons]
      by_cases hx : key x ∈ known
      · -- The key of `x` is known, so it counts on neither side.
        have hknown : (key x :: known).toFinset = known.toFinset := by
          rw [List.toFinset_cons, Finset.insert_eq_of_mem (List.mem_toFinset.mpr hx)]
        rw [firsts_cons_of_mem hx, ih, hknown,
          Finset.insert_sdiff_of_mem _ (List.mem_toFinset.mpr hx)]
      · -- It is new, and whatever repeats it behind `x` does not count.
        have hnew : key x ∉ known.toFinset := by rwa [List.mem_toFinset]
        rw [firsts_cons_of_not_mem hx, List.length_cons, ih, List.toFinset_cons,
          Finset.insert_sdiff_of_notMem _ hnew, Finset.sdiff_insert,
          ← Finset.card_erase_add_one (Finset.mem_insert_self _ _), Finset.erase_insert_eq_erase]

/-- There is one first for each key. -/
theorem length_firsts (xs : List α) :
    (firsts key [] xs).length = (xs.map key).toFinset.card := by
  rw [length_firsts_known, List.toFinset_nil, Finset.sdiff_empty]

/-- The repeats are what the list has more than keys. -/
theorem length_repeats_add_card (xs : List α) :
    (repeats key [] xs).length + (xs.map key).toFinset.card = xs.length := by
  rw [← length_firsts, Nat.add_comm]
  exact length_firsts_add_length_repeats [] xs

end Phrasebook
