/-!
# `Phrasebook.Proofs.Firsts`: first occurrences

A catalog may have several records for one message, and a record several
wordings in one language. What counts is the first of each. Here a list is cut
into the elements that come first with their key (`firsts`) and the others
(`repeats`). Both take the keys that were known before the list, and this is what
the inductions run over.

* `find?_firsts`: a search by key finds the same element in the firsts as in the
  whole list.
* `find?_of_mem_firsts`: every one of the firsts is found by its key.
* `filter_not_repeats`: the firsts are what is left when the repeats are crossed
  out, if the elements can be told apart by a number.
-/

set_option autoImplicit false

namespace Phrasebook

variable {α β : Type} {key : α → String} {known : List String}

/-- The elements whose key is not known and has no element before them. -/
def firsts (key : α → String) (known : List String) : List α → List α
  | [] => []
  | x :: xs =>
    if key x ∈ known then firsts key (key x :: known) xs
    else x :: firsts key (key x :: known) xs

/-- The elements whose key is known or has an element before them. -/
def repeats (key : α → String) (known : List String) : List α → List α
  | [] => []
  | x :: xs =>
    if key x ∈ known then x :: repeats key (key x :: known) xs
    else repeats key (key x :: known) xs

/-- An element with a known key is none of the firsts. -/
theorem firsts_cons_of_mem {x : α} (h : key x ∈ known) (xs : List α) :
    firsts key known (x :: xs) = firsts key (key x :: known) xs := by
  rw [firsts, if_pos h]

/-- An element with a new key comes first. -/
theorem firsts_cons_of_not_mem {x : α} (h : key x ∉ known) (xs : List α) :
    firsts key known (x :: xs) = x :: firsts key (key x :: known) xs := by
  rw [firsts, if_neg h]

/-- The firsts are elements of the list. -/
theorem mem_of_mem_firsts {x : α} {xs : List α} (h : x ∈ firsts key known xs) : x ∈ xs := by
  induction xs generalizing known with
  | nil => cases h
  | cons y ys ih =>
      rw [firsts] at h
      split at h
      · exact List.mem_cons_of_mem _ (ih h)
      · rcases List.mem_cons.mp h with rfl | h
        · exact List.mem_cons_self
        · exact List.mem_cons_of_mem _ (ih h)

/-! ### Searching -/

/-- The firsts have keys that were not known. -/
theorem not_mem_known_of_mem_firsts {x : α} {xs : List α} (h : x ∈ firsts key known xs) :
    key x ∉ known := by
  -- What is known grows along the list, so this is more than what is asked for.
  induction xs generalizing known with
  | nil => cases h
  | cons y ys ih =>
      by_cases hy : key y ∈ known
      · rw [firsts_cons_of_mem hy] at h
        intro hx
        exact ih h (List.mem_cons_of_mem _ hx)
      · rw [firsts_cons_of_not_mem hy] at h
        rcases List.mem_cons.mp h with rfl | h
        · exact hy
        · intro hx
          exact ih h (List.mem_cons_of_mem _ hx)

/-- A search for a key that was not known finds the same among the firsts. -/
theorem find?_firsts {k : String} (h : k ∉ known) (xs : List α) :
    (firsts key known xs).find? (fun x => key x == k) = xs.find? fun x => key x == k := by
  -- More keys become known along the list, but never `k` before it is found.
  induction xs generalizing known with
  | nil => rfl
  | cons x xs ih =>
      rw [List.find?_cons]
      cases hk : key x == k with
      | true =>
          -- `x` is found in both lists, since its key is not known.
          have hx : key x ∉ known := by rwa [eq_of_beq hk]
          rw [firsts_cons_of_not_mem hx, List.find?_cons, hk]
      | false =>
          have hrest : k ∉ key x :: known := by
            intro hm
            rcases List.mem_cons.mp hm with e | hm
            · exact ne_of_beq_false hk e.symm
            · exact h hm
          rw [← ih hrest]
          by_cases hx : key x ∈ known
          · rw [firsts_cons_of_mem hx]
          · rw [firsts_cons_of_not_mem hx, List.find?_cons, hk]

/-- Every one of the firsts is found by its key. -/
theorem find?_of_mem_firsts {x : α} {xs : List α} (h : x ∈ firsts key known xs) :
    (firsts key known xs).find? (fun y => key y == key x) = some x := by
  induction xs generalizing known with
  | nil => cases h
  | cons y ys ih =>
      by_cases hy : key y ∈ known
      · rw [firsts_cons_of_mem hy] at h ⊢
        exact ih h
      · rw [firsts_cons_of_not_mem hy] at h ⊢
        rw [List.find?_cons]
        rcases List.mem_cons.mp h with rfl | h
        · rw [beq_self_eq_true]
        · -- The elements behind `y` do not have its key.
          have hne : key y ≠ key x := fun e =>
            not_mem_known_of_mem_firsts h (e ▸ List.mem_cons_self)
          rw [beq_eq_false_iff_ne.mpr hne]
          exact ih h

/-! ### Counting -/

/-- Only what is known matters, not the order in which it became known. -/
theorem firsts_congr {known' : List String} (h : ∀ k, k ∈ known ↔ k ∈ known') (xs : List α) :
    firsts key known xs = firsts key known' xs := by
  induction xs generalizing known known' with
  | nil => rfl
  | cons x xs ih =>
      have hrest : ∀ k, k ∈ key x :: known ↔ k ∈ key x :: known' := by
        intro k
        rw [List.mem_cons, List.mem_cons, h k]
      rw [firsts, firsts, ih hrest]
      by_cases hx : key x ∈ known
      · rw [if_pos hx, if_pos ((h _).mp hx)]
      · rw [if_neg hx, if_neg (fun hm => hx ((h _).mpr hm))]

/-- Among the firsts there are no repeats. -/
theorem firsts_firsts (known : List String) (xs : List α) :
    firsts key known (firsts key known xs) = firsts key known xs := by
  induction xs generalizing known with
  | nil => rfl
  | cons x xs ih =>
      by_cases hx : key x ∈ known
      · -- The key of `x` was known anyway.
        have hknown : ∀ k, k ∈ known ↔ k ∈ key x :: known := by
          intro k
          rw [List.mem_cons]
          exact ⟨.inr, fun h => h.elim (fun e => e ▸ hx) id⟩
        rw [firsts_cons_of_mem hx, firsts_congr hknown, ih]
      · rw [firsts_cons_of_not_mem hx, firsts_cons_of_not_mem hx, ih]

/-- The firsts can be taken before or after a change that leaves the keys
alone. -/
theorem firsts_map {key' : β → String} {f : α → β} (h : ∀ x, key' (f x) = key x)
    (known : List String) (xs : List α) :
    firsts key' known (xs.map f) = (firsts key known xs).map f := by
  induction xs generalizing known with
  | nil => rfl
  | cons x xs ih =>
      rw [List.map_cons, firsts, firsts, h, ih]
      split <;> rfl

/-! ### Crossing out -/

/-- The repeats are elements of the list. -/
theorem mem_of_mem_repeats {x : α} {xs : List α} (h : x ∈ repeats key known xs) : x ∈ xs := by
  induction xs generalizing known with
  | nil => cases h
  | cons y ys ih =>
      rw [repeats] at h
      split at h
      · rcases List.mem_cons.mp h with rfl | h
        · exact List.mem_cons_self
        · exact List.mem_cons_of_mem _ (ih h)
      · exact List.mem_cons_of_mem _ (ih h)

/-- The repeats of two lists in a row. -/
theorem repeats_append (known : List String) (xs ys : List α) :
    repeats key known (xs ++ ys)
      = repeats key known xs ++ repeats key ((xs.map key).reverse ++ known) ys := by
  -- The keys of `xs` become known one by one, the latest first.
  induction xs generalizing known with
  | nil => rfl
  | cons x xs ih =>
      rw [List.cons_append, repeats, repeats, ih, List.map_cons, List.reverse_cons,
        List.append_assoc]
      split <;> rfl

/-- The repeats can be taken before or after a change that leaves the keys
alone. -/
theorem repeats_map {key' : β → String} {f : α → β} (h : ∀ x, key' (f x) = key x)
    (known : List String) (xs : List α) :
    repeats key' known (xs.map f) = (repeats key known xs).map f := by
  induction xs generalizing known with
  | nil => rfl
  | cons x xs ih =>
      rw [List.map_cons, repeats, repeats, h, ih]
      split <;> rfl

/-- If no two elements have the same number, the elements whose number no repeat
has are the firsts. -/
theorem filter_not_repeats {number : α → Nat} {xs : List α}
    (h : xs.Pairwise fun x y => number x ≠ number y) (known : List String) :
    xs.filter (fun x => !(repeats key known xs).any fun y => number y == number x)
      = firsts key known xs := by
  induction xs generalizing known with
  | nil => rfl
  | cons x xs ih =>
      obtain ⟨hx, hxs⟩ := List.pairwise_cons.mp h
      -- No repeat among `xs` has the number of `x`.
      have hhead : ((repeats key (key x :: known) xs).any fun y => number y == number x)
          = false := by
        rw [List.any_eq_false]
        intro y hy e
        exact hx y (mem_of_mem_repeats hy) (beq_iff_eq.mp e).symm
      -- And `x` has the number of none of `xs`, so it may count as a repeat there.
      have htail : ∀ y ∈ xs, ((x :: repeats key (key x :: known) xs).any fun z =>
          number z == number y)
          = (repeats key (key x :: known) xs).any fun z => number z == number y := by
        intro y hy
        have hne : (number x == number y) = false := beq_eq_false_iff_ne.mpr (hx y hy)
        rw [List.any_cons, hne, Bool.false_or]
      by_cases hkey : key x ∈ known
      · rw [repeats, if_pos hkey, firsts_cons_of_mem hkey, ← ih hxs, List.filter_cons_of_neg]
        · exact List.filter_congr fun y hy => by rw [htail y hy]
        · simp
      · rw [repeats, if_neg hkey, firsts_cons_of_not_mem hkey, ← ih hxs, List.filter_cons_of_pos]
        rw [hhead]
        rfl

end Phrasebook
