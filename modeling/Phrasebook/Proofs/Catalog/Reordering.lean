import Mathlib.Data.List.Perm.Basic
import Phrasebook.Proofs.Catalog.Summary
import Phrasebook.Proofs.Table

/-!
# `Phrasebook.Proofs.Catalog.Reordering`: when the order matters

The order of a catalog decides between records for one message and between wordings
in one language, and nothing else. `StablePerm key` changes the order of a list but
not among elements with the same key. `Catalog.Reordered` does so with the records of a
catalog, and then with the wordings of each record.

A stable permutation keeps the subsequence of every key (`StablePerm.filter_eq`), so
a search by key finds the same element (`StablePerm.find?_eq`). This is all that
lookups hang on. What is counted or collected hangs on the elements alone, which are
the same in any order (`StablePerm.perm`). `reordered_alike` puts the two together.
-/

set_option autoImplicit false

namespace Phrasebook

/-! ### Stable permutations -/

/-- `StablePerm key xs ys`: `ys` has the elements of `xs` in an order in which those
with the same key stand as in `xs`. In `moved` every element of `ys` comes with the
place that it had in `xs`. -/
def StablePerm {α : Type} (key : α → String) (xs ys : List α) : Prop :=
  ∃ moved : List (α × Nat), moved.Perm xs.zipIdx ∧ moved.map Prod.fst = ys
    ∧ moved.Pairwise fun x y => key x.1 = key y.1 → x.2 < y.2

namespace StablePerm

variable {α : Type} {key : α → String} {xs ys : List α}

/-- No element is lost, and none is new. -/
theorem perm (h : StablePerm key xs ys) : ys.Perm xs := by
  obtain ⟨moved, hperm, rfl, -⟩ := h
  have hfst := hperm.map Prod.fst
  rwa [List.zipIdx_map_fst] at hfst

/-- The places of a list stand in order. -/
theorem pairwise_zipIdx (xs : List α) : xs.zipIdx.Pairwise fun x y => x.2 < y.2 := by
  have hplaces : (xs.zipIdx.map Prod.snd).Pairwise (· < ·) := by
    rw [List.zipIdx_map_snd]
    exact List.pairwise_lt_range'
  exact List.pairwise_map.mp hplaces

/-- All elements may stay where they are. -/
theorem refl (xs : List α) : StablePerm key xs xs := by
  refine ⟨xs.zipIdx, .refl _, List.zipIdx_map_fst .., (pairwise_zipIdx xs).imp ?_⟩
  intro x y hlt _
  exact hlt

/-- The elements with one key stand in the same order. -/
theorem filter_eq (h : StablePerm key xs ys) (k : String) :
    ys.filter (fun x => key x == k) = xs.filter fun x => key x == k := by
  obtain ⟨moved, hperm, rfl, hstable⟩ := h
  let keyed : α × Nat → Bool := fun x => key x.1 == k
  -- With their places, they are sorted by place on both sides.
  have hmoved : (moved.filter keyed).Pairwise fun x y => x.2 < y.2 := by
    refine List.pairwise_filter.mpr (hstable.imp ?_)
    intro x y hxy hx hy
    exact hxy ((eq_of_beq hx).trans (eq_of_beq hy).symm)
  have hplaced : (xs.zipIdx.filter keyed).Pairwise fun x y => x.2 < y.2 :=
    (pairwise_zipIdx xs).filter keyed
  have hkeyed : moved.filter keyed = xs.zipIdx.filter keyed :=
    (hperm.filter keyed).eq_of_pairwise
      (fun _ _ _ _ hlt hgt => absurd hgt (Nat.lt_asymm hlt)) hmoved hplaced
  calc (moved.map Prod.fst).filter (fun x => key x == k)
      = (moved.filter keyed).map Prod.fst := List.filter_map
    _ = (xs.zipIdx.filter keyed).map Prod.fst := by rw [hkeyed]
    _ = (xs.zipIdx.map Prod.fst).filter (fun x => key x == k) := by rw [List.filter_map]; rfl
    _ = xs.filter fun x => key x == k := by rw [List.zipIdx_map_fst]

/-- A search by key finds the same element. -/
theorem find?_eq (h : StablePerm key xs ys) (k : String) :
    (ys.find? fun x => key x == k) = xs.find? fun x => key x == k := by
  rw [← List.head?_filter, ← List.head?_filter, h.filter_eq k]

end StablePerm

/-! ### Reordered catalogs -/

/-- The wordings of a record in another order, which is the same for those in one
language. -/
structure Record.Reordered (record other : Record) : Prop where
  id : other.id = record.id
  wordings : StablePerm Wording.lang record.wordings other.wordings

/-- The records of a catalog in another order, which is the same for those of one
message, and then the wordings of each record reordered. -/
def Catalog.Reordered (catalog other : Catalog) : Prop :=
  ∃ moved : List Record,
    StablePerm (fun record => record.id.value) catalog.records moved
      ∧ List.Forall₂ Record.Reordered moved other.records

namespace Catalog

/-- The first record answers for its message. -/
theorem firstMatch_cons (record : Record) (records : List Record) (message lang : String) :
    firstMatch ⟨record :: records⟩ message lang
      = if record.id.value == message then
          match record.wordingFor? lang with
          | none => message
          | some wording => wording.text.value
        else firstMatch ⟨records⟩ message lang := by
  rw [firstMatch, recordFor?, List.find?_cons]
  cases record.id.value == message with
  | false => rfl
  | true => rfl

/-- Reordering the wordings within the records changes no answer. -/
theorem firstMatch_of_forall₂ {records others : List Record}
    (h : List.Forall₂ Record.Reordered records others) (message lang : String) :
    firstMatch ⟨others⟩ message lang = firstMatch ⟨records⟩ message lang := by
  -- Record by record. Each keeps its id, and answers as before.
  induction h with
  | nil => rfl
  | @cons record other records others hrecord _ ih =>
      have hwording : other.wordingFor? lang = record.wordingFor? lang :=
        hrecord.wordings.find?_eq lang
      rw [firstMatch_cons, firstMatch_cons, hrecord.id, hwording, ih]

/-- A reordered catalog has the same answers. -/
theorem firstMatch_of_reordered {catalog other : Catalog} (h : catalog.Reordered other)
    (message lang : String) :
    other.firstMatch message lang = catalog.firstMatch message lang := by
  obtain ⟨moved, hmoved, hwithin⟩ := h
  have hrecord : recordFor? ⟨moved⟩ message = catalog.recordFor? message :=
    hmoved.find?_eq message
  rw [firstMatch_of_forall₂ hwithin, firstMatch, hrecord]
  rfl

/-- Reordering the wordings within the records keeps the messages. -/
theorem messages_of_forall₂ {records others : List Record}
    (h : List.Forall₂ Record.Reordered records others) :
    (others.map fun record => record.id.value) = records.map fun record => record.id.value := by
  induction h with
  | nil => rfl
  | cons hrecord _ ih => rw [List.map_cons, List.map_cons, ih, hrecord.id]

/-- A reordered catalog has the same messages, as often. -/
theorem messages_perm_of_reordered {catalog other : Catalog} (h : catalog.Reordered other) :
    (other.records.map fun record => record.id.value).Perm
      (catalog.records.map fun record => record.id.value) := by
  obtain ⟨moved, hmoved, hwithin⟩ := h
  rw [messages_of_forall₂ hwithin]
  exact hmoved.perm.map _

/-- Reordering the wordings within the records keeps the languages. -/
theorem langs_perm_of_forall₂ {records others : List Record}
    (h : List.Forall₂ Record.Reordered records others) :
    (langs ⟨others⟩).Perm (langs ⟨records⟩) := by
  induction h with
  | nil => exact .nil
  | cons hrecord _ ih => exact (hrecord.wordings.perm.map Wording.lang).append ih

/-- A reordered catalog has wordings in the same languages, as many in each. -/
theorem langs_perm_of_reordered {catalog other : Catalog} (h : catalog.Reordered other) :
    other.langs.Perm catalog.langs := by
  obtain ⟨moved, hmoved, hwithin⟩ := h
  have hrecords : (langs ⟨moved⟩).Perm catalog.langs := hmoved.perm.flatMap_right _
  exact (langs_perm_of_forall₂ hwithin).trans hrecords

/-- Every wording has a language. -/
theorem wordingCount_eq_length_langs (catalog : Catalog) :
    catalog.wordingCount = catalog.langs.length := by
  simp [wordingCount, langs, List.length_flatMap]

/-- In a reordered catalog every message has the same wording in every language, there
are as many messages and wordings, and the summary is the same. So the order matters only
among the records of one message and among the wordings of a record in one language. -/
theorem reordered_alike {catalog other : Catalog} (h : catalog.Reordered other) :
    (∀ message lang, (Table.ofCatalog other).lookup message lang
        = (Table.ofCatalog catalog).lookup message lang)
      ∧ (Table.ofCatalog other).size = (Table.ofCatalog catalog).size
      ∧ (Table.ofCatalog other).isEmpty = (Table.ofCatalog catalog).isEmpty
      ∧ other.wordingCount = catalog.wordingCount
      ∧ other.summary = catalog.summary := by
  -- Counts and languages do not hang on the order at all.
  have hmessages := messages_perm_of_reordered h
  have hlangs := langs_perm_of_reordered h
  have hlength : other.records.length = catalog.records.length := by
    simpa using hmessages.length_eq
  have hcount : other.wordingCount = catalog.wordingCount := by
    rw [wordingCount_eq_length_langs, wordingCount_eq_length_langs, hlangs.length_eq]
  have hlanguages : other.languages = catalog.languages :=
    languages_congr fun _ => hlangs.mem_iff
  refine ⟨?_, ?_, ?_, hcount, ?_⟩
  · intro message lang
    rw [Table.lookup_eq_firstMatch, Table.lookup_eq_firstMatch, firstMatch_of_reordered h]
  · rw [Table.size_eq_card, Table.size_eq_card]
    congr 1
    ext message
    rw [List.mem_toFinset, List.mem_toFinset, hmessages.mem_iff]
  · rw [Bool.eq_iff_iff, Table.isEmpty_iff, Table.isEmpty_iff, ← List.length_eq_zero_iff,
      ← List.length_eq_zero_iff, hlength]
  · rw [summary, summary, hlength, hcount, hlanguages]

/-- A record of another message moves between two records of one message, and a wording in
another language behind two in one language. -/
theorem reordered_alike_nested :
    ∃ catalog other : Catalog,
      catalog.records
          = [⟨⟨"it's", "it's"⟩, [⟨"fr", "x", "x"⟩, ⟨"de", "y", "y"⟩, ⟨"fr", "z", "z"⟩]⟩,
            ⟨⟨"it\\'s", "it's"⟩, [⟨"it", "u", "u"⟩]⟩, ⟨⟨"B", "B"⟩, []⟩]
        ∧ other.records
          = [⟨⟨"it's", "it's"⟩, [⟨"fr", "x", "x"⟩, ⟨"fr", "z", "z"⟩, ⟨"de", "y", "y"⟩]⟩,
            ⟨⟨"B", "B"⟩, []⟩, ⟨⟨"it\\'s", "it's"⟩, [⟨"it", "u", "u"⟩]⟩]
        ∧ catalog.Reordered other
        ∧ (Table.ofCatalog other).lookup "it's" "fr" = (Table.ofCatalog catalog).lookup "it's" "fr"
        ∧ (Table.ofCatalog catalog).lookup "it's" "fr" = "x"
        ∧ (Table.ofCatalog other).size = (Table.ofCatalog catalog).size
        ∧ other.summary = catalog.summary := by
  have hwordings : StablePerm Wording.lang
      [⟨"fr", "x", "x"⟩, ⟨"de", "y", "y"⟩, ⟨"fr", "z", "z"⟩]
      [⟨"fr", "x", "x"⟩, ⟨"fr", "z", "z"⟩, ⟨"de", "y", "y"⟩] :=
    ⟨[(⟨"fr", "x", "x"⟩, 0), (⟨"fr", "z", "z"⟩, 2), (⟨"de", "y", "y"⟩, 1)],
      (List.Perm.swap _ _ _).cons _, rfl, by simp⟩
  have h : Reordered
      ⟨[⟨⟨"it's", "it's"⟩, [⟨"fr", "x", "x"⟩, ⟨"de", "y", "y"⟩, ⟨"fr", "z", "z"⟩]⟩,
        ⟨⟨"it\\'s", "it's"⟩, [⟨"it", "u", "u"⟩]⟩, ⟨⟨"B", "B"⟩, []⟩]⟩
      ⟨[⟨⟨"it's", "it's"⟩, [⟨"fr", "x", "x"⟩, ⟨"fr", "z", "z"⟩, ⟨"de", "y", "y"⟩]⟩,
        ⟨⟨"B", "B"⟩, []⟩, ⟨⟨"it\\'s", "it's"⟩, [⟨"it", "u", "u"⟩]⟩]⟩ :=
    ⟨_, ⟨[(_, 0), (_, 2), (_, 1)], (List.Perm.swap _ _ _).cons _, rfl, by simp⟩,
      .cons ⟨rfl, hwordings⟩ (.cons ⟨rfl, .refl _⟩ (.cons ⟨rfl, .refl _⟩ .nil))⟩
  obtain ⟨hlookup, hsize, -, -, hsummary⟩ := reordered_alike h
  refine ⟨_, _, rfl, rfl, h, hlookup _ _, ?_, hsize, hsummary⟩
  rw [Table.lookup_eq_firstMatch]
  rfl

end Catalog

end Phrasebook
