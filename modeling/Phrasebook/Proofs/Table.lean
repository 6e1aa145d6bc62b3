import Phrasebook.Proofs.Distinct
import Phrasebook.Table

/-!
# `Phrasebook.Proofs.Table`: the table finds the first match

A lookup in the table of a catalog answers what a search through the catalog
finds, record by record and wording by wording: `Catalog.firstMatch`. Both maps
of the table are filled in the same way, by entries that never replace one
another, so one lemma about such fillings serves both. `ofCatalog_finds_first` says
this with the searches spelled out, and counts the entries.

`Catalog.reachable` is the part of a catalog that lookups come to: the first
record of each message, with its first wording in each language. It has the same
lookups as the catalog (`firstMatch_reachable`), a table of the same size
(`size_reachable`), and nothing in it is out of reach
(`firstMatch_of_mem_reachable`).
-/

set_option autoImplicit false

namespace Phrasebook

/-- The record that counts for a message. -/
def Catalog.recordFor? (catalog : Catalog) (message : String) : Option Record :=
  catalog.records.find? fun record => record.id.value == message

/-- The wording that counts for a language. -/
def Record.wordingFor? (record : Record) (lang : String) : Option Wording :=
  record.wordings.find? fun wording => wording.lang == lang

/-- The wording of a message in a language, found by going through the catalog.
Without one, it is the message itself. -/
def Catalog.firstMatch (catalog : Catalog) (message lang : String) : String :=
  match catalog.recordFor? message with
  | none => message
  | some record =>
    match record.wordingFor? lang with
    | none => message
    | some wording => wording.text.value

namespace Table

/-- An entry of a map that is filled without replacements is the one that was
there before, or else the first that was put in. -/
theorem getElem?_foldl_insertIfNew {α β : Type} (key : α → String) (value : α → β)
    (xs : List α) (known : Std.HashMap String β) (k : String) :
    (xs.foldl (fun known x => known.insertIfNew (key x) (value x)) known)[k]?
      = known[k]?.or ((xs.find? fun x => key x == k).map value) := by
  induction xs generalizing known with
  | nil => simp
  | cons x xs ih =>
      rw [List.foldl_cons, ih, Std.HashMap.getElem?_insertIfNew, List.find?_cons]
      cases hk : key x == k with
      | false => simp
      | true =>
          -- An entry that is there already stays, so `x` counts only without one.
          by_cases hm : key x ∈ known
          · have hsome : known[k]?.isSome := by
              rw [← eq_of_beq hk, Std.HashMap.isSome_getElem?_eq_contains]
              exact Std.HashMap.contains_iff_mem.mpr hm
            obtain ⟨v, hv⟩ := Option.isSome_iff_exists.mp hsome
            simp [hm, hv]
          · have hnone : known[k]? = none := by
              rw [← eq_of_beq hk]
              exact Std.HashMap.getElem?_eq_none hm
            simp [hm, hnone]

/-- The table answers with the first match. -/
theorem lookup_eq_firstMatch (catalog : Catalog) (message lang : String) :
    (ofCatalog catalog).lookup message lang = catalog.firstMatch message lang := by
  -- Both maps were filled from empty ones, so what they have is the first that was put in.
  have hrecord : (ofCatalog catalog).entries[message]?
      = (catalog.recordFor? message).map fun record => wordingsByLang record.wordings := by
    show (ofRecords catalog.records)[message]? = _
    rw [ofRecords, getElem?_foldl_insertIfNew, Std.HashMap.getElem?_empty, Option.none_or]
    rfl
  have hwording : ∀ record : Record, (wordingsByLang record.wordings)[lang]?
      = (record.wordingFor? lang).map fun wording => wording.text.value := by
    intro record
    rw [wordingsByLang, getElem?_foldl_insertIfNew, Std.HashMap.getElem?_empty, Option.none_or]
    rfl
  rw [lookup, hrecord, Catalog.firstMatch]
  cases catalog.recordFor? message with
  | none => rfl
  | some record =>
      show (wordingsByLang record.wordings)[lang]?.getD message
        = match record.wordingFor? lang with
          | none => message
          | some wording => wording.text.value
      rw [hwording]
      cases record.wordingFor? lang <;> rfl

/-- A map that is filled without replacements grows by the entries that come
first with their key. -/
theorem size_foldl_insertIfNew {α β : Type} {key : α → String} {value : α → β} (xs : List α)
    {known : Std.HashMap String β} {keys : List String} (h : ∀ k, k ∈ keys ↔ k ∈ known) :
    (xs.foldl (fun known x => known.insertIfNew (key x) (value x)) known).size
      = known.size + (firsts key keys xs).length := by
  induction xs generalizing known keys with
  | nil => rfl
  | cons x xs ih =>
      -- The keys of the map are those that are known to `firsts`, and stay so.
      have hnext : ∀ k, k ∈ key x :: keys ↔ k ∈ known.insertIfNew (key x) (value x) := by
        intro k
        rw [List.mem_cons, Std.HashMap.mem_insertIfNew, h k, beq_iff_eq]
        exact or_congr_left eq_comm
      rw [List.foldl_cons, ih hnext, Std.HashMap.size_insertIfNew]
      by_cases hx : key x ∈ keys
      · rw [if_pos ((h _).mp hx), firsts_cons_of_mem hx]
      · rw [if_neg (fun hm => hx ((h _).mpr hm)), firsts_cons_of_not_mem hx, List.length_cons]
        omega

/-- The table has an entry for each record that comes first with its message. -/
theorem size_eq_length_firsts (catalog : Catalog) :
    (ofCatalog catalog).size
      = (firsts (fun record : Record => record.id.value) [] catalog.records).length := by
  have hnone : ∀ k, k ∈ ([] : List String)
      ↔ k ∈ (∅ : Std.HashMap String (Std.HashMap String String)) := by simp
  show (ofRecords catalog.records).size = _
  rw [ofRecords, size_foldl_insertIfNew catalog.records hnone, Std.HashMap.size_empty,
    Nat.zero_add]

/-- The table has an entry for each message. -/
theorem size_eq_card (catalog : Catalog) :
    (ofCatalog catalog).size
      = (catalog.records.map fun record => record.id.value).toFinset.card := by
  rw [size_eq_length_firsts, length_firsts]

/-- The table is empty if and only if there is nothing to put into it. -/
theorem isEmpty_iff (catalog : Catalog) :
    (ofCatalog catalog).isEmpty ↔ catalog.records = [] := by
  have hsize : (ofCatalog catalog).isEmpty ↔ (ofCatalog catalog).size = 0 := by
    rw [isEmpty, size, Std.HashMap.isEmpty_eq_size_eq_zero, beq_iff_eq]
  rw [hsize, size_eq_card, Finset.card_eq_zero, List.toFinset_eq_empty_iff, List.map_eq_nil_iff]

/-- The table of a catalog answers with the first wording in the language in the first
record of the message, and without one with the message itself. It has an entry for
each message of the catalog, and is empty only if the catalog is. -/
theorem ofCatalog_finds_first (catalog : Catalog) :
    (∀ message lang, (ofCatalog catalog).lookup message lang
        = match catalog.records.find? fun record => record.id.value == message with
          | none => message
          | some record =>
            match record.wordings.find? fun wording => wording.lang == lang with
            | none => message
            | some wording => wording.text.value)
      ∧ (ofCatalog catalog).size
        = (catalog.records.map fun record => record.id.value).toFinset.card
      ∧ ((ofCatalog catalog).isEmpty ↔ catalog.records = []) := by
  refine ⟨?_, size_eq_card catalog, isEmpty_iff catalog⟩
  intro message lang
  rw [lookup_eq_firstMatch]
  rfl

end Table

/-! ### What can be reached -/

/-- A record with the first of its wordings in each language. -/
def Record.reachable (record : Record) : Record :=
  ⟨record.id, firsts Wording.lang [] record.wordings⟩

/-- The first record of each message, with the first of its wordings in each
language. -/
def Catalog.reachable (catalog : Catalog) : Catalog :=
  ⟨(firsts (fun record : Record => record.id.value) [] catalog.records).map Record.reachable⟩

namespace Catalog

/-- A record that can be reached keeps the wordings that count. -/
theorem wordingFor?_reachable (record : Record) (lang : String) :
    record.reachable.wordingFor? lang = record.wordingFor? lang :=
  find?_firsts (by simp) record.wordings

/-- The records that count can be reached. -/
theorem recordFor?_reachable (catalog : Catalog) (message : String) :
    catalog.reachable.recordFor? message
      = (catalog.recordFor? message).map Record.reachable := by
  rw [recordFor?, reachable, List.find?_map]
  show ((firsts _ [] catalog.records).find? fun record => record.id.value == message).map _ = _
  rw [find?_firsts (by simp)]
  rfl

/-- What cannot be reached makes no difference. -/
theorem firstMatch_reachable (catalog : Catalog) (message lang : String) :
    catalog.reachable.firstMatch message lang = catalog.firstMatch message lang := by
  rw [firstMatch, firstMatch, recordFor?_reachable]
  cases catalog.recordFor? message with
  | none => rfl
  | some record =>
      show (match record.reachable.wordingFor? lang with
        | none => message
        | some wording => wording.text.value) = _
      rw [wordingFor?_reachable]

/-- A record that can be reached is the one that counts for its message. -/
theorem recordFor?_of_mem_reachable {catalog : Catalog} {record : Record}
    (h : record ∈ catalog.reachable.records) :
    catalog.reachable.recordFor? record.id.value = some record := by
  obtain ⟨whole, hwhole, rfl⟩ := List.mem_map.mp h
  rw [recordFor?, reachable, List.find?_map]
  show ((firsts _ [] catalog.records).find? fun r => r.id.value == whole.id.value).map _ = _
  rw [find?_of_mem_firsts hwhole]
  rfl

/-- A wording that can be reached is the answer for its message and language. -/
theorem firstMatch_of_mem_reachable {catalog : Catalog} {record : Record} {wording : Wording}
    (hr : record ∈ catalog.reachable.records) (hw : wording ∈ record.wordings) :
    catalog.firstMatch record.id.value wording.lang = wording.text.value := by
  have hfound := recordFor?_of_mem_reachable hr
  obtain ⟨whole, -, rfl⟩ := List.mem_map.mp hr
  have hwording : whole.reachable.wordingFor? wording.lang = some wording :=
    find?_of_mem_firsts hw
  rw [← firstMatch_reachable, firstMatch, hfound]
  show (match whole.reachable.wordingFor? wording.lang with
    | none => _
    | some wording => wording.text.value) = _
  rw [hwording]

/-- Where a record that can be reached has no wording, the answer is its
message. -/
theorem firstMatch_of_lang_ne {catalog : Catalog} {record : Record} {lang : String}
    (hr : record ∈ catalog.reachable.records)
    (hl : ∀ wording ∈ record.wordings, wording.lang ≠ lang) :
    catalog.firstMatch record.id.value lang = record.id.value := by
  have hwording : record.wordingFor? lang = none := by
    refine List.find?_eq_none.mpr fun wording hw => ?_
    simpa using hl wording hw
  rw [← firstMatch_reachable, firstMatch, recordFor?_of_mem_reachable hr]
  show (match record.wordingFor? lang with
    | none => _
    | some wording => wording.text.value) = _
  rw [hwording]

/-- What cannot be reached takes no room in the table. -/
theorem size_reachable (catalog : Catalog) :
    (Table.ofCatalog catalog.reachable).size = (Table.ofCatalog catalog).size := by
  let message : Record → String := fun record => record.id.value
  have hmap : firsts message [] ((firsts message [] catalog.records).map Record.reachable)
      = (firsts message [] (firsts message [] catalog.records)).map Record.reachable :=
    firsts_map (fun _ => rfl) [] _
  -- The records that can be reached are firsts already, and their ids are as before.
  rw [Table.size_eq_length_firsts, Table.size_eq_length_firsts]
  show (firsts message [] ((firsts message [] catalog.records).map Record.reachable)).length = _
  rw [hmap, List.length_map, firsts_firsts]

end Catalog

end Phrasebook
