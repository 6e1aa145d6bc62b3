import Phrasebook.Proofs.Catalog.Account
import Phrasebook.Proofs.Table

/-!
# `Phrasebook.Proofs.Catalog.Reachability`: what a warning means

A duplicate leads to a warning because no lookup ever comes to it. This module
shows that the warnings are about the right lines: if everything that has been
warned about is taken out of a catalog, then what is left is the reachable part
of the catalog (`unwarned_eq_reachable`), no more and no less.

The reader finds duplicates in the file, and the table finds them by its keys.
Between the two stands `warningsOf`: a line has a warning there if and only if its
record or wording is a repeat. The lines of different records do not overlap, so
no warning can be taken for one about another record.

`unwarned_reachable` says what this means for lookups.
-/

set_option autoImplicit false

namespace Phrasebook

/-! ### Taking out what has been warned about -/

/-- A warning about the wording at line `n`. -/
def Warning.marksWording (n : Nat) : Warning → Bool
  | .duplicateRecord .. => false
  | .duplicateWording line .. => line == n

/-- A record without the wordings that have been warned about. -/
def Placed.unwarned (warnings : List Warning) (r : Placed) : Record :=
  ⟨r.record.id,
    (r.wordings.filter fun w => !warnings.any (Warning.marksWording w.2)).map Prod.fst⟩

/-- A catalog without the records and wordings that have been warned about. -/
def unwarned (warnings : List Warning) (rs : List Placed) : Catalog :=
  ⟨(rs.filter fun r => !warnings.any (Warning.marksRecord r.line)).map
    (Placed.unwarned warnings)⟩

/-- The records that were read from a file, with the numbers of its headers. -/
def Reading.placed (source : String) (reading : Reading) : List Placed :=
  List.zipWith Placed.mk ((headersAfter 0 (Lines.ofFile source)).map Prod.fst)
    reading.catalog.records

/-- The catalog that was read from a file, without what has been warned about. -/
def Reading.unwarned (source : String) (reading : Reading) : Catalog :=
  Phrasebook.unwarned reading.warnings (reading.placed source)

/-! ### The lines with warnings -/

/-- The lines of wordings with a warning are those that repeat a language of their
record. -/
theorem any_marksWording (known : List String) (rs : List Placed) (n : Nat) :
    (warningsOf known rs).any (Warning.marksWording n)
      = rs.any fun r => (repeats (fun w => w.1.lang) [] r.wordings).any fun w => w.2 == n := by
  induction rs generalizing known with
  | nil => rfl
  | cons r rs ih =>
      have hrecord : (if r.message ∈ known then [r.recordWarning] else []).any
          (Warning.marksWording n) = false := by
        split <;> rfl
      rw [warningsOf, Placed.warnings, List.any_append, List.any_append, hrecord, ih,
        List.any_cons, Placed.wordingWarnings, List.any_map, Bool.false_or]
      rfl

/-- A wording with its number stands behind the header and before the end of its
record. -/
theorem Placed.line_lt_of_mem_wordings {r : Placed} {w : Wording × Nat} (h : w ∈ r.wordings) :
    r.line < w.2 ∧ w.2 ≤ r.line + r.record.wordings.length := by
  have hle := List.le_snd_of_mem_zipIdx h
  have hlt := List.snd_lt_of_mem_zipIdx h
  omega

/-- No warning about another record has the line of a wording. -/
theorem any_marksWording_of_mem {rs : List Placed} (h : rs.Pairwise Placed.Before) {r : Placed}
    (hr : r ∈ rs) {w : Wording × Nat} (hw : w ∈ r.wordings) :
    (warningsOf [] rs).any (Warning.marksWording w.2)
      = (repeats (fun w => w.1.lang) [] r.wordings).any fun x => x.2 == w.2 := by
  obtain ⟨front, back, rfl⟩ := List.append_of_mem hr
  rw [List.pairwise_append, List.pairwise_cons] at h
  obtain ⟨-, ⟨hback, -⟩, hfront⟩ := h
  -- The wordings of the records around `r` have smaller or greater numbers.
  have hother : ∀ s : Placed, s.Before r ∨ r.Before s →
      ((repeats (fun w => w.1.lang) [] s.wordings).any fun x => x.2 == w.2) = false := by
    intro s hs
    rw [List.any_eq_false]
    intro x hx e
    have hline := eq_of_beq e
    have hinside := Placed.line_lt_of_mem_wordings hw
    have hxinside := Placed.line_lt_of_mem_wordings (mem_of_mem_repeats hx)
    rcases hs with hs | hs
    · rw [Placed.Before] at hs
      omega
    · rw [Placed.Before] at hs
      omega
  have hbefore : (front.any fun s =>
      (repeats (fun w => w.1.lang) [] s.wordings).any fun x => x.2 == w.2) = false := by
    rw [List.any_eq_false]
    intro s hs
    rw [hother s (.inl (hfront s hs r List.mem_cons_self))]
    exact Bool.false_ne_true
  have hafter : (back.any fun s =>
      (repeats (fun w => w.1.lang) [] s.wordings).any fun x => x.2 == w.2) = false := by
    rw [List.any_eq_false]
    intro s hs
    rw [hother s (.inr (hback s hs))]
    exact Bool.false_ne_true
  rw [any_marksWording, List.any_append, List.any_cons, hbefore, hafter, Bool.false_or,
    Bool.or_false]

/-- The numbers of the wordings tell them apart. -/
theorem Placed.pairwise_wordings (r : Placed) :
    r.wordings.Pairwise fun w x => w.2 ≠ x.2 := by
  have hnodup : (r.wordings.map Prod.snd).Nodup := by
    rw [Placed.wordings, List.zipIdx_map_snd]
    exact List.nodup_range'
  exact List.pairwise_map.mp hnodup

/-- What a record keeps are its reachable wordings. -/
theorem unwarned_eq_record_reachable {rs : List Placed} (h : rs.Pairwise Placed.Before)
    {r : Placed} (hr : r ∈ rs) : r.unwarned (warningsOf [] rs) = r.record.reachable := by
  have hkept : r.wordings.filter (fun w => !(warningsOf [] rs).any (Warning.marksWording w.2))
      = firsts (fun w => w.1.lang) [] r.wordings := by
    rw [← filter_not_repeats r.pairwise_wordings]
    exact List.filter_congr fun w hw => by rw [any_marksWording_of_mem h hr hw]
  have hwordings : firsts Wording.lang [] (r.wordings.map Prod.fst)
      = (firsts (fun w => w.1.lang) [] r.wordings).map Prod.fst :=
    firsts_map (fun _ => rfl) [] _
  rw [Placed.unwarned, hkept, ← hwordings, Placed.wordings, List.zipIdx_map_fst]
  rfl

/-- What a catalog keeps is its reachable part. -/
theorem unwarned_eq_reachable {rs : List Placed} (h : rs.Pairwise Placed.Before) :
    unwarned (warningsOf [] rs) rs = Catalog.reachable ⟨rs.map Placed.record⟩ := by
  have hrecords : firsts (fun record : Record => record.id.value) [] (rs.map Placed.record)
      = (firsts Placed.message [] rs).map Placed.record :=
    firsts_map (fun _ => rfl) [] rs
  have hmap : (firsts Placed.message [] rs).map (Placed.unwarned (warningsOf [] rs))
      = (firsts Placed.message [] rs).map (Record.reachable ∘ Placed.record) :=
    List.map_congr_left fun r hr => unwarned_eq_record_reachable h (mem_of_mem_firsts hr)
  rw [unwarned, filter_records h, hmap, Catalog.reachable, hrecords, List.map_map]

namespace Catalog

/-! ### Files -/

/-- The records of an accepted file stand in their places one behind the other,
and its warnings are those for them. -/
theorem placed_of_parse {source : String} {reading : Reading} (h : parse source = .ok reading) :
    (reading.placed source).map Placed.record = reading.catalog.records
      ∧ (∀ r ∈ reading.placed source, r.StandsIn (Lines.ofFile source))
      ∧ (reading.placed source).Pairwise Placed.Before
      ∧ reading.warnings = warningsOf [] (reading.placed source) := by
  obtain ⟨q, hsteps, hopen, rfl⟩ := parse_ok_iff.mp h
  obtain ⟨closed, haccount⟩ := Progress.exists_account_of_steps hsteps
  have hclosed := Progress.append_current hopen closed
  have hplaced : Reading.placed source ⟨⟨q.closed.reverse⟩, q.warnings.reverse⟩ = closed := by
    rw [Reading.placed, haccount.headers, hclosed, ← haccount.records, List.map_map]
    exact zipWith_placed closed
  have hapart := haccount.apart
  have hwarnings := haccount.warnings
  rw [hclosed] at hapart hwarnings
  rw [hplaced]
  exact ⟨haccount.records, haccount.stands, hapart, hwarnings⟩

/-- The records of an accepted file stand in it at the numbers of its headers, one
behind the other. If what has been warned about is taken out of its catalog, the
lookups and the size of the table stay the same. Everything that is left can be
reached: a wording is the answer for its message and language, and where a record
has no wording, the answer is its message. -/
theorem unwarned_reachable {source : String} {reading : Reading} (h : parse source = .ok reading) :
    ((reading.placed source).map Placed.record = reading.catalog.records
        ∧ (∀ r ∈ reading.placed source, r.StandsIn (Lines.ofFile source))
        ∧ (reading.placed source).Pairwise Placed.Before)
      ∧ (∀ message lang, (Table.ofCatalog (reading.unwarned source)).lookup message lang
          = (Table.ofCatalog reading.catalog).lookup message lang)
      ∧ (Table.ofCatalog (reading.unwarned source)).size = (Table.ofCatalog reading.catalog).size
      ∧ ∀ record ∈ (reading.unwarned source).records,
          (∀ wording ∈ record.wordings,
            (Table.ofCatalog reading.catalog).lookup record.id.value wording.lang
              = wording.text.value)
          ∧ ∀ lang, (∀ wording ∈ record.wordings, wording.lang ≠ lang) →
            (Table.ofCatalog reading.catalog).lookup record.id.value lang = record.id.value := by
  obtain ⟨hrecords, hstands, hapart, hwarnings⟩ := placed_of_parse h
  -- All that is said of the unwarned catalog is known of the reachable one.
  have hkept : reading.unwarned source = reading.catalog.reachable := by
    rw [Reading.unwarned, hwarnings, unwarned_eq_reachable hapart, hrecords]
  rw [hkept]
  refine ⟨⟨hrecords, hstands, hapart⟩, ?_, size_reachable _, ?_⟩
  · intro message lang
    rw [Table.lookup_eq_firstMatch, Table.lookup_eq_firstMatch, firstMatch_reachable]
  · intro record hrecord
    refine ⟨fun wording hwording => ?_, fun lang hlang => ?_⟩
    · rw [Table.lookup_eq_firstMatch, firstMatch_of_mem_reachable hrecord hwording]
    · rw [Table.lookup_eq_firstMatch, firstMatch_of_lang_ne hrecord hlang]

/-- A second wording in the first record, and a second record that spells the
message in another way and repeats a language of its own. -/
theorem unwarned_reachable_respelled :
    ∃ reading, parse "ID:it's\nfr:a\nfr:b\n---\n\nID:it\\'s\nde:c\nde:d\n---\n" = .ok reading
      ∧ reading.warnings
        = [.duplicateWording 3 "it's" "fr", .duplicateRecord 6 "it\\'s",
          .duplicateWording 8 "it\\'s" "de"]
      ∧ reading.unwarned "ID:it's\nfr:a\nfr:b\n---\n\nID:it\\'s\nde:c\nde:d\n---\n"
        = ⟨[⟨⟨"it's", "it's"⟩, [⟨"fr", ⟨"a", "a"⟩⟩]⟩]⟩
      ∧ (Table.ofCatalog reading.catalog).lookup "it's" "fr" = "a"
      ∧ (Table.ofCatalog reading.catalog).lookup "it's" "de" = "it's" := by
  let record : Record := ⟨⟨"it's", "it's"⟩, [⟨"fr", ⟨"a", "a"⟩⟩]⟩
  let reading : Reading :=
    ⟨⟨[⟨⟨"it's", "it's"⟩, [⟨"fr", ⟨"a", "a"⟩⟩, ⟨"fr", ⟨"b", "b"⟩⟩]⟩,
        ⟨⟨"it\\'s", "it's"⟩, [⟨"de", ⟨"c", "c"⟩⟩, ⟨"de", ⟨"d", "d"⟩⟩]⟩]⟩,
      [.duplicateWording 3 "it's" "fr", .duplicateRecord 6 "it\\'s",
        .duplicateWording 8 "it\\'s" "de"]⟩
  have h : parse "ID:it's\nfr:a\nfr:b\n---\n\nID:it\\'s\nde:c\nde:d\n---\n" = .ok reading := rfl
  have hkept : reading.unwarned "ID:it's\nfr:a\nfr:b\n---\n\nID:it\\'s\nde:c\nde:d\n---\n"
      = ⟨[record]⟩ := rfl
  obtain ⟨-, -, -, hreach⟩ := unwarned_reachable h
  obtain ⟨hwording, hother⟩ := hreach record (by rw [hkept]; exact List.mem_cons_self)
  exact ⟨reading, h, rfl, hkept, hwording ⟨"fr", ⟨"a", "a"⟩⟩ List.mem_cons_self,
    hother "de" (by simp [record])⟩

end Catalog

end Phrasebook
