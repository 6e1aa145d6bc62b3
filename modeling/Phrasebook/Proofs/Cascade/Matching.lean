import Phrasebook.Proofs.C.Strcmp
import Phrasebook.Proofs.Cascade.Agreement

/-!
# `Phrasebook.Proofs.Cascade.Matching`: ids that a comparison can tell apart

The generated function compares its message with one literal for each record, and the
table compares it with the ids. The literals stand for the ids (`keys_program`), but
`strcmp` takes a literal for the text up to its first null character.

No escape names a null character, so an id has one only where the file has one
(`null_mem_value_iff`). A file may have one: nothing refuses it. `source_idsMatch_iff`
gives the exact condition under which the comparisons are those of the table, and
`not_idsMatch_of_null` is a file where they are not.
-/

set_option autoImplicit false

namespace Phrasebook

open C (null strcmp)

/-! ### What a function compares its message with -/

namespace C

/-- The literals that a function compares its first parameter with, from top to bottom.
Comparisons within others are left out. -/
def Function.keys (f : Function) : List String :=
  f.body.filterMap fun
    | .onEqual (.name x) (.literal value) _ => if x.name = f.first.name then some value else none
    | _ => none

/-- The literals of all functions of a file. -/
def Program.keys (program : Program) : List String :=
  program.functions.flatMap Function.keys

end C

/-- The literals tell messages and ids apart as the ids do. A message comes as a string
of its own, so it has no null character. -/
structure IdsMatch (ids literals : List String) : Prop where
  length_eq : literals.length = ids.length
  message : ∀ (i : Nat) (id literal : String), ids[i]? = some id → literals[i]? = some literal →
    ∀ message : String, null ∉ message.toList →
      (strcmp message.toList literal.toList = .eq ↔ message = id)
  record : ∀ (i j : Nat) (id other first second : String), ids[i]? = some id →
    ids[j]? = some other → literals[i]? = some first → literals[j]? = some second →
      (strcmp first.toList second.toList = .eq ↔ id = other)

/-- Ids tell messages apart by themselves, unless one has a null character: then its
beginning is taken for it. -/
theorem idsMatch_self_iff (ids : List String) :
    IdsMatch ids ids ↔ ∀ id ∈ ids, null ∉ id.toList := by
  constructor
  · -- The message that `strcmp` cannot tell from the id is the id up to its null character.
    intro h id hid hnull
    obtain ⟨i, hi⟩ := List.mem_iff_getElem?.mp hid
    have hbeginning : (String.ofList (C.upToNull id.toList)).toList = C.upToNull id.toList :=
      String.toList_ofList
    have hseen : null ∉ (String.ofList (C.upToNull id.toList)).toList := by
      rw [hbeginning]
      exact C.null_not_mem_upToNull _
    have heq := (h.message i id id hi hi _ hseen).mp (by
      rw [hbeginning]
      exact C.strcmp_upToNull _)
    rw [heq] at hseen
    exact hseen hnull
  · intro h
    refine ⟨rfl, ?_, ?_⟩
    · intro i id literal hid hliteral message hmessage
      rw [hid] at hliteral
      obtain rfl := Option.some.inj hliteral
      have hnull := h id (List.mem_of_getElem? hid)
      rw [C.strcmp_eq_iff_of_not_mem hmessage hnull, String.toList_inj]
    · intro i j id other first second hid hother hfirst hsecond
      rw [hid] at hfirst
      rw [hother] at hsecond
      obtain rfl := Option.some.inj hfirst
      obtain rfl := Option.some.inj hsecond
      have hnull := h id (List.mem_of_getElem? hid)
      have hnulls := h other (List.mem_of_getElem? hother)
      rw [C.strcmp_eq_iff_of_not_mem hnull hnulls, String.toList_inj]

namespace Cascade

/-! ### Where null characters come from -/

/-- No escape stands for a null character, so a text has one only if it is written with
one. -/
theorem null_mem_value_iff {text : Text} (h : text.WellFormed) :
    null ∈ text.value.toList ↔ null ∈ text.source.toList := by
  have hnamed : ∀ letter, Escape.named? letter ≠ some null := by
    intro letter
    fun_cases Escape.named? letter with
    | case12 => simp
    | _ => decide
  exact (Text.decodes_of_parse h.parsed).mem_iff (by decide) rfl hnamed

/-- An id has no character that its file does not have. -/
theorem mem_of_mem_id {text : String} {reading : Reading} (h : Catalog.parse text = .ok reading)
    {record : Record} (hrecord : record ∈ reading.catalog.records) {c : Char}
    (hc : c ∈ record.id.source.toList) : c ∈ text.toList := by
  have hheader : headerLine record.id ∈ reading.catalog.lines :=
    List.mem_flatMap.mpr ⟨record, hrecord, List.mem_cons_self⟩
  rw [Catalog.lines_of_parse h] at hheader
  have hmem : c ∈ headerLine record.id := by simp [headerLine, hc]
  exact Lines.mem_of_mem_ofFile (List.mem_of_mem_filter hheader) hmem

/-! ### The generated file -/

/-- The function compares the message with the ids, in order. -/
theorem keys_program (options : Options) (catalog : Catalog) :
    (program options catalog).keys = catalog.records.map fun record => record.id.value := by
  have hfunction : (function options catalog).keys
      = catalog.records.map fun record => record.id.value := by
    show (bodyStmts options catalog).filterMap _ = _
    rw [bodyStmts, List.filterMap_append, List.filterMap_map]
    -- The statement of a record gives its id, and the last statement gives nothing.
    show (catalog.records.filterMap fun record => some record.id.value) ++ [] = _
    rw [List.append_nil, List.filterMap_eq_map']
  rw [C.Program.keys, functions_program, List.flatMap_singleton, hfunction]

/-- The comparisons of the generated file are those of the table, exactly when no id has
a null character in it. A file without null characters has no such id. -/
theorem source_idsMatch_iff {text : String} {reading : Reading}
    (h : Catalog.parse text = .ok reading) (options : Options) :
    ∃ program, C.Program.read? (source options reading.catalog) = some program
      ∧ (IdsMatch (reading.catalog.records.map fun record => record.id.value) program.keys
        ↔ ∀ record ∈ reading.catalog.records, null ∉ record.id.source.toList)
      ∧ (null ∉ text.toList →
        IdsMatch (reading.catalog.records.map fun record => record.id.value) program.keys) := by
  have hwell := Catalog.wellFormed_of_parse h
  have hexact : IdsMatch (reading.catalog.records.map fun record => record.id.value)
        (program options reading.catalog).keys
      ↔ ∀ record ∈ reading.catalog.records, null ∉ record.id.source.toList := by
    rw [keys_program, idsMatch_self_iff, List.forall_mem_map]
    refine forall₂_congr fun record hrecord => ?_
    rw [null_mem_value_iff (hwell record hrecord).id]
  refine ⟨program options reading.catalog, read_source options hwell, hexact, ?_⟩
  intro hnull
  rw [hexact]
  intro record hrecord hmem
  exact hnull (mem_of_mem_id h hrecord hmem)

/-- A file with quotes, escapes, and one message spelled in two ways. -/
theorem source_idsMatch_respelled :
    ∃ (reading : Reading) (options : Options) (program : C.Program),
      Catalog.parse "ID:\"a\"\nfr:\\?\n---\nID:\\\"a\\\"\n---\n" = .ok reading
      ∧ C.Program.read? (source options reading.catalog) = some program
      ∧ IdsMatch ["\"a\"", "\"a\""] program.keys := by
  let options : Options := ⟨⟨"translate", by decide⟩, ⟨"lang_code", by decide⟩, .global⟩
  have hparse : Catalog.parse "ID:\"a\"\nfr:\\?\n---\nID:\\\"a\\\"\n---\n" = .ok _ := rfl
  obtain ⟨program, hread, -, hplain⟩ := source_idsMatch_iff hparse options
  exact ⟨_, options, program, hparse, hread, hplain (by decide)⟩

/-- Null characters in two ids are accepted without a warning. The comparison takes `a` for
the first id, which the table does not know by it, and the second id for the first. -/
theorem not_idsMatch_of_null :
    ∃ (reading : Reading) (options : Options) (program : C.Program),
      Catalog.parse "ID:a\x00b\nfr:X\n---\nID:a\x00c\n---\n" = .ok reading
      ∧ reading.warnings = []
      ∧ C.Program.read? (source options reading.catalog) = some program
      ∧ program.keys = ["a\x00b", "a\x00c"]
      ∧ strcmp "a".toList "a\x00b".toList = .eq
      ∧ strcmp "a\x00b".toList "a\x00c".toList = .eq
      ∧ ¬ IdsMatch (reading.catalog.records.map fun record => record.id.value) program.keys
      ∧ (Table.ofCatalog reading.catalog).lookup "a" "fr" = "a" := by
  let options : Options := ⟨⟨"translate", by decide⟩, ⟨"lang_code", by decide⟩, .global⟩
  have hparse : Catalog.parse "ID:a\x00b\nfr:X\n---\nID:a\x00c\n---\n" = .ok _ := rfl
  have hread := read_source options (Catalog.wellFormed_of_parse hparse)
  refine ⟨_, options, _, hparse, rfl, hread, ?_, by decide, by decide, ?_, ?_⟩
  · rw [keys_program]
    rfl
  · -- The two ids are the same up to the null character.
    intro hmatch
    have hsame := hmatch.record 0 1 "a\x00b" "a\x00c" "a\x00b" "a\x00c" rfl rfl
      (by rw [keys_program]; rfl) (by rw [keys_program]; rfl)
    exact absurd (hsame.mp (by decide)) (by decide)
  · rw [Table.lookup_eq_firstMatch]
    rfl

end Cascade

end Phrasebook
