import Phrasebook.Proofs.Catalog.Soundness
import Phrasebook.Proofs.Catalog.Summary

/-!
# `Phrasebook.Proofs.Catalog.Tally`: a catalog counted by its lines

A line of a file is blank, a header, a terminator, or something else, and each of
these can be told from the line alone. In an accepted file the headers and the
terminators are as many as the records, and what is left are the wordings.

The counts follow from which lines a catalog has (`Catalog.lines`): each kind of line
picks its own part of every record (`filter_isHeader_lines`,
`filter_isTerminator_lines`, `filter_isFurther_lines`). `lines_of_parse` carries them
over to the file, which has blank lines besides.
-/

set_option autoImplicit false

namespace Phrasebook

/-! ### Kinds of lines -/

namespace Line

/-- A line that begins with `ID:`. -/
def isHeader (line : List Char) : Bool := headerMark.isPrefixOf line

/-- A line that is `---`. -/
def isTerminator (line : List Char) : Bool := line == terminatorLine

/-- Any other line with something on it. -/
def isFurther (line : List Char) : Bool :=
  !line.isEmpty && !isHeader line && !isTerminator line

/-- The header of a record is a header. -/
theorem isHeader_headerLine (id : Text) : isHeader (headerLine id) = true := by
  rw [isHeader, List.isPrefixOf_iff_prefix]
  exact ⟨id.source.toList, rfl⟩

/-- It is no terminator. -/
theorem isTerminator_headerLine (id : Text) : isTerminator (headerLine id) = false := by
  simp [isTerminator, headerLine, terminatorLine]

/-- A wording is no header, since no language has the code `ID`. -/
theorem isHeader_wordingLine {wording : Wording} (h : IsLang wording.lang) :
    isHeader wording.line = false := by
  rw [isHeader, Bool.eq_false_iff, ne_eq, List.isPrefixOf_iff_prefix]
  exact Wording.not_headerMark_prefix h

/-- Nor is it a terminator, which has no colon. -/
theorem isTerminator_wordingLine {wording : Wording} (h : IsLang wording.lang) :
    isTerminator wording.line = false :=
  beq_eq_false_iff_ne.mpr (Wording.line_ne_terminatorLine h)

/-- So a wording is a further line. -/
theorem isFurther_wordingLine {wording : Wording} (h : IsLang wording.lang) :
    isFurther wording.line = true := by
  have hfilled : wording.line.isEmpty = false := by simp [Wording.line]
  rw [isFurther, hfilled, isHeader_wordingLine h, isTerminator_wordingLine h]
  rfl

end Line

open Line (isHeader isTerminator isFurther)

/-! ### The lines of a catalog, kind by kind -/

namespace Catalog

variable {catalog : Catalog}

/-- What is picked from the lines of a catalog is picked record by record. -/
theorem filter_lines {keep : List Char → Bool} {part : Record → List (List Char)}
    (h : ∀ record ∈ catalog.records, record.lines.filter keep = part record) :
    catalog.lines.filter keep = catalog.records.flatMap part := by
  rw [lines, List.filter_flatMap]
  exact List.flatMap_congr h

/-- What no wording has is not in the lines of the wordings. -/
theorem filter_wordingLines {record : Record} (h : record.WellFormed) {keep : List Char → Bool}
    (hkeep : ∀ {wording : Wording}, IsLang wording.lang → keep wording.line = false) :
    (record.wordings.map Wording.line).filter keep = [] := by
  rw [List.filter_eq_nil_iff]
  intro line hline
  obtain ⟨wording, hw, rfl⟩ := List.mem_map.mp hline
  rw [hkeep (h.wordings wording hw).lang]
  simp

/-- Each record has one header. -/
theorem filter_isHeader_lines (h : catalog.WellFormed) :
    catalog.lines.filter isHeader = catalog.records.map fun record => headerLine record.id := by
  rw [List.map_eq_flatMap]
  refine filter_lines ?_
  intro record hrecord
  have hwordings := filter_wordingLines (h record hrecord) Line.isHeader_wordingLine
  rw [Record.lines, List.filter_append, List.filter_cons, Line.isHeader_headerLine, hwordings]
  rfl

/-- Each record has one terminator. -/
theorem filter_isTerminator_lines (h : catalog.WellFormed) :
    catalog.lines.filter isTerminator = catalog.records.map fun _ => terminatorLine := by
  rw [List.map_eq_flatMap]
  refine filter_lines ?_
  intro record hrecord
  have hwordings := filter_wordingLines (h record hrecord) Line.isTerminator_wordingLine
  rw [Record.lines, List.filter_append, List.filter_cons, Line.isTerminator_headerLine, hwordings]
  rfl

/-- All the rest are the wordings. -/
theorem filter_isFurther_lines (h : catalog.WellFormed) :
    catalog.lines.filter isFurther
      = (catalog.records.flatMap Record.wordings).map Wording.line := by
  rw [List.map_flatMap]
  refine filter_lines ?_
  intro record hrecord
  have hheader : isFurther (headerLine record.id) = false := by
    rw [isFurther, Line.isHeader_headerLine]
    simp
  have hwordings : (record.wordings.map Wording.line).filter isFurther
      = record.wordings.map Wording.line := by
    rw [List.filter_eq_self]
    intro line hline
    obtain ⟨wording, hw, rfl⟩ := List.mem_map.mp hline
    exact Line.isFurther_wordingLine ((h record hrecord).wordings wording hw).lang
  -- The terminator at the end is left out by its form.
  rw [Record.lines, List.filter_append, List.filter_cons, hheader, hwordings]
  exact List.append_nil _

/-! ### Accepted files -/

variable {source : String} {reading : Reading}

/-- Blank lines make no difference to what is picked from a file. -/
theorem filter_ofFile (h : parse source = .ok reading) {keep : List Char → Bool}
    (hblank : keep [] = false) :
    (Lines.ofFile source).filter keep = reading.catalog.lines.filter keep := by
  rw [lines_of_parse h, List.filter_filter]
  refine List.filter_congr ?_
  intro line _
  -- Only the empty line is dropped from the file, and it is not picked anyway.
  cases line with
  | nil => simp [hblank]
  | cons c line => simp

/-- There are as many headers as records. -/
theorem countP_isHeader (h : parse source = .ok reading) :
    (Lines.ofFile source).countP isHeader = reading.catalog.records.length := by
  rw [List.countP_eq_length_filter, filter_ofFile h rfl,
    filter_isHeader_lines (wellFormed_of_parse h), List.length_map]

/-- There are as many terminators as records. -/
theorem countP_isTerminator (h : parse source = .ok reading) :
    (Lines.ofFile source).countP isTerminator = reading.catalog.records.length := by
  rw [List.countP_eq_length_filter, filter_ofFile h rfl,
    filter_isTerminator_lines (wellFormed_of_parse h), List.length_map]

/-- There are as many further lines as wordings. -/
theorem countP_isFurther (h : parse source = .ok reading) :
    (Lines.ofFile source).countP isFurther = reading.catalog.wordingCount := by
  rw [List.countP_eq_length_filter, filter_ofFile h rfl,
    filter_isFurther_lines (wellFormed_of_parse h), List.length_map]
  rfl

/-- The language of a wording is what its line begins with. -/
theorem take_wordingLine {wording : Wording} (h : IsLang wording.lang) :
    String.ofList (wording.line.take 2) = wording.lang := by
  rw [Wording.line, List.take_append_of_le_length (Nat.le_of_eq h.two.symm),
    List.take_of_length_le (Nat.le_of_eq h.two), String.ofList_toList]

/-- The language codes are those of all wordings. -/
theorem langs_eq_map (catalog : Catalog) :
    catalog.langs = (catalog.records.flatMap Record.wordings).map Wording.lang := by
  rw [List.map_flatMap]
  rfl

/-- The wordings of a catalog that can be written have language codes. -/
theorem isLang_of_mem_wordings (h : catalog.WellFormed) {wording : Wording}
    (hw : wording ∈ catalog.records.flatMap Record.wordings) : IsLang wording.lang := by
  obtain ⟨record, hrecord, hmem⟩ := List.mem_flatMap.mp hw
  exact ((h record hrecord).wordings wording hmem).lang

/-- The languages are what the further lines begin with. -/
theorem mem_languages_of_parse (h : parse source = .ok reading) {lang : String} :
    lang ∈ reading.catalog.languages
      ↔ ∃ line ∈ Lines.ofFile source, isFurther line ∧ lang = .ofList (line.take 2) := by
  have hwell := wellFormed_of_parse h
  -- A further line is that of a wording, and the other way round.
  have hfurther : ∀ line, line ∈ Lines.ofFile source ∧ isFurther line
      ↔ ∃ wording ∈ reading.catalog.records.flatMap Record.wordings, wording.line = line := by
    intro line
    rw [← List.mem_filter, filter_ofFile h rfl, filter_isFurther_lines hwell, List.mem_map]
  rw [mem_languages, langs_eq_map, List.mem_map]
  constructor
  · intro hlang
    obtain ⟨wording, hw, rfl⟩ := hlang
    obtain ⟨hmem, hkind⟩ := (hfurther wording.line).mpr ⟨wording, hw, rfl⟩
    have htake := take_wordingLine (isLang_of_mem_wordings hwell hw)
    exact ⟨wording.line, hmem, hkind, htake.symm⟩
  · intro hline
    obtain ⟨line, hmem, hkind, rfl⟩ := hline
    obtain ⟨wording, hw, rfl⟩ := (hfurther line).mp ⟨hmem, hkind⟩
    have htake := take_wordingLine (isLang_of_mem_wordings hwell hw)
    exact ⟨wording, hw, htake.symm⟩

/-- Every language of an accepted file has two characters. -/
theorem length_of_mem_languages (h : parse source = .ok reading) {lang : String}
    (hlang : lang ∈ reading.catalog.languages) : lang.toList.length = 2 := by
  rw [mem_languages, langs_eq_map] at hlang
  obtain ⟨wording, hw, rfl⟩ := List.mem_map.mp hlang
  exact (isLang_of_mem_wordings (wellFormed_of_parse h) hw).two

end Catalog

end Phrasebook
