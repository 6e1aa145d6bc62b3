import Phrasebook.Catalog.Basic
import Phrasebook.Catalog.Line
import Phrasebook.Proofs.Text.Lines

/-!
# `Phrasebook.Proofs.Catalog.Written`: catalogs as lines

The other side of reading: which catalogs can be written in a file, and the
lines that they are written with.

* `Catalog.WellFormed` collects what a file can say: texts that parse, ids that
  are not empty, language codes of two letters or digits. `ID` is no language
  code, since its line would be taken for a header.
* `Catalog.lines` are the lines of a catalog, without blank lines.
* `Spaced` puts blank lines around the records.

A line tells what it is. The three `eq_of_classify?` lemmas give the characters
of a line back from its kind, so no line is of two kinds.
-/

set_option autoImplicit false

namespace Phrasebook

/-! ### Well-formed catalogs -/

/-- A text that can stand in a file: it was read from its source, and the source
fits on a line. -/
structure Text.WellFormed (text : Text) : Prop where
  parsed : Text.parse text.source = .ok text
  oneLine : '\n' ∉ text.source.toList

/-- Two ASCII letters or digits, other than `ID`. -/
structure IsLang (lang : String) : Prop where
  two : lang.toList.length = 2
  alphanum : ∀ c ∈ lang.toList, c.isAlphanum
  ne : lang ≠ "ID"

/-- A wording that can stand in a file. -/
structure Wording.WellFormed (wording : Wording) : Prop where
  lang : IsLang wording.lang
  text : wording.text.WellFormed

/-- A record that can stand in a file. -/
structure Record.WellFormed (record : Record) : Prop where
  filled : record.id.source ≠ ""
  id : record.id.WellFormed
  wordings : ∀ wording ∈ record.wordings, wording.WellFormed

/-- A catalog that can be written in a file. -/
def Catalog.WellFormed (catalog : Catalog) : Prop :=
  ∀ record ∈ catalog.records, record.WellFormed

/-- The two characters of a language code. -/
theorem IsLang.exists_eq {lang : String} (h : IsLang lang) :
    ∃ first second : Char, lang = .ofList [first, second]
      ∧ first.isAlphanum ∧ second.isAlphanum ∧ ¬ (first = 'I' ∧ second = 'D') := by
  obtain ⟨first, second, hl⟩ : ∃ first second, lang.toList = [first, second] := by
    have htwo := h.two
    match lang.toList, htwo with
    | [first, second], _ => exact ⟨first, second, rfl⟩
  have hlang : lang = .ofList [first, second] := by rw [← hl, String.ofList_toList]
  have halpha := h.alphanum
  rw [hl] at halpha
  refine ⟨first, second, hlang, halpha first (by simp), halpha second (by simp), ?_⟩
  rintro ⟨rfl, rfl⟩
  exact h.ne hlang

/-- Two letters or digits are a language code unless they are `ID`. -/
theorem isLang_ofList {first second : Char} (hf : first.isAlphanum) (hs : second.isAlphanum)
    (hne : ¬ (first = 'I' ∧ second = 'D')) : IsLang (.ofList [first, second]) where
  two := by rw [String.toList_ofList]; rfl
  alphanum := by
    intro c hc
    rw [String.toList_ofList] at hc
    rcases List.mem_cons.mp hc with rfl | hc
    · exact hf
    · rw [List.mem_singleton.mp hc]
      exact hs
  ne := by
    intro h
    have hl := congrArg String.toList h
    rw [String.toList_ofList] at hl
    cases hl
    exact hne ⟨rfl, rfl⟩

/-! ### Lines -/

/-- What a header begins with. -/
def headerMark : List Char := ['I', 'D', ':']

/-- The line that opens a record. -/
def headerLine (id : Text) : List Char :=
  'I' :: 'D' :: ':' :: id.source.toList

/-- The line that closes a record. -/
def terminatorLine : List Char := ['-', '-', '-']

/-- The line of a wording. -/
def Wording.line (wording : Wording) : List Char :=
  wording.lang.toList ++ ':' :: wording.text.source.toList

/-- The lines of a record: its header, its wordings in order, and the
terminator. -/
def Record.lines (record : Record) : List (List Char) :=
  headerLine record.id :: record.wordings.map Wording.line ++ [terminatorLine]

/-- The lines of a catalog. -/
def Catalog.lines (catalog : Catalog) : List (List Char) :=
  catalog.records.flatMap Record.lines

/-- `Spaced records lines` tells that `lines` are the lines of `records`, with
any number of blank lines before, between and after the records. -/
inductive Spaced : List Record → List (List Char) → Prop where
  | nil : Spaced [] []
  | blank {records : List Record} {lines : List (List Char)} (rest : Spaced records lines) :
      Spaced records ([] :: lines)
  | record (record : Record) {records : List Record} {lines : List (List Char)}
      (rest : Spaced records lines) : Spaced (record :: records) (record.lines ++ lines)

/-- A wording has its colon where the terminator has a dash. -/
theorem Wording.line_ne_terminatorLine {wording : Wording} (h : IsLang wording.lang) :
    wording.line ≠ terminatorLine := by
  obtain ⟨first, second, hl, -, -, -⟩ := h.exists_eq
  rw [Wording.line, hl, String.toList_ofList]
  simp [terminatorLine]

/-- A wording does not begin like a header, since its language is not `ID`. -/
theorem Wording.not_headerMark_prefix {wording : Wording} (h : IsLang wording.lang) :
    ¬ headerMark <+: wording.line := by
  obtain ⟨first, second, hl, -, -, hID⟩ := h.exists_eq
  rw [Wording.line, hl, String.toList_ofList]
  rintro ⟨id, hline⟩
  cases hline
  exact hID ⟨rfl, rfl⟩

namespace Line

/-- Only a line that begins with `ID:` is a header. -/
theorem eq_of_classify?_header {line id : List Char} (h : classify? line = some (.header id)) :
    line = 'I' :: 'D' :: ':' :: id := by
  revert h
  fun_cases classify? line with
  | case1 => intro h; cases h; rfl
  | case2 => intro h; cases h
  | case3 => intro h; cases h
  | case4 => intro h; cases h

/-- Only the line `---` is a terminator. -/
theorem eq_of_classify?_terminator {line : List Char}
    (h : classify? line = some .terminator) : line = terminatorLine := by
  revert h
  fun_cases classify? line with
  | case1 => intro h; cases h
  | case2 => intro _; rfl
  | case3 => intro h; cases h
  | case4 => intro h; cases h

/-- A wording line consists of the parts that it is read as, and does not begin
with `ID:`. -/
theorem eq_of_classify?_wording {line text : List Char} {first second delimiter : Char}
    (h : classify? line = some (.wording first second delimiter text)) :
    line = first :: second :: delimiter :: text
      ∧ ¬ (first = 'I' ∧ second = 'D' ∧ delimiter = ':') := by
  revert h
  fun_cases classify? line with
  | case1 => intro h; cases h
  | case2 => intro h; cases h
  | case3 a b c rest hID _ =>
      intro h
      cases h
      exact ⟨rfl, fun ⟨ha, hb, hc⟩ => hID ha hb hc⟩
  | case4 => intro h; cases h

/-- Only a line of fewer than three characters is of no kind. -/
theorem classify?_eq_none_iff {line : List Char} : classify? line = none ↔ line.length < 3 := by
  fun_cases classify? line with
  | case1 => simp
  | case2 => simp
  | case3 => simp
  | case4 _ _ _ hshort =>
      refine iff_of_true rfl ?_
      match line with
      | [] | [_] | [_, _] => simp
      | first :: second :: third :: rest => exact absurd rfl (hshort first second third rest)

/-- A line of three characters or more is a wording, unless it begins with `ID:` or
is the terminator. -/
theorem classify?_eq_wording {first second delimiter : Char} {text : List Char}
    (header : ¬ (first = 'I' ∧ second = 'D' ∧ delimiter = ':'))
    (terminator : first :: second :: delimiter :: text ≠ terminatorLine) :
    classify? (first :: second :: delimiter :: text)
      = some (.wording first second delimiter text) := by
  rw [classify?]
  · intro hf hs hd
    exact header ⟨hf, hs, hd⟩
  · rintro rfl rfl rfl rfl
    exact terminator rfl

/-- A line with a colon in the third place is a wording unless it begins with
`ID:`. -/
theorem classify?_wording {first second : Char} (h : ¬ (first = 'I' ∧ second = 'D'))
    (text : List Char) :
    classify? (first :: second :: ':' :: text) = some (.wording first second ':' text) :=
  classify?_eq_wording (fun ⟨hf, hs, _⟩ => h ⟨hf, hs⟩) (by simp [terminatorLine])

end Line

end Phrasebook
