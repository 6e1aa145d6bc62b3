import Phrasebook.Proofs.Catalog.FirstFault
import Phrasebook.Proofs.Catalog.Opened
import Phrasebook.Proofs.Text.Fragment

/-!
# `Phrasebook.Proofs.Catalog.Diagnosis`: the fault of a refused line

A line can have several things wrong with it, and the reader names one of them. Which
one follows from the line and from whether a record is open at it. `Diagnosis` says
how, in terms of the raw lines: for each fault, the condition under which it is the
one that is named.

A line has one fault at most (`HasFault.unique`), so a condition leads to its fault as
soon as a constructor of `HasFault` says so. The other way round, a fault has one
constructor, and its condition is read off there. `parse_diagnosis` takes this to
files.
-/

set_option autoImplicit false

namespace Phrasebook

/-- The one fault of a refused line, given the lines before it. -/
structure Diagnosis (before : List (List Char)) (line : List Char) (fault : Fault) : Prop where
  /-- A header in a record. -/
  unclosed : InRecord before ∧ headerMark <+: line ↔ ∃ id, fault = .unclosedRecord id
  /-- The record is named by the last header before. -/
  unclosed_id : ∀ id, fault = .unclosedRecord id → LastHeader before id.toList
  /-- A header without an id, between records. -/
  empty : ¬ InRecord before ∧ line = headerMark ↔ fault = .emptyId
  /-- A terminator between records. -/
  stray : ¬ InRecord before ∧ line = terminatorLine ↔ fault = .strayTerminator
  /-- Any other line between records that is not blank, however short. -/
  orphan : ¬ InRecord before ∧ line ≠ [] ∧ ¬ headerMark <+: line ∧ line ≠ terminatorLine
    ↔ fault = .orphanWording
  /-- A short line in a record. -/
  short : InRecord before ∧ line.length < 3 ↔ fault = .shortWording
  /-- A line in a record with another character in place of the colon. -/
  delimiter : ∀ found, (InRecord before ∧ ¬ headerMark <+: line ∧ line ≠ terminatorLine
      ∧ ∃ first second text, line = first :: second :: found :: text ∧ found ≠ ':')
    ↔ fault = .missingDelimiter found
  /-- A line in a record with a colon, but without two letters or digits before it. -/
  language : ∀ code, (InRecord before ∧ ∃ first second text, line = first :: second :: ':' :: text
      ∧ ¬ (first.isAlphanum ∧ second.isAlphanum) ∧ code = .ofList [first, second])
    ↔ fault = .badLanguage code
  /-- The lines that remain: a header with an id between records, and a wording with a
  language code in a record. -/
  escape : (¬ InRecord before ∧ headerMark <+: line ∧ line ≠ headerMark)
      ∨ (InRecord before ∧ ¬ headerMark <+: line ∧ ∃ first second text,
          line = first :: second :: ':' :: text ∧ first.isAlphanum ∧ second.isAlphanum)
    ↔ ∃ bad, fault = .badEscape bad
  /-- Their texts stand behind the first three characters, and the fault names what
  follows the first backslash there that begins no escape. -/
  escape_found : ∀ bad, fault = .badEscape bad → Escape.Stops (line.drop 3) bad

/-- Some state in which the record with the id `opened` is open. -/
def Progress.within (opened : Option Text) : Progress :=
  ⟨0, opened.map fun id => ⟨0, id, []⟩, [], []⟩

/-- The state within a record has the id of this record open. -/
theorem Progress.within_opened (opened : Option Text) :
    (within opened).opened.map OpenRecord.id = opened := by
  cases opened <;> rfl

namespace Progress.HasFault

variable {opened : Option Text} {line : List Char} {fault : Fault}

/-- A line has one fault at most, since the reader names one. -/
theorem unique (h : HasFault opened line fault) {other : Fault}
    (h' : HasFault opened line other) : fault = other := by
  rw [← within_opened opened] at h h'
  -- Both are the fault for which this state refuses the line.
  have hfault := step_error_iff.mpr ⟨fault, h, rfl⟩
  have hother := step_error_iff.mpr ⟨other, h', rfl⟩
  have hsame := Except.error.inj (hfault.symm.trans hother)
  exact congrArg Rejection.fault hsame

/-! ### Between records -/

/-- The id is named missing for the mark of a header alone, between records. -/
theorem emptyId_iff (h : HasFault opened line fault) :
    opened = none ∧ line = headerMark ↔ fault = .emptyId := by
  constructor
  · rintro ⟨rfl, rfl⟩
    exact h.unique .emptyId
  · rintro rfl
    cases h
    exact ⟨rfl, rfl⟩

/-- A terminator is named stray if no record is open. -/
theorem stray_iff (h : HasFault opened line fault) :
    opened = none ∧ line = terminatorLine ↔ fault = .strayTerminator := by
  constructor
  · rintro ⟨rfl, rfl⟩
    exact h.unique .stray
  · rintro rfl
    cases h
    exact ⟨rfl, rfl⟩

/-- Whatever else has characters between records is taken for a wording without a
record. -/
theorem orphan_iff (h : HasFault opened line fault) :
    opened = none ∧ line ≠ [] ∧ ¬ headerMark <+: line ∧ line ≠ terminatorLine
      ↔ fault = .orphanWording := by
  constructor
  · rintro ⟨rfl, hfilled, hheader, hterminator⟩
    exact h.unique (.orphan hfilled hheader hterminator)
  · rintro rfl
    cases h with
    | orphan hfilled hheader hterminator => exact ⟨rfl, hfilled, hheader, hterminator⟩

/-! ### In a record -/

/-- In a record every header is refused for the record, whether its id would parse or
not. -/
theorem unclosed_iff (h : HasFault opened line fault) :
    opened.isSome ∧ headerMark <+: line ↔ ∃ id, fault = .unclosedRecord id := by
  constructor
  · rintro ⟨hsome, id, rfl⟩
    obtain ⟨current, rfl⟩ := Option.isSome_iff_exists.mp hsome
    exact ⟨_, h.unique (.unclosed current id)⟩
  · rintro ⟨_, rfl⟩
    cases h with
    | unclosed current id => exact ⟨rfl, id, rfl⟩

/-- The record that is not closed is the open one. -/
theorem opened_of_unclosed {id : String} (h : HasFault opened line (.unclosedRecord id)) :
    ∃ current, opened = some current ∧ current.source = id := by
  cases h with
  | unclosed current => exact ⟨current, rfl, rfl⟩

/-- A short line in a record is never looked at more closely. -/
theorem short_iff (h : HasFault opened line fault) :
    opened.isSome ∧ line.length < 3 ↔ fault = .shortWording := by
  constructor
  · rintro ⟨hsome, hshort⟩
    obtain ⟨current, rfl⟩ := Option.isSome_iff_exists.mp hsome
    exact h.unique (.short current hshort)
  · rintro rfl
    cases h with
    | short current hshort => exact ⟨rfl, hshort⟩

/-- The third character is named if it is no colon. Neither the code before it nor the
text behind it is looked at. -/
theorem delimiter_iff (h : HasFault opened line fault) (found : Char) :
    (opened.isSome ∧ ¬ headerMark <+: line ∧ line ≠ terminatorLine
        ∧ ∃ first second text, line = first :: second :: found :: text ∧ found ≠ ':')
      ↔ fault = .missingDelimiter found := by
  constructor
  · rintro ⟨hsome, -, hterminator, first, second, text, rfl, hne⟩
    obtain ⟨current, rfl⟩ := Option.isSome_iff_exists.mp hsome
    exact h.unique (.delimiter current hne hterminator)
  · rintro rfl
    cases h with
    | delimiter current hne hterminator =>
        refine ⟨rfl, ?_, hterminator, _, _, _, rfl, hne⟩
        -- A header has a colon in the third place.
        rintro ⟨id, hline⟩
        cases hline
        exact hne rfl

/-- The code is named if a colon is in its place. The text behind it is not looked at. -/
theorem language_iff (h : HasFault opened line fault) (code : String) :
    (opened.isSome ∧ ∃ first second text, line = first :: second :: ':' :: text
        ∧ ¬ (first.isAlphanum ∧ second.isAlphanum) ∧ code = .ofList [first, second])
      ↔ fault = .badLanguage code := by
  constructor
  · rintro ⟨hsome, first, second, text, rfl, hcode, rfl⟩
    obtain ⟨current, rfl⟩ := Option.isSome_iff_exists.mp hsome
    exact h.unique (.language current text hcode)
  · rintro rfl
    cases h with
    | language current text hcode => exact ⟨rfl, _, _, text, rfl, hcode, rfl⟩

/-! ### Texts -/

/-- A header with an id has no other fault between records than that its id does not
parse. -/
theorem escape_of_header {id : List Char} (h : HasFault none line fault)
    (hline : line = headerMark ++ id) (hid : id ≠ []) : ∃ bad, fault = .badEscape bad := by
  -- The other ways to be refused between records are for other lines.
  cases h with
  | emptyId => exact absurd (List.self_eq_append_right.mp hline) hid
  | badId => exact ⟨_, rfl⟩
  | stray => cases hline
  | orphan _ hheader => exact absurd ⟨id, hline.symm⟩ hheader

/-- A wording with a colon and a language code has no other fault in a record than that
its text does not parse. -/
theorem escape_of_wording {current : Text} {first second : Char} {text : List Char}
    (h : HasFault (some current) line fault) (hline : line = first :: second :: ':' :: text)
    (hheader : ¬ headerMark <+: line) (hcode : first.isAlphanum ∧ second.isAlphanum) :
    ∃ bad, fault = .badEscape bad := by
  -- Nor is there anything else to refuse in a record, after the colon and the code.
  cases h with
  | unclosed _ id => exact absurd ⟨id, rfl⟩ hheader
  | short _ hshort =>
      rw [hline, List.length_cons, List.length_cons, List.length_cons] at hshort
      omega
  | delimiter _ hne => cases hline; exact absurd rfl hne
  | language _ _ hletters => cases hline; exact absurd hcode hletters
  | badText => exact ⟨_, rfl⟩

/-- An escape is named only if there is nothing else to refuse. -/
theorem escape_iff (h : HasFault opened line fault) :
    (opened = none ∧ headerMark <+: line ∧ line ≠ headerMark)
        ∨ (opened.isSome ∧ ¬ headerMark <+: line ∧ ∃ first second text,
            line = first :: second :: ':' :: text ∧ first.isAlphanum ∧ second.isAlphanum)
      ↔ ∃ bad, fault = .badEscape bad := by
  constructor
  · -- Between records the line is a header, and in a record it is a wording.
    rintro (⟨rfl, ⟨id, hline⟩, hne⟩ | ⟨hsome, hheader, first, second, text, hline, hcode⟩)
    · refine h.escape_of_header hline.symm ?_
      rintro rfl
      exact hne hline.symm
    · obtain ⟨current, rfl⟩ := Option.isSome_iff_exists.mp hsome
      exact h.escape_of_wording hline hheader hcode
  · rintro ⟨bad, rfl⟩
    cases h with
    | @badId id _ refused =>
        refine .inl ⟨rfl, ⟨id, rfl⟩, ?_⟩
        -- An empty id would parse.
        intro hline
        obtain rfl : id = [] := List.append_right_eq_self.mp hline
        cases refused
    | badText _ hcode hheader =>
        refine .inr ⟨rfl, ?_, _, _, _, rfl, hcode⟩
        rintro ⟨id, hline⟩
        cases hline
        exact hheader ⟨rfl, rfl⟩

/-- The text that does not parse stands behind the first three characters. -/
theorem stops_drop {bad : BadEscape} (h : HasFault opened line (.badEscape bad)) :
    Escape.Stops (line.drop 3) bad := by
  -- A header has its mark before the id, and a wording its code and colon. Both are three
  -- characters.
  have hparse : Text.parse (.ofList (line.drop 3)) = .error bad := by
    cases h with
    | badId refused => exact refused
    | badText _ _ _ refused => exact refused
  rw [Text.parse_error_iff, String.toList_ofList] at hparse
  exact hparse

/-- The fault of a line, told from the lines before it. -/
theorem diagnosis {before : List (List Char)} {p : Progress} (hbefore : start.steps before = .ok p)
    (h : HasFault (p.opened.map OpenRecord.id) line fault) : Diagnosis before line fault := by
  -- `HasFault` asks the reader which record is open, `Diagnosis` asks the lines.
  have hinside : (p.opened.map OpenRecord.id).isSome ↔ InRecord before := by
    rw [Option.isSome_map]
    exact isSome_opened_iff hbefore
  have houtside : p.opened.map OpenRecord.id = none ↔ ¬ InRecord before := by
    rw [← hinside, Bool.not_eq_true, Option.isSome_eq_false_iff, Option.isNone_iff_eq_none]
  refine ⟨?_, ?_, ?_, ?_, ?_, ?_, ?_, ?_, ?_, ?_⟩
  · rw [← hinside]
    exact h.unclosed_iff
  · rintro id rfl
    obtain ⟨current, hopen, rfl⟩ := h.opened_of_unclosed
    obtain ⟨record, hrecord, rfl⟩ := Option.map_eq_some_iff.mp hopen
    exact lastHeader_of_opened hbefore hrecord
  · rw [← houtside]
    exact h.emptyId_iff
  · rw [← houtside]
    exact h.stray_iff
  · rw [← houtside]
    exact h.orphan_iff
  · rw [← hinside]
    exact h.short_iff
  · rw [← hinside]
    exact h.delimiter_iff
  · rw [← hinside]
    exact h.language_iff
  · rw [← houtside, ← hinside]
    exact h.escape_iff
  · rintro bad rfl
    exact h.stops_drop

end Progress.HasFault

namespace Catalog

/-- A file that is refused for one of its lines is refused for the fault that this line
has behind the lines before it. -/
theorem parse_diagnosis {source : String} {r : Rejection} (h : parse source = .error r)
    (hr : ∀ id, r.fault ≠ .missingTerminator id) :
    ∃ before line after, Lines.ofFile source = before ++ line :: after
      ∧ r.line = before.length + 1 ∧ Diagnosis before line r.fault := by
  obtain ⟨before, line, after, p, hlines, hbefore, hline, hnumber⟩ := exists_refused_line h hr
  obtain ⟨fault, hfault, rfl⟩ := Progress.step_error_iff.mp hline
  exact ⟨before, line, after, hlines, hnumber, hfault.diagnosis hbefore⟩

/-- A header in the second of two records. The first has a terminator. -/
theorem parse_diagnosis_unclosed :
    ∃ before after, Lines.ofFile "\ufeffID:A\r\n---\n\nID:B\nfr:x\nID:C\n---\n"
        = before ++ "ID:C".toList :: after
      ∧ before.length = 5 ∧ InRecord before ∧ LastHeader before "B".toList := by
  have h : parse "\ufeffID:A\r\n---\n\nID:B\nfr:x\nID:C\n---\n"
      = .error ⟨6, .unclosedRecord "B", []⟩ := by
    rfl
  obtain ⟨before, line, after, hlines, hnumber, hdiagnosis⟩ := parse_diagnosis h (by simp)
  -- The number of the line tells how many lines stand before it, and so which one it is.
  have hlength : before.length = 5 := Nat.succ.inj hnumber.symm
  have hline : (Lines.ofFile "\ufeffID:A\r\n---\n\nID:B\nfr:x\nID:C\n---\n")[5]? = some line := by
    rw [hlines, List.getElem?_append_right (by omega), hlength]
    rfl
  obtain rfl : "ID:C".toList = line := Option.some.inj hline
  exact ⟨before, after, hlines, hlength, (hdiagnosis.unclosed.mpr ⟨"B", rfl⟩).1,
    hdiagnosis.unclosed_id "B" rfl⟩

end Catalog

end Phrasebook
