import Phrasebook.Proofs.Catalog.Steps

/-!
# `Phrasebook.Proofs.Catalog.Completeness`: what is written is read back

Every well-formed catalog is read back from every file that it can be written
in. The file may begin with a mark, have blank lines around the records, and end
each line in either way. `parse_complete` states this.

The proof goes from the inside out. `steps_of_wordings` and `steps_of_record`
follow one record, `steps_of_spaced` all records with the blank lines around
them, and `Lines.split_of_ended` leads from the lines to the characters.
-/

set_option autoImplicit false

namespace Phrasebook

/-! ### No line hides a line end or a mark -/

/-- A header is one line, since its id is. -/
theorem newline_not_mem_headerLine {id : Text} (h : id.WellFormed) : '\n' ∉ headerLine id := by
  simpa [headerLine] using h.oneLine

/-- A wording is one line, since its text is and no line feed is in its code. -/
theorem newline_not_mem_wordingLine {wording : Wording} (h : wording.WellFormed) :
    '\n' ∉ wording.line := by
  have hlang : '\n' ∉ wording.lang.toList := fun m => by
    have halpha := h.lang.alphanum _ m
    revert halpha
    decide
  simpa [Wording.line, hlang] using h.text.oneLine

/-- So no line of a record has a line feed in it. -/
theorem newline_not_mem_recordLines {record : Record} (h : record.WellFormed) :
    ∀ line ∈ record.lines, '\n' ∉ line := by
  intro line hline
  rcases List.mem_append.mp hline with hline | hline
  · rcases List.mem_cons.mp hline with rfl | hline
    · exact newline_not_mem_headerLine h.id
    · obtain ⟨wording, hw, rfl⟩ := List.mem_map.mp hline
      exact newline_not_mem_wordingLine (h.wordings wording hw)
  · rw [List.mem_singleton.mp hline]
    decide

namespace Spaced

variable {records : List Record} {lines : List (List Char)}

/-- Nor has any line of a file with these records and with blank lines. -/
theorem newline_not_mem (h : Spaced records lines)
    (hr : ∀ record ∈ records, record.WellFormed) : ∀ line ∈ lines, '\n' ∉ line := by
  induction h with
  | nil => simp
  | blank _ ih =>
      intro line hline
      rcases List.mem_cons.mp hline with rfl | hline
      · simp
      · exact ih hr line hline
  | record record _ ih =>
      intro line hline
      rcases List.mem_append.mp hline with hline | hline
      · exact newline_not_mem_recordLines (hr record List.mem_cons_self) line hline
      · exact ih (fun r m => hr r (List.mem_cons_of_mem _ m)) line hline

/-- The first line is blank or a header, so it does not begin with a mark. -/
theorem head?_ne_mark (h : Spaced records lines) :
    ∀ line ∈ lines.head?, line.head? ≠ some Lines.byteOrderMark := by
  intro line hline
  cases h with
  | nil => cases hline
  | blank => cases hline; simp
  | record record =>
      cases hline
      rw [headerLine, List.head?_cons]
      decide

end Spaced

namespace Lines

/-- A file, with a byte-order mark in front or without. -/
def marked (mark : Bool) (text : List Char) : List Char :=
  if mark then byteOrderMark :: text else text

/-- A file whose first line does not begin with a mark has none. -/
theorem dropMark_of_ended {lines : List (List Char)} {text : List Char} (h : Ended lines text)
    (hm : ∀ line ∈ lines.head?, line.head? ≠ some byteOrderMark) : dropMark text = text := by
  -- The first character of the file is the first of its first line or of a line
  -- end.
  have hhead : text.head? ≠ some byteOrderMark := by
    cases h with
    | nil => simp
    | last => exact hm text rfl
    | @newline line =>
        have hline := hm line rfl
        cases line with
        | nil =>
            show some '\n' ≠ some byteOrderMark
            decide
        | cons c line => exact hline
    | @returnNewline line =>
        have hline := hm line rfl
        cases line with
        | nil =>
            show some '\r' ≠ some byteOrderMark
            decide
        | cons c line => exact hline
  exact dropMark_of_head?_ne hhead

end Lines

namespace Progress

/-! ### Records are taken -/

/-- A blank line is only taken between records. -/
theorem Step.of_nil {p q : Progress} (h : Step p [] q) : p.opened = none ∧ q = p.next := by
  generalize hline : ([] : List Char) = line at h
  cases h with
  -- The other lines have a character to start with.
  | blank outside => exact ⟨outside, rfl⟩
  | header => cases hline
  | terminator => cases hline
  | wording => simp [Wording.line] at hline

/-- The wordings of a record are taken one after the other. -/
theorem steps_of_wordings {wordings : List Wording}
    (hw : ∀ wording ∈ wordings, wording.WellFormed) {p : Progress} {record : OpenRecord}
    (hopen : p.opened = some record) :
    ∃ q, p.steps (wordings.map Wording.line) = .ok q ∧ q.closed = p.closed
      ∧ q.opened = some { record with wordings := wordings.reverse ++ record.wordings } := by
  -- By induction on the wordings. Each makes the open record longer.
  induction wordings generalizing p record with
  | nil => exact ⟨p, rfl, rfl, hopen⟩
  | cons wording wordings ih =>
      have hwording := hw wording List.mem_cons_self
      have hstep : Step p wording.line (p.next.adding record wording) :=
        .wording record wording hopen hwording.lang hwording.text.parsed
      -- The open record holds its wordings latest first.
      obtain ⟨q, hsteps, hclosed, hopened⟩ :=
        ih (fun w m => hw w (List.mem_cons_of_mem _ m)) (adding_opened p.next record wording)
      refine ⟨q, steps_cons_ok_iff.mpr ⟨_, hstep, hsteps⟩, ?_, ?_⟩
      · rw [hclosed, adding_closed]
        rfl
      · rw [hopened, List.reverse_cons, List.append_assoc]
        rfl

/-- The lines of a record are taken, and add the record. -/
theorem steps_of_record {record : Record} (hr : record.WellFormed) {p : Progress}
    (hopen : p.opened = none) :
    ∃ q, p.steps record.lines = .ok q ∧ q.opened = none ∧ q.closed = record :: p.closed := by
  have hheader : Step p (headerLine record.id) (p.next.opening record.id) :=
    .header record.id hopen hr.filled hr.id.parsed
  obtain ⟨m, hsteps, hclosed, hopened⟩ :=
    steps_of_wordings hr.wordings (opening_opened p.next record.id)
  have hend : Step m terminatorLine (m.next.closing _) := .terminator _ hopened
  refine ⟨_, steps_append_ok_iff.mpr ⟨m, steps_cons_ok_iff.mpr ⟨_, hheader, hsteps⟩,
    steps_cons_ok_iff.mpr ⟨_, hend, rfl⟩⟩, rfl, ?_⟩
  rw [opening_closed] at hclosed
  show OpenRecord.close _ :: m.closed = record :: p.closed
  rw [hclosed, OpenRecord.close, List.append_nil, List.reverse_reverse]
  rfl

/-- Records with blank lines around them are taken, and add the records. -/
theorem steps_of_spaced {records : List Record} {lines : List (List Char)}
    (h : Spaced records lines) (hr : ∀ record ∈ records, record.WellFormed) {p : Progress}
    (hopen : p.opened = none) :
    ∃ q, p.steps lines = .ok q ∧ q.opened = none ∧ q.closed = records.reverse ++ p.closed := by
  -- By induction on the layout, from one record or blank line to what is behind it. No
  -- record is open in between.
  induction h generalizing p with
  | nil => exact ⟨p, rfl, hopen, rfl⟩
  | blank _ ih =>
      obtain ⟨q, hsteps, hopened, hclosed⟩ := ih hr (p := p.next) hopen
      exact ⟨q, steps_cons_ok_iff.mpr ⟨_, .blank hopen, hsteps⟩, hopened, hclosed⟩
  | record record _ ih =>
      obtain ⟨m, hrecord, hmopen, hmclosed⟩ := steps_of_record (hr record List.mem_cons_self) hopen
      obtain ⟨q, hsteps, hopened, hclosed⟩ :=
        ih (fun r hm => hr r (List.mem_cons_of_mem _ hm)) hmopen
      refine ⟨q, steps_append_ok_iff.mpr ⟨m, hrecord, hsteps⟩, hopened, ?_⟩
      rw [hclosed, hmclosed, List.reverse_cons, List.append_assoc]
      rfl

end Progress

namespace Catalog

/-- A catalog is read from every file that has its lines, with any blank lines around
the records. -/
theorem parse_of_spaced {catalog : Catalog} (hc : catalog.WellFormed) {source : String}
    (hs : Spaced catalog.records (Lines.ofFile source)) :
    ∃ warnings, parse source = .ok ⟨catalog, warnings⟩ := by
  obtain ⟨q, hsteps, hopened, hclosed⟩ :=
    Progress.steps_of_spaced hs hc (p := Progress.start) rfl
  have hcatalog : catalog = ⟨q.closed.reverse⟩ := by
    rw [hclosed, List.reverse_append, List.reverse_reverse]
    rfl
  exact ⟨_, parse_ok_iff.mpr ⟨q, hsteps, hopened, by rw [hcatalog]⟩⟩

/-- A well-formed catalog is read back from every file that it is written in,
its duplicates included. -/
theorem parse_complete {catalog : Catalog} (hc : catalog.WellFormed)
    {lines : List (List Char)} (hs : Spaced catalog.records lines)
    {text : List Char} (he : Lines.Ended lines text) (mark : Bool) :
    ∃ warnings, parse (.ofList (Lines.marked mark text)) = .ok ⟨catalog, warnings⟩ := by
  have hfile : Lines.ofFile (.ofList (Lines.marked mark text)) = Lines.split text := by
    rw [Lines.ofFile, String.toList_ofList]
    cases mark with
    | false => rw [Lines.marked, if_neg (by decide), Lines.dropMark_of_ended he hs.head?_ne_mark]
    | true => rfl
  obtain ⟨q, hsteps, hopened, hclosed⟩ :=
    Progress.steps_of_spaced hs hc (p := Progress.start) rfl
  have hcatalog : catalog = ⟨q.closed.reverse⟩ := by
    rw [hclosed, List.reverse_append, List.reverse_reverse]
    rfl
  rcases Lines.split_of_ended he (hs.newline_not_mem hc) with hsplit | hsplit
  · rw [← hsplit, ← hfile] at hsteps
    exact ⟨_, parse_ok_iff.mpr ⟨q, hsteps, hopened, by rw [hcatalog]⟩⟩
  · -- The last line is blank and has no end, so the file does without it.
    rw [← hsplit, ← hfile] at hsteps
    obtain ⟨m, hfront, hlast⟩ := Progress.steps_append_ok_iff.mp hsteps
    obtain ⟨n, hblank, hnil⟩ := Progress.steps_cons_ok_iff.mp hlast
    obtain ⟨hmopened, rfl⟩ := hblank.of_nil
    obtain rfl := Progress.steps_nil_ok_iff.mp hnil
    exact ⟨_, parse_ok_iff.mpr ⟨m, hfront, hmopened, by rw [hcatalog]; rfl⟩⟩

/-- A text that ends with a carriage return, a text that looks like two other
lines, a blank first line, and no end of the last line. -/
theorem parse_complete_mixed_ends :
    ∃ text, text = "\r\nID:\\?\r\r\nfr:ID:---\nfr:\n---".toList
      ∧ ∃ warnings, parse (.ofList (Lines.marked true text))
          = .ok ⟨⟨[⟨⟨"\\?\r", "?\r"⟩,
              [⟨"fr", "ID:---", "ID:---"⟩, ⟨"fr", "", ""⟩]⟩]⟩, warnings⟩ := by
  have hwell : WellFormed
      ⟨[⟨⟨"\\?\r", "?\r"⟩, [⟨"fr", "ID:---", "ID:---"⟩, ⟨"fr", "", ""⟩]⟩]⟩ := by
    have hlang : IsLang "fr" := ⟨rfl, by simp [Char.isAlphanum], by decide⟩
    intro record hrecord
    rw [List.mem_singleton.mp hrecord]
    refine ⟨by decide, ⟨rfl, by decide⟩, ?_⟩
    intro wording hwording
    rcases List.mem_cons.mp hwording with rfl | hwording
    · exact ⟨hlang, rfl, by decide⟩
    · rw [List.mem_singleton.mp hwording]
      exact ⟨hlang, rfl, by decide⟩
  exact ⟨_, rfl, parse_complete hwell (.blank (.record _ .nil))
    (.returnNewline (.returnNewline (.newline (by decide) (.newline (by decide) (.last _))))) true⟩

end Catalog

end Phrasebook
