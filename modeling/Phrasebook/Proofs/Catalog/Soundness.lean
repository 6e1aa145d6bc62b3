import Phrasebook.Proofs.Catalog.Steps
import Phrasebook.Proofs.Text.Fragment

/-!
# `Phrasebook.Proofs.Catalog.Soundness`: an accepted file says what it holds

Reading loses nothing and invents nothing. Two facts are carried along the
lines of a file:

* `Progress.lines`, what has been read so far written out again, are the lines
  that were taken, without the blank ones (`lines_of_steps`).
* `Progress.Sound`: every record so far, the open one included, can stand in a
  file (`sound_step`).

A blank line never stands in a record: `nil_not_mem_of_steps`. `parse_sound` puts
the three together.
-/

set_option autoImplicit false

namespace Phrasebook

/-- The lines of a record that has no terminator yet. -/
def OpenRecord.lines (record : OpenRecord) : List (List Char) :=
  headerLine record.id :: record.wordings.reverse.map Wording.line

/-- The terminator makes an open record a record. -/
theorem OpenRecord.close_lines (record : OpenRecord) :
    record.close.lines = record.lines ++ [terminatorLine] := rfl

namespace Progress

/-! ### Nothing is lost -/

/-- What has been read, written out again. -/
def lines (p : Progress) : List (List Char) :=
  p.closed.reverse.flatMap Record.lines ++ (p.opened.map OpenRecord.lines).getD []

/-- A line that is taken goes to the end of what has been read, unless it is
blank. -/
theorem lines_of_step {p q : Progress} {line : List Char} (h : Step p line q) :
    q.lines = p.lines ++ [line].filter (· ≠ []) := by
  cases h with
  | blank outside =>
      -- A blank line is dropped on both sides.
      show p.lines = p.lines ++ []
      rw [List.append_nil]
  | header id outside filled parsed =>
      rw [lines, lines, opening_closed, opening_opened, outside]
      show _ ++ [headerLine id] = _ ++ [] ++ [headerLine id]
      rw [List.append_nil]
      rfl
  | terminator record inside =>
      rw [lines, lines, inside]
      show (record.close :: p.closed).reverse.flatMap Record.lines ++ []
        = p.closed.reverse.flatMap Record.lines ++ record.lines ++ [terminatorLine]
      rw [List.append_nil, List.reverse_cons, List.flatMap_append, List.flatMap_singleton,
        OpenRecord.close_lines, List.append_assoc]
  | wording record wording inside lang parsed =>
      have hline : wording.line ≠ [] := by simp [Wording.line]
      have hfilter : [wording.line].filter (· ≠ []) = [wording.line] := by simp [hline]
      rw [lines, lines, adding_closed, adding_opened, inside, hfilter]
      show _ ++ (headerLine record.id :: (wording :: record.wordings).reverse.map Wording.line)
        = _ ++ record.lines ++ [wording.line]
      rw [List.reverse_cons, List.map_append, List.append_assoc]
      rfl

/-- What has been read is the lines that were taken, without the blank ones. -/
theorem lines_of_steps {p q : Progress} {taken : List (List Char)} (h : p.steps taken = .ok q) :
    q.lines = p.lines ++ taken.filter (· ≠ []) := by
  induction taken generalizing p with
  | nil =>
      rw [← steps_nil_ok_iff.mp h]
      exact (List.append_nil _).symm
  | cons line taken ih =>
      obtain ⟨m, hstep, hrest⟩ := steps_cons_ok_iff.mp h
      rw [ih hrest, lines_of_step hstep, List.append_assoc, ← List.filter_append,
        List.singleton_append]

/-! ### Nothing is invented -/

/-- Every record so far can stand in a file. The open one can if it ends now. -/
structure Sound (p : Progress) : Prop where
  closed : ∀ record ∈ p.closed, record.WellFormed
  opened : ∀ record, p.opened = some record → record.close.WellFormed

/-- Before the first line there is no record. -/
theorem sound_start : start.Sound where
  closed := by simp [start]
  opened := by simp [start]

/-- A line without a line feed keeps the records fit for a file. -/
theorem sound_step {p q : Progress} {line : List Char} (hline : '\n' ∉ line)
    (h : Step p line q) (hp : p.Sound) : q.Sound := by
  cases h with
  | blank outside => exact ⟨hp.closed, hp.opened⟩
  | header id outside filled parsed =>
      have hone : '\n' ∉ id.source.toList := by
        intro m
        exact hline (by simp [headerLine, m])
      refine ⟨?_, ?_⟩
      · rw [opening_closed]
        exact hp.closed
      · intro record hrecord
        cases hrecord
        exact ⟨filled, ⟨parsed, hone⟩, by simp [OpenRecord.close]⟩
  | terminator record inside =>
      -- The open record has been fit to end at any time, and ends here.
      refine ⟨?_, fun _ h => by cases h⟩
      intro r hr
      rcases List.mem_cons.mp hr with rfl | hr
      · exact hp.opened record inside
      · exact hp.closed r hr
  | wording record wording inside lang parsed =>
      have hone : '\n' ∉ wording.text.source.toList := by
        intro m
        exact hline (by simp [Wording.line, m])
      refine ⟨?_, ?_⟩
      · rw [adding_closed]
        exact hp.closed
      · intro r hr
        cases hr
        have hrecord := hp.opened record inside
        refine ⟨hrecord.filled, hrecord.id, ?_⟩
        intro w hw
        rw [OpenRecord.close, List.mem_reverse] at hw
        rcases List.mem_cons.mp hw with rfl | hw
        · exact ⟨lang, parsed, hone⟩
        · exact hrecord.wordings w (List.mem_reverse.mpr hw)

/-! ### No blank line in a record -/

/-- Between the header of a record and its terminator no blank line is taken. -/
theorem nil_not_mem_of_steps {p q : Progress} {taken : List (List Char)}
    (h : p.steps taken = .ok q) (hopen : p.opened.isSome) (hend : terminatorLine ∉ taken) :
    [] ∉ taken := by
  obtain ⟨record, inside⟩ := Option.isSome_iff_exists.mp hopen
  obtain ⟨wordings, -, rfl, -, -⟩ := steps_inside h inside hend
  intro hm
  obtain ⟨wording, -, hline⟩ := List.mem_map.mp hm
  simp [Wording.line] at hline

end Progress

namespace Catalog

/-- What is read from a file can be written in one. -/
theorem wellFormed_of_parse {source : String} {reading : Reading}
    (h : parse source = .ok reading) : reading.catalog.WellFormed := by
  obtain ⟨q, hsteps, -, rfl⟩ := parse_ok_iff.mp h
  have hsound : q.Sound :=
    Progress.keep_of_steps Progress.sound_step
      (fun line hline => Lines.newline_not_mem_of_mem_split hline) hsteps Progress.sound_start
  intro record hrecord
  exact hsound.closed record (List.mem_reverse.mp hrecord)

/-- The lines of the catalog are the lines of the file, without the blank
ones. -/
theorem lines_of_parse {source : String} {reading : Reading} (h : parse source = .ok reading) :
    reading.catalog.lines = (Lines.ofFile source).filter (· ≠ []) := by
  obtain ⟨q, hsteps, hopen, rfl⟩ := parse_ok_iff.mp h
  have hlines := Progress.lines_of_steps hsteps
  rw [Progress.lines, hopen] at hlines
  simpa [Catalog.lines, Progress.lines, Progress.start] using hlines

/-- No blank line stands between a header and the next terminator. -/
theorem nil_not_mem_of_parse {source : String} {reading : Reading}
    (h : parse source = .ok reading) {before between after : List (List Char)} {id : List Char}
    (hlines : Lines.ofFile source
      = before ++ ('I' :: 'D' :: ':' :: id) :: between ++ terminatorLine :: after)
    (hend : terminatorLine ∉ between) : [] ∉ between := by
  obtain ⟨q, hsteps, -, -⟩ := parse_ok_iff.mp h
  rw [hlines, List.append_assoc] at hsteps
  obtain ⟨p, -, hrecord⟩ := Progress.steps_append_ok_iff.mp hsteps
  -- `p` is what was read before the header, and `m` what was read with it.
  obtain ⟨m, hheader, hrest⟩ := Progress.steps_cons_ok_iff.mp hrecord
  obtain ⟨n, hbetween, -⟩ := Progress.steps_append_ok_iff.mp hrest
  obtain ⟨text, -, -, -, rfl⟩ := hheader.of_header
  exact Progress.nil_not_mem_of_steps hbetween rfl hend

/-- The catalog of an accepted file can be written in a file, and no id in it is
empty. Its lines are the lines of the file without the blank ones, and of those
none stands inside a record. -/
theorem parse_sound {source : String} {reading : Reading} (h : parse source = .ok reading) :
    (reading.catalog.WellFormed
        ∧ ∀ record ∈ reading.catalog.records, record.id.source ≠ "" ∧ record.id.value ≠ "")
      ∧ reading.catalog.lines = (Lines.ofFile source).filter (· ≠ [])
      ∧ ∀ before id between after,
          Lines.ofFile source
            = before ++ ('I' :: 'D' :: ':' :: id) :: between ++ terminatorLine :: after →
          terminatorLine ∉ between → [] ∉ between := by
  have hwell := wellFormed_of_parse h
  refine ⟨⟨hwell, ?_⟩, lines_of_parse h, ?_⟩
  · intro record hrecord
    have hfilled := (hwell record hrecord).filled
    exact ⟨hfilled, Text.value_ne_empty (hwell record hrecord).id.parsed hfilled⟩
  · intro before id between after hlines hend
    exact nil_not_mem_of_parse h hlines hend

/-- A file with a mark, both line ends, a blank line and a last line without an
end. -/
theorem parse_sound_marked :
    ∃ reading, parse "\ufeffID:Hi\\n\r\nfr:a:b\n---\n\nID:-\n---" = .ok reading
      ∧ reading.catalog.WellFormed
      ∧ reading.catalog.lines = ["ID:Hi\\n", "fr:a:b", "---", "ID:-", "---"].map String.toList := by
  have h : parse "\ufeffID:Hi\\n\r\nfr:a:b\n---\n\nID:-\n---"
      = .ok ⟨⟨[⟨⟨"Hi\\n", "Hi\n"⟩, [⟨"fr", "a:b", "a:b"⟩]⟩, ⟨⟨"-", "-"⟩, []⟩]⟩, []⟩ := by
    rfl
  obtain ⟨⟨hwell, -⟩, hlines, -⟩ := parse_sound h
  exact ⟨_, h, hwell, by rw [hlines]; decide⟩

end Catalog

end Phrasebook
