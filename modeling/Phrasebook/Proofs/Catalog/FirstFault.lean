import Phrasebook.Proofs.Catalog.Steps

/-!
# `Phrasebook.Proofs.Catalog.FirstFault`: where a file is refused

A file is refused at the first line that no continuation can mend. The theorems:

* `parse_before`: the lines before the refused one are a catalog, or become one
  with a terminator, so the refusal does not come too late.
* `parse_through`: the lines up to the refused one are refused in the same way
  whatever is put after them, so it does not come too early.

Both find the refused line among the lines of the file (`exists_refused_line`)
and then cut the file at its line feeds, which `Lines.through` does.
-/

set_option autoImplicit false

namespace Phrasebook.Catalog

/-- The line at which a file is refused, and what was read before it. -/
theorem exists_refused_line {source : String} {r : Rejection} (h : parse source = .error r)
    (hr : ∀ id, r.fault ≠ .missingTerminator id) :
    ∃ front line back q, Lines.ofFile source = front ++ line :: back
      ∧ Progress.start.steps front = .ok q ∧ q.step line = .error r
      ∧ r.line = front.length + 1 := by
  rcases parse_error_iff.mp h with hsteps | ⟨q, record, -, -, rfl⟩
  · obtain ⟨front, line, back, q, hlines, hfront, hline⟩ := Progress.steps_error_split hsteps
    obtain ⟨fault, -, rfl⟩ := Progress.refused_of_step hline
    refine ⟨front, line, back, q, hlines, hfront, hline, ?_⟩
    show q.line + 1 = front.length + 1
    rw [Progress.line_of_start_steps hfront]
  · exact absurd rfl (hr record.id.source)

/-- A file is accepted, or lacks a terminator and is accepted with one, if its
lines are taken. -/
theorem parse_or_terminate {front : List Char} (hwhole : Lines.Whole front) {q : Progress}
    (h : Progress.start.steps (Lines.ofFile (.ofList front)) = .ok q) :
    (∃ reading, parse (.ofList front) = .ok reading)
      ∨ (∃ line id warnings, parse (.ofList front) = .error ⟨line, .missingTerminator id, warnings⟩)
        ∧ ∃ reading, parse (.ofList (front ++ terminatorLine)) = .ok reading := by
  cases hopen : q.opened with
  | none => exact .inl ⟨_, parse_ok_iff.mpr ⟨q, h, hopen, rfl⟩⟩
  | some record =>
      -- One more line closes the record, and nothing else is open.
      have hlines : Lines.ofFile (.ofList (front ++ terminatorLine))
          = Lines.ofFile (.ofList front) ++ [terminatorLine] :=
        Lines.ofFile_append hwhole fun _ => by decide
      have hend : Progress.start.steps (Lines.ofFile (.ofList (front ++ terminatorLine)))
          = .ok (q.next.closing record) := by
        rw [hlines]
        exact Progress.steps_append_ok_iff.mpr
          ⟨q, h, Progress.steps_cons_ok_iff.mpr ⟨_, .terminator record hopen, rfl⟩⟩
      exact .inr ⟨⟨_, _, _, parse_error_iff.mpr (.inr ⟨q, record, h, hopen, rfl⟩)⟩,
        ⟨_, parse_ok_iff.mpr ⟨_, hend, rfl, rfl⟩⟩⟩

/-- The refusal does not come too late: what stands before the refused line is a
catalog or a terminator short of one. -/
theorem parse_before {source : String} {r : Rejection} (h : parse source = .error r)
    (hr : ∀ id, r.fault ≠ .missingTerminator id) :
    (∃ reading, parse (.ofList (Lines.through (r.line - 1) source.toList)) = .ok reading)
      ∨ (∃ line id warnings, parse (.ofList (Lines.through (r.line - 1) source.toList))
            = .error ⟨line, .missingTerminator id, warnings⟩)
        ∧ ∃ reading, parse (.ofList (Lines.through (r.line - 1) source.toList ++ terminatorLine))
            = .ok reading := by
  obtain ⟨front, line, back, q, hlines, hfront, -, hnumber⟩ := exists_refused_line h hr
  -- The lines that were taken are those of the file cut before the refused line.
  have hbefore : Lines.ofFile (.ofList (Lines.through (r.line - 1) source.toList)) = front := by
    rw [Lines.ofFile_through, hlines, hnumber, Nat.add_sub_cancel, List.take_left]
  have hcount : r.line - 1 ≤ source.toList.count '\n' := by
    have hlength := Lines.length_ofFile_le source
    rw [hlines, List.length_append, List.length_cons] at hlength
    omega
  rw [← hbefore] at hfront
  exact parse_or_terminate (Lines.whole_through hcount) hfront

/-- The refusal does not come too early: once the refused line has ended, what
follows it changes nothing. -/
theorem parse_through {source : String} {r : Rejection} (h : parse source = .error r)
    (hr : ∀ id, r.fault ≠ .missingTerminator id) (hcount : r.line ≤ source.toList.count '\n')
    (rest : List Char) :
    parse (.ofList (Lines.through r.line source.toList ++ rest)) = .error r := by
  obtain ⟨front, line, back, q, hlines, hfront, hline, hnumber⟩ := exists_refused_line h hr
  -- The refused line ends with a line feed, so what is put after it is not
  -- taken for the mark of the file.
  have hne : Lines.through r.line source.toList ≠ [] := by
    rw [hnumber]
    cases hs : source.toList with
    | nil => rw [hs, List.count_nil] at hcount; omega
    | cons c chars => simp [Lines.through]
  have hthrough : Lines.ofFile (.ofList (Lines.through r.line source.toList))
      = front ++ [line] := by
    have hlength : front.length + 1 = (front ++ [line]).length := by simp
    rw [Lines.ofFile_through, hlines, hnumber, hlength, List.append_cons front line back,
      List.take_left]
  have hall : Lines.ofFile (.ofList (Lines.through r.line source.toList ++ rest))
      = front ++ line :: Lines.split rest := by
    rw [Lines.ofFile_append (Lines.whole_through hcount) (fun e => absurd e hne), hthrough,
      List.append_assoc]
    rfl
  refine parse_error_iff.mpr (.inl ?_)
  rw [hall]
  exact Progress.steps_of_step_error hfront hline _

/-- A file that is refused for one of its lines is refused for the first line
that cannot stand in a catalog. What comes before this line is a catalog or a
terminator short of one. What comes after it changes nothing. -/
theorem parse_error_first {source : String} {r : Rejection} (h : parse source = .error r)
    (hr : ∀ id, r.fault ≠ .missingTerminator id) :
    ((∃ reading, parse (.ofList (Lines.through (r.line - 1) source.toList)) = .ok reading)
      ∨ (∃ line id warnings, parse (.ofList (Lines.through (r.line - 1) source.toList))
            = .error ⟨line, .missingTerminator id, warnings⟩)
        ∧ ∃ reading, parse (.ofList (Lines.through (r.line - 1) source.toList ++ terminatorLine))
            = .ok reading)
      ∧ (r.line ≤ source.toList.count '\n' →
          ∀ rest, parse (.ofList (Lines.through r.line source.toList ++ rest)) = .error r) := by
  constructor
  · exact parse_before h hr
  · intro hcount rest
    exact parse_through h hr hcount rest

/-- A second header in a record that has a warning already. -/
theorem parse_error_first_unclosed :
    parse "\ufeffID:A\r\nfr:x\nfr:y\nID:B\n---"
        = .error ⟨4, .unclosedRecord "A", [.duplicateWording 3 "A" "fr"]⟩
      ∧ ∀ rest, parse (.ofList ("\ufeffID:A\r\nfr:x\nfr:y\nID:B\n".toList ++ rest))
          = .error ⟨4, .unclosedRecord "A", [.duplicateWording 3 "A" "fr"]⟩ := by
  have h : parse "\ufeffID:A\r\nfr:x\nfr:y\nID:B\n---"
      = .error ⟨4, .unclosedRecord "A", [.duplicateWording 3 "A" "fr"]⟩ := by
    rfl
  exact ⟨h, (parse_error_first h (by simp)).2 (by decide)⟩

end Phrasebook.Catalog
