import Phrasebook.Proofs.Catalog.Opened

/-!
# `Phrasebook.Proofs.Catalog.Terminator`: one more terminator

That a record lacks its terminator is noticed at the end of the file, and reported at
the header of the record. Such a file is one terminator short of a catalog, and no
other file is. This is shown by comparing a file with the same file and a terminator
behind it: `Terminates` lists the three ways the two can go, and `terminates` shows
that there is no fourth.

`unclosed_record` says what is known of the record that lacks its terminator: where
it stands, that its wordings are the rest of the file, and that the records before it
are those of the lines before it. `parse_terminated` puts both together.
-/

set_option autoImplicit false

namespace Phrasebook.Catalog

/-- A terminator behind a file of whole lines is one more line. -/
theorem ofFile_terminated {source : String} (hwhole : Lines.Whole source.toList) :
    Lines.ofFile (source ++ "---") = Lines.ofFile source ++ [terminatorLine] :=
  Lines.ofFile_append_ofFile hwhole (by decide)

/-- `Terminates source`: how `source` is read, alone and with a terminator behind it. -/
inductive Terminates (source : String) : Prop where
  /-- A record is open at the end, and the terminator closes it. -/
  | unclosed (p : Progress) (record : OpenRecord)
      (taken : Progress.start.steps (Lines.ofFile source) = .ok p)
      (inside : p.opened = some record)
      (alone : parse source
        = .error ⟨record.line, .missingTerminator record.id.source, p.warnings.reverse⟩)
      (terminated : parse (source ++ "---")
        = .ok ⟨⟨p.closed.reverse ++ [record.close]⟩, p.warnings.reverse⟩)
  /-- All records are closed, and the terminator is one too many. -/
  | accepted (reading : Reading) (alone : parse source = .ok reading)
      (terminated : parse (source ++ "---")
        = .error ⟨(Lines.ofFile source).length + 1, .strayTerminator, reading.warnings⟩)
  /-- A line is refused, and the terminator is not reached. -/
  | refused (r : Rejection) (fault : ∀ id, r.fault ≠ .missingTerminator id)
      (line : r.line ≤ (Lines.ofFile source).length) (alone : parse source = .error r)
      (terminated : parse (source ++ "---") = .error r)

/-- There is no fourth way. -/
theorem terminates {source : String} (hwhole : Lines.Whole source.toList) :
    Terminates source := by
  have hlines := ofFile_terminated hwhole
  obtain ⟨p, hp, hends⟩ := exists_ends source
  cases hends with
  | accepted whole outside result =>
      rw [whole] at hp
      refine .accepted _ result ?_
      -- Between records a terminator is a fault, and nothing was refused before it.
      have hfault : Progress.HasFault (p.opened.map OpenRecord.id) terminatorLine
          .strayTerminator := by
        rw [outside]
        exact .stray
      have hstep := Progress.step_error_iff.mpr ⟨_, hfault, rfl⟩
      have hnumber : p.next.line = (Lines.ofFile source).length + 1 := by
        show p.line + 1 = _
        rw [Progress.line_of_start_steps hp]
      rw [Progress.refusal, hnumber] at hstep
      refine parse_error_iff.mpr (.inl ?_)
      rw [hlines]
      exact Progress.steps_of_step_error hp hstep []
  | unclosed record whole inside result =>
      rw [whole] at hp
      refine .unclosed p record hp inside result (parse_ok_iff.mpr ⟨p.next.closing record, ?_, rfl, ?_⟩)
      · rw [hlines]
        exact Progress.steps_append_ok_iff.mpr
          ⟨p, hp, Progress.steps_cons_ok_iff.mpr ⟨_, .terminator record inside, rfl⟩⟩
      · show _ = (⟨⟨(record.close :: p.closed).reverse⟩, _⟩ : Reading)
        rw [List.reverse_cons]
        rfl
  | refused line rest r cut fault result =>
      obtain ⟨kind, hkind, rfl⟩ := Progress.refused_of_step fault
      refine .refused _ hkind ?_ result (parse_error_iff.mpr (.inl ?_))
      · show p.line + 1 ≤ _
        rw [Progress.line_of_start_steps hp, cut, List.length_append, List.length_cons]
        omega
      · -- The terminator is one of the lines behind the refused one.
        rw [hlines, cut, List.append_assoc, List.cons_append]
        exact Progress.steps_of_step_error hp fault _

/-- The record that lacks its terminator begins at the header that is reported. Its
wordings are the lines behind this header, and the records before it are those of the
lines before the header. -/
theorem unclosed_record {source : String} {p : Progress} {record : OpenRecord}
    (h : Progress.start.steps (Lines.ofFile source) = .ok p) (inside : p.opened = some record) :
    ∃ before after warnings, Lines.ofFile source = before ++ headerLine record.id :: after
      ∧ record.line = before.length + 1
      ∧ (∀ line ∈ after, ¬ headerMark <+: line ∧ line ≠ terminatorLine)
      ∧ record.close.wordings.map Wording.line = after
      ∧ parse (.ofList (Lines.through (record.line - 1) source.toList))
        = .ok ⟨⟨p.closed.reverse⟩, warnings⟩ := by
  obtain ⟨before, after, hlines, -, hsince⟩ := Progress.exists_openSince h inside
  obtain ⟨m, hbefore, houtside, hclosed⟩ := hsince.before
  refine ⟨before, after, m.warnings.reverse, hlines, hsince.line, ?_, hsince.body.symm, ?_⟩
  · intro line hline
    rw [hsince.body] at hline
    obtain ⟨wording, hwording, rfl⟩ := List.mem_map.mp hline
    have hlang := hsince.langs wording (List.mem_reverse.mp hwording)
    exact ⟨Wording.not_headerMark_prefix hlang, Wording.line_ne_terminatorLine hlang⟩
  · have hcut : Lines.ofFile (.ofList (Lines.through (record.line - 1) source.toList))
        = before := by
      rw [Lines.ofFile_through, hlines, hsince.line, Nat.add_sub_cancel, List.take_left]
    rw [← hcut] at hbefore
    rw [← hclosed]
    exact parse_ok_iff.mpr ⟨m, hbefore, houtside, rfl⟩

/-- A file of whole lines lacks a terminator if and only if it is accepted with one.
It is accepted if and only if one more terminator is refused as the line behind the
last. Otherwise the terminator makes no difference. The record that lacks its
terminator is the last one of the catalog: it begins at the line that is reported, has
a wording for each line behind, and comes after the records of the lines before. -/
theorem parse_terminated {source : String} (hwhole : Lines.Whole source.toList) :
    ((∃ line id warnings, parse source = .error ⟨line, .missingTerminator id, warnings⟩)
        ↔ ∃ reading, parse (source ++ "---") = .ok reading)
      ∧ ((∃ reading, parse source = .ok reading)
        ↔ ∃ warnings, parse (source ++ "---")
          = .error ⟨(Lines.ofFile source).length + 1, .strayTerminator, warnings⟩)
      ∧ (∀ r, parse source = .error r → (∀ id, r.fault ≠ .missingTerminator id) →
          parse (source ++ "---") = .error r)
      ∧ ∀ line id warnings, parse source = .error ⟨line, .missingTerminator id, warnings⟩ →
          ∃ records record before after earlier,
            parse (source ++ "---") = .ok ⟨⟨records ++ [record]⟩, warnings⟩
            ∧ record.id.source = id
            ∧ Lines.ofFile source = before ++ (headerMark ++ id.toList) :: after
            ∧ line = before.length + 1
            ∧ (∀ l ∈ after, ¬ headerMark <+: l ∧ l ≠ terminatorLine)
            ∧ record.wordings.length = after.length
            ∧ parse (.ofList (Lines.through (line - 1) source.toList))
              = .ok ⟨⟨records⟩, earlier⟩ := by
  cases terminates hwhole with
  | unclosed p record taken inside alone terminated =>
      refine ⟨iff_of_true ⟨_, _, _, alone⟩ ⟨_, terminated⟩, ?_, ?_, ?_⟩
      · -- Neither side of the second equivalence holds.
        simp [alone, terminated]
      · intro r hr hfault
        cases alone.symm.trans hr
        exact absurd rfl (hfault record.id.source)
      · intro line id warnings h
        cases alone.symm.trans h
        obtain ⟨before, after, earlier, hlines, hnumber, hafter, hwordings, hearlier⟩ :=
          unclosed_record taken inside
        have hcount : record.close.wordings.length = after.length := by
          rw [← hwordings, List.length_map]
        exact ⟨_, record.close, before, after, earlier, terminated, rfl, hlines, hnumber, hafter,
          hcount, hearlier⟩
  | accepted reading alone terminated =>
      refine ⟨?_, iff_of_true ⟨_, alone⟩ ⟨_, terminated⟩, ?_, ?_⟩
      · simp [alone, terminated]
      · intro r hr
        cases alone.symm.trans hr
      · intro line id warnings h
        cases alone.symm.trans h
  | refused r fault line alone terminated =>
      refine ⟨?_, ?_, ?_, ?_⟩
      · refine iff_of_false ?_ (by simp [terminated])
        rintro ⟨_, id, _, h⟩
        cases alone.symm.trans h
        exact fault id rfl
      · -- The refused line is a line of the file, and the terminator comes behind them.
        refine iff_of_false (by simp [alone]) ?_
        rintro ⟨_, h⟩
        cases terminated.symm.trans h
        exact absurd line (Nat.not_succ_le_self _)
      · intro r' hr _
        cases alone.symm.trans hr
        exact terminated
      · intro _ id _ h
        cases alone.symm.trans h
        exact absurd rfl (fault id)

/-- A second record of two wordings without its terminator. A blank line and a mark
stand before it. -/
theorem parse_terminated_unclosed :
    ∃ records record before after earlier,
      parse ("\ufeffID:A\r\n---\n\nID:B\nfr:x\nfr:y\n" ++ "---")
        = .ok ⟨⟨records ++ [record]⟩, [.duplicateWording 6 "B" "fr"]⟩
      ∧ record.id.source = "B"
      ∧ Lines.ofFile "\ufeffID:A\r\n---\n\nID:B\nfr:x\nfr:y\n" = before ++ "ID:B".toList :: after
      ∧ record.wordings.length = after.length
      ∧ parse "\ufeffID:A\r\n---\n\n" = .ok ⟨⟨records⟩, earlier⟩ := by
  have h : parse "\ufeffID:A\r\n---\n\nID:B\nfr:x\nfr:y\n"
      = .error ⟨4, .missingTerminator "B", [.duplicateWording 6 "B" "fr"]⟩ := by
    rfl
  have hwhole : Lines.Whole "\ufeffID:A\r\n---\n\nID:B\nfr:x\nfr:y\n".toList := by decide
  obtain ⟨-, -, -, hrecord⟩ := parse_terminated hwhole
  obtain ⟨records, record, before, after, earlier, hread, hid, hlines, -, -, hcount, hearlier⟩ :=
    hrecord _ _ _ h
  exact ⟨records, record, before, after, earlier, hread, hid, hlines, hcount, hearlier⟩

end Phrasebook.Catalog
