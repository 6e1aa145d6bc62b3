import Phrasebook.Proofs.Catalog.Account
import Phrasebook.Proofs.Catalog.FirstFault

/-!
# `Phrasebook.Proofs.Catalog.Concatenation`: two files in a row

An accepted file can be put in front of another file. What is read from the two
is what is read from each, and if the second is refused, so are the two together,
for the same fault. The line numbers of the second file grow by the lines of the
first. This is the relation `Behind` between two runs over the same lines, one
from the start and one behind another file. A line leads it from one pair of
states to the next (`Behind.step`), or is refused in both (`Behind.step_error`).

The messages of the first file are known to the second. So the second file has
its own warnings, and more for the records whose messages only the first one has
(`warningsOf_known`). `parse_append` puts everything together.
-/

set_option autoImplicit false

namespace Phrasebook

/-! ### Line numbers behind other lines -/

/-- An open record, behind `n` more lines. -/
def OpenRecord.shift (n : Nat) (record : OpenRecord) : OpenRecord :=
  { record with line := n + record.line }

/-- A placed record, behind `n` more lines. -/
def Placed.shift (n : Nat) (r : Placed) : Placed :=
  { r with line := n + r.line }

/-- A warning, behind `n` more lines. -/
def Warning.shift (n : Nat) : Warning → Warning
  | .duplicateRecord line id => .duplicateRecord (n + line) id
  | .duplicateWording line id lang => .duplicateWording (n + line) id lang

/-- The warnings for the headers of a file that comes behind `n` lines with the
records of another catalog. A header that has been warned about gets no second
warning. -/
def Catalog.seamWarnings (catalog : Catalog) (n : Nat) (raised : List Warning)
    (headers : List (Nat × Text)) : List Warning :=
  (headers.filter fun h => (catalog.records.any fun record => record.id.value == h.2.value)
      && !raised.any (Warning.marksRecord h.1)).map
    fun h => .duplicateRecord (n + h.1) h.2.source

/-- The warnings for a record behind `n` more lines are about lines that are `n` further
on. -/
theorem Placed.warnings_shift (n : Nat) (known : List String) (r : Placed) :
    (r.shift n).warnings known = (r.warnings known).map (Warning.shift n) := by
  have hzip : (r.shift n).wordings = r.wordings.map fun w => (w.1, n + w.2) := by
    have hline : (r.shift n).line + 1 = n + (r.line + 1) := Nat.add_assoc n r.line 1
    rw [Placed.wordings, hline, ← List.map_snd_add_zipIdx_eq_zipIdx]
    refine List.map_congr_left fun w _ => ?_
    show (w.1, w.2 + n) = (w.1, n + w.2)
    rw [Nat.add_comm]
  have hwordings : (r.shift n).wordingWarnings = r.wordingWarnings.map (Warning.shift n) := by
    rw [Placed.wordingWarnings, hzip, Placed.wordingWarnings, List.map_map]
    have hrepeats : repeats (fun w : Wording × Nat => w.1.lang) []
          (r.wordings.map fun w => (w.1, n + w.2))
        = (repeats (fun w : Wording × Nat => w.1.lang) [] r.wordings).map
          fun w => (w.1, n + w.2) :=
      repeats_map (fun _ => rfl) [] r.wordings
    rw [hrepeats, List.map_map]
    rfl
  rw [Placed.warnings, Placed.warnings, hwordings, List.map_append]
  show (if r.message ∈ known then _ else _) ++ _ = _
  split <;> rfl

/-- So are the warnings for all records of a file. -/
theorem warningsOf_shift (n : Nat) (known : List String) (rs : List Placed) :
    warningsOf known (rs.map (Placed.shift n)) = (warningsOf known rs).map (Warning.shift n) := by
  induction rs generalizing known with
  | nil => rfl
  | cons r rs ih =>
      rw [List.map_cons, warningsOf, warningsOf, Placed.warnings_shift, ih, List.map_append]
      rfl

/-! ### Messages from before -/

/-- If more messages are known, there is one more warning for each record that
comes first with such a message. -/
theorem warningsOf_known (known more : List String) (rs : List Placed) :
    (warningsOf (known ++ more) rs).Perm
      (warningsOf known rs
        ++ ((firsts Placed.message known rs).filter fun r => r.message ∈ more).map
          Placed.recordWarning) := by
  induction rs generalizing known with
  | nil => exact .nil
  | cons r rs ih =>
      -- The message of `r` is known behind it, to both sides. The warnings for its
      -- wordings are the same on both.
      have hrest := (ih (r.message :: known)).append_left r.wordingWarnings
      rw [List.cons_append, ← List.append_assoc] at hrest
      rw [warningsOf, warningsOf, Placed.warnings, Placed.warnings, List.append_assoc,
        List.append_assoc, List.append_assoc]
      by_cases hr : r.message ∈ known
      · -- `r` has its warning already.
        rw [if_pos hr, if_pos (List.mem_append_left _ hr), firsts_cons_of_mem hr]
        rw [List.append_assoc] at hrest
        exact hrest.append_left _
      · rw [if_neg hr, firsts_cons_of_not_mem hr]
        by_cases hmore : r.message ∈ more
        · -- The warning for `r` moves behind those for the other records.
          have hfilter : ((r :: firsts Placed.message (r.message :: known) rs).filter
              fun r => r.message ∈ more)
              = r :: (firsts Placed.message (r.message :: known) rs).filter
                fun r => r.message ∈ more :=
            List.filter_cons_of_pos (by simpa using hmore)
          rw [if_pos (List.mem_append_right _ hmore), hfilter, List.map_cons, List.nil_append,
            ← List.append_assoc r.wordingWarnings]
          exact (hrest.cons _).trans List.perm_middle.symm
        · have hfilter : ((r :: firsts Placed.message (r.message :: known) rs).filter
              fun r => r.message ∈ more)
              = (firsts Placed.message (r.message :: known) rs).filter
                fun r => r.message ∈ more :=
            List.filter_cons_of_neg (by simpa using hmore)
          have hnot : r.message ∉ known ++ more := fun h =>
            (List.mem_append.mp h).elim hr hmore
          rw [if_neg hnot, hfilter, List.nil_append, List.nil_append]
          rw [List.append_assoc] at hrest
          exact hrest

namespace Progress

/-! ### Two runs over the same lines -/

/-- `Behind n earlier p q`: the same lines led to `p` from the start and to `q`
behind a file of `n` lines, from which the records `earlier` were read. -/
structure Behind (n : Nat) (earlier : List Record) (p q : Progress) : Prop where
  line : q.line = n + p.line
  opened : q.opened = p.opened.map (OpenRecord.shift n)
  closed : q.closed = p.closed ++ earlier

/-- Before the first of these lines. -/
theorem behind_start {p : Progress} (h : p.opened = none) : Behind p.line p.closed start p where
  line := rfl
  opened := h
  closed := rfl

namespace Behind

variable {n : Nat} {earlier : List Record} {p q p' : Progress} {line : List Char}

/-- One more line is counted in both runs. -/
theorem next (h : Behind n earlier p q) : Behind n earlier p.next q.next where
  line := by
    show q.line + 1 = n + (p.line + 1)
    rw [h.line, Nat.add_assoc]
  opened := h.opened
  closed := h.closed

/-- If no record is open in one run, none is in the other. -/
theorem opened_none (h : Behind n earlier p q) (outside : p.opened = none) : q.opened = none := by
  rw [h.opened, outside]
  rfl

/-- An open record is open in both runs, in its own place in each. -/
theorem opened_some (h : Behind n earlier p q) {record : OpenRecord}
    (inside : p.opened = some record) : q.opened = some (record.shift n) := by
  rw [h.opened, inside]
  rfl

/-- A line that is taken in one run is taken in the other. -/
theorem step (h : Behind n earlier p q) (hstep : Step p line p') :
    ∃ q', Step q line q' ∧ Behind n earlier p' q' := by
  cases hstep with
  | blank outside => exact ⟨_, .blank (h.opened_none outside), h.next⟩
  | header id outside filled parsed =>
      refine ⟨_, .header id (h.opened_none outside) filled parsed, ?_, ?_, ?_⟩
      · rw [opening_line, opening_line, h.next.line]
      · rw [opening_opened, opening_opened, h.next.line]
        rfl
      · rw [opening_closed, opening_closed, h.next.closed]
  | terminator record inside =>
      refine ⟨_, .terminator _ (h.opened_some inside), h.next.line, rfl, ?_⟩
      show record.close :: q.closed = record.close :: p.closed ++ earlier
      rw [h.closed]
      rfl
  | wording record wording inside lang parsed =>
      refine ⟨_, .wording _ wording (h.opened_some inside) lang parsed, ?_, ?_, ?_⟩
      · rw [adding_line, adding_line, h.next.line]
      · rw [adding_opened, adding_opened]
        rfl
      · rw [adding_closed, adding_closed, h.next.closed]

/-- Lines that are taken in one run are taken in the other. -/
theorem steps (h : Behind n earlier p q) {lines : List (List Char)}
    (hsteps : p.steps lines = .ok p') :
    ∃ q', q.steps lines = .ok q' ∧ Behind n earlier p' q' := by
  -- By induction on the lines. Each leads from one pair of states to the next.
  induction lines generalizing p q with
  | nil =>
      rw [← steps_nil_ok_iff.mp hsteps]
      exact ⟨q, rfl, h⟩
  | cons line lines ih =>
      obtain ⟨m, hstep, hrest⟩ := steps_cons_ok_iff.mp hsteps
      obtain ⟨m', hstep', hm⟩ := h.step hstep
      obtain ⟨q', hrest', hq⟩ := ih hm hrest
      exact ⟨q', steps_cons_ok_iff.mpr ⟨m', hstep', hrest'⟩, hq⟩

end Behind

/-- A line that is refused in one run is refused in the other, for the same
fault. Which faults it has hangs on the line and the id of the open record alone. -/
theorem Behind.step_error {n : Nat} {earlier : List Record} {p q : Progress} {line : List Char}
    {r : Rejection} (h : Behind n earlier p q) (hstep : p.step line = .error r) :
    q.step line = .error ⟨n + r.line, r.fault, q.warnings.reverse⟩ := by
  obtain ⟨fault, hfault, rfl⟩ := step_error_iff.mp hstep
  -- The two open records differ in their line alone.
  have hid : q.opened.map OpenRecord.id = p.opened.map OpenRecord.id := by
    rw [h.opened, Option.map_map]
    rfl
  rw [← hid] at hfault
  refine step_error_iff.mpr ⟨fault, hfault, ?_⟩
  rw [refusal, refusal, h.next.line]
  rfl

/-! ### The warnings of the second file -/

/-- Two runs that are `Behind` each other have the same records, in other
places. -/
theorem Behind.account {front back : List (List Char)} {m p q : Progress}
    {before alone together : List Placed} (h : Behind front.length m.closed p q)
    (hm : Account front m before) (hopen : m.opened = none) (hp : Account back p alone)
    (hq : Account (front ++ back) q together) :
    together ++ q.current = before ++ (alone ++ p.current).map (Placed.shift front.length) := by
  -- The headers are those of the lines, which are the same lines in two portions.
  have hheaders : (together ++ q.current).map Placed.header
      = (before ++ (alone ++ p.current).map (Placed.shift front.length)).map Placed.header := by
    have happend := headersAfter_append 0 front back
    rw [hq.headers, hm.headers, append_current hopen, Nat.zero_add, ← Nat.add_zero front.length,
      headersAfter_add, hp.headers, List.map_map] at happend
    have hright : (before ++ (alone ++ p.current).map (Placed.shift front.length)).map Placed.header
        = before.map Placed.header
          ++ (alone ++ p.current).map (Placed.header ∘ Placed.shift front.length) := by
      simp only [List.map_append, List.map_map]
    rw [hright]
    exact happend
  have hlines : (together ++ q.current).map Placed.line
      = (before ++ (alone ++ p.current).map (Placed.shift front.length)).map Placed.line := by
    have hnumbers := congrArg (List.map Prod.fst) hheaders
    rw [List.map_map, List.map_map] at hnumbers
    exact hnumbers
  -- The records do not know their places, so they are those of the two runs.
  have hrecords : (together ++ q.current).map Placed.record
      = (before ++ (alone ++ p.current).map (Placed.shift front.length)).map Placed.record := by
    have hcurrent : q.current.map Placed.record = p.current.map Placed.record := by
      rw [current, current, h.opened]
      cases p.opened <;> rfl
    have hshift : ∀ rs : List Placed,
        (rs.map (Placed.shift front.length)).map Placed.record = rs.map Placed.record := by
      intro rs
      rw [List.map_map]
      rfl
    rw [List.map_append, List.map_append, hshift, List.map_append, hcurrent, hq.records,
      hm.records, hp.records, h.closed, List.reverse_append, List.append_assoc]
  rw [← zipWith_placed (together ++ q.current), hlines, hrecords, zipWith_placed]

/-- The headers at the seam belong to the records that come first with a message of
the first file. -/
theorem seamWarnings_eq {front back : List (List Char)} {m p : Progress}
    {before alone : List Placed} (hm : Account front m before) (hp : Account back p alone)
    (n : Nat) :
    Catalog.seamWarnings ⟨m.closed.reverse⟩ n p.warnings.reverse (headersAfter 0 back)
      = (((firsts Placed.message [] (alone ++ p.current)).filter
          fun r => r.message ∈ (before.map Placed.message).reverse).map
        Placed.recordWarning).map (Warning.shift n) := by
  have hmember : ∀ r : Placed,
      (m.closed.reverse.any fun record => record.id.value == r.record.id.value)
        = decide (r.message ∈ (before.map Placed.message).reverse) := by
    intro r
    rw [hm.messages, Bool.eq_iff_iff, List.any_eq_true, decide_eq_true_iff, List.mem_map]
    simp only [List.mem_reverse, beq_iff_eq]
    rfl
  have hfilter : (alone ++ p.current).filter
      ((fun h : Nat × Text =>
          (m.closed.reverse.any fun record => record.id.value == h.2.value)
            && !p.warnings.reverse.any (Warning.marksRecord h.1)) ∘ Placed.header)
      = (alone ++ p.current).filter fun r =>
          decide (r.message ∈ (before.map Placed.message).reverse)
            && !p.warnings.reverse.any (Warning.marksRecord r.line) :=
    List.filter_congr fun r _ => by rw [← hmember r]; rfl
  -- A record comes first with its message if its header has no warning.
  rw [← filter_records hp.apart, ← hp.warnings, Catalog.seamWarnings, hp.headers,
    List.filter_map, hfilter, List.map_map, List.map_map, List.filter_filter]
  rfl

/-- The warnings for the lines of the second file are its own, and those for the
headers that repeat a message of the first. -/
theorem exists_seam {front back : List (List Char)} {m p q : Progress}
    (hm : start.steps front = .ok m) (hopen : m.opened = none) (hp : start.steps back = .ok p)
    (hq : m.steps back = .ok q) (h : Behind front.length m.closed p q) :
    ∃ seam : List Warning, q.warnings.reverse = m.warnings.reverse ++ seam
      ∧ seam.Perm (p.warnings.reverse.map (Warning.shift front.length)
          ++ Catalog.seamWarnings ⟨m.closed.reverse⟩ front.length p.warnings.reverse
            (headersAfter 0 back))
      ∧ (m.warnings.reverse ++ seam).Pairwise fun w v => w.line < v.line := by
  have hall : start.steps (front ++ back) = .ok q := steps_append_ok_iff.mpr ⟨m, hm, hq⟩
  obtain ⟨before, hbefore⟩ := exists_account_of_steps hm
  obtain ⟨alone, halone⟩ := exists_account_of_steps hp
  obtain ⟨together, htogether⟩ := exists_account_of_steps hall
  have hfirst : m.warnings.reverse = warningsOf [] before := by
    rw [hbefore.warnings, append_current hopen]
  -- All warnings together, taken apart at the seam.
  have hboth := htogether.warnings
  rw [h.account hbefore hopen halone htogether, warningsOf_append, warningsOf_shift, ← hfirst,
    List.append_nil] at hboth
  have hknown := (warningsOf_known [] (before.map Placed.message).reverse
    (alone ++ p.current)).map (Warning.shift front.length)
  rw [List.nil_append, List.map_append, ← halone.warnings,
    ← seamWarnings_eq hbefore halone] at hknown
  exact ⟨_, hboth, hknown, hboth ▸ sorted_warnings_of_steps hall⟩

end Progress

namespace Catalog

/-! ### Files -/

/-- An accepted file of whole lines, put in front of another file. The records
are those of the first file and then those of the second. If the second file is
refused, the two are refused at the same line and for the same fault. The
warnings are those of the first file and then, in the order of the lines, those of
the second and one for each of its headers that repeats a message of the first
without having been warned about. -/
theorem parse_append {first second : String} {reading : Reading}
    (hfirst : parse first = .ok reading) (hwhole : Lines.Whole first.toList)
    (hmark : second.toList.head? ≠ some Lines.byteOrderMark) :
    ∃ seam : List Warning,
      seam.Perm ((warningsRaised second).map (Warning.shift (Lines.ofFile first).length)
        ++ reading.catalog.seamWarnings (Lines.ofFile first).length (warningsRaised second)
          (headersAfter 0 (linesTaken second)))
      ∧ (reading.warnings ++ seam).Pairwise (fun w v => w.line < v.line)
      ∧ parse (first ++ second)
        = match parse second with
          | .ok other =>
            .ok ⟨⟨reading.catalog.records ++ other.catalog.records⟩, reading.warnings ++ seam⟩
          | .error r =>
            .error ⟨(Lines.ofFile first).length + r.line, r.fault, reading.warnings ++ seam⟩ := by
  obtain ⟨m, hm, hopen, rfl⟩ := parse_ok_iff.mp hfirst
  obtain ⟨p, hp, hends⟩ := exists_ends second
  have hlines := Lines.ofFile_append_ofFile hwhole hmark
  have hlength : m.line = (Lines.ofFile first).length := Progress.line_of_start_steps hm
  have hstart : Progress.Behind (Lines.ofFile first).length m.closed .start m :=
    hlength ▸ Progress.behind_start hopen
  obtain ⟨q, hq, hbehind⟩ := hstart.steps hp
  obtain ⟨seam, hseam, hperm, hsorted⟩ := Progress.exists_seam hm hopen hp hq hbehind
  have hboth : Progress.start.steps (Lines.ofFile first ++ linesTaken second) = .ok q :=
    Progress.steps_append_ok_iff.mpr ⟨m, hm, hq⟩
  rw [hends.warningsRaised]
  refine ⟨seam, hperm, hsorted, ?_⟩
  -- The two files end as the second does.
  cases hends with
  | accepted whole outside result =>
      rw [whole, ← hlines] at hboth
      rw [result]
      refine parse_ok_iff.mpr ⟨q, hboth, hbehind.opened_none outside, ?_⟩
      rw [hbehind.closed, List.reverse_append, hseam]
  | unclosed record whole inside result =>
      rw [whole, ← hlines] at hboth
      rw [result]
      refine parse_error_iff.mpr (.inr ⟨q, _, hboth, hbehind.opened_some inside, ?_⟩)
      rw [hseam]
      rfl
  | refused line rest r cut fault result =>
      have hrefused := hbehind.step_error fault
      rw [hseam] at hrefused
      rw [result]
      refine parse_error_iff.mpr (.inl ?_)
      rw [hlines, cut, ← List.append_assoc]
      exact Progress.steps_of_step_error hboth hrefused rest

/-- A second file with a duplicate of its own and a stray line at its end. It
spells the message of the first file in another way. -/
theorem parse_append_refused :
    ∃ seam : List Warning,
      seam.Perm [.duplicateWording 5 "it\\'s" "fr", .duplicateRecord 7 "it's",
        .duplicateRecord 3 "it\\'s"]
      ∧ seam.Pairwise (fun w v => w.line < v.line)
      ∧ parse ("ID:it's\n---\n" ++ "ID:it\\'s\nfr:x\nfr:y\n---\nID:it's\n---\nfr")
        = .error ⟨9, .orphanWording, seam⟩ := by
  have hfirst : parse "ID:it's\n---\n" = .ok ⟨⟨[⟨⟨"it's", "it's"⟩, []⟩]⟩, []⟩ := rfl
  have hsecond : parse "ID:it\\'s\nfr:x\nfr:y\n---\nID:it's\n---\nfr"
      = .error ⟨7, .orphanWording,
        [.duplicateWording 3 "it\\'s" "fr", .duplicateRecord 5 "it's"]⟩ := rfl
  have hmark : "ID:it\\'s\nfr:x\nfr:y\n---\nID:it's\n---\nfr".toList.head?
      ≠ some Lines.byteOrderMark := by
    decide
  obtain ⟨seam, hperm, hsorted, hparse⟩ := parse_append hfirst (by decide) hmark
  rw [hsecond] at hparse
  exact ⟨seam, hperm, hsorted, hparse⟩

end Catalog

end Phrasebook
