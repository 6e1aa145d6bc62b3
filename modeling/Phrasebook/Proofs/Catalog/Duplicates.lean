import Mathlib.Algebra.GroupWithZero.Nat
import Phrasebook.Proofs.Catalog.Opened
import Phrasebook.Proofs.Catalog.Reachability

/-!
# `Phrasebook.Proofs.Catalog.Duplicates`: the exact account of the warnings

A line is a duplicate if it is a header and an earlier header has the same message, or
if it is a wording and an earlier one in the same record has the same language. This
can be told from the lines before it (`Duplicate`), whatever the reader keeps in mind.

The reader raises one warning for each duplicate among the lines that it takes, and no
other: a line that is taken raises a warning if and only if it is a duplicate
(`mem_warnings_step`), and what holds for a line holds for a run (`mem_warnings_steps`).

In an accepted file the warnings can be counted too. There are as many as there are
records and wordings more than messages and languages (`count_record_warnings`,
`count_wording_warnings`). `warnings_account` states all of it.
-/

set_option autoImplicit false

namespace Phrasebook

/-- The language code of a line that is a wording. -/
def Line.lang? (line : List Char) : Option String :=
  match classify? line with
  | some (.wording first second _ _) => some (.ofList [first, second])
  | _ => none

/-- `Duplicate before line warning`: `line` repeats one of the lines `before`, and
`warning` says so. -/
inductive Duplicate (before : List (List Char)) (line : List Char) : Warning → Prop where
  /-- A header, and an earlier one with the same message. -/
  | record {earlier : List Char} {first id : Text} (mem : earlier ∈ before)
      (known : Line.headerId? earlier = some first) (header : Line.headerId? line = some id)
      (same : first.value = id.value) :
      Duplicate before line (.duplicateRecord (before.length + 1) id.source)
  /-- A wording, and an earlier one with the same language behind the same header. -/
  | wording {front body : List (List Char)} {header earlier : List Char} {id : Text}
      {lang : String} (written : before = front ++ header :: body)
      (unended : terminatorLine ∉ body) (opens : Line.headerId? header = some id)
      (mem : earlier ∈ body) (known : Line.lang? earlier = some lang)
      (wording : Line.lang? line = some lang) :
      Duplicate before line (.duplicateWording (before.length + 1) id.source lang)

/-! ### Headers and wordings -/

/-- A header is written with the id that is read from it. -/
theorem eq_of_headerId? {line : List Char} {id : Text} (h : Line.headerId? line = some id) :
    line = headerLine id ∧ Text.parse id.source = .ok id := by
  revert h
  fun_cases Line.headerId? line with
  | case1 chars =>
      intro h
      have hparse : Text.parse (.ofList chars) = .ok id := by
        cases hp : Text.parse (.ofList chars) with
        | error bad => rw [hp] at h; cases h
        | ok text => rw [hp] at h; cases h; rfl
      have hsource := Text.source_of_parse hparse
      refine ⟨?_, by rw [hsource]; exact hparse⟩
      rw [headerLine, hsource, String.toList_ofList]
  | case2 => intro h; cases h

/-- A wording line has the language of its wording. -/
theorem lang?_wordingLine {wording : Wording} (h : IsLang wording.lang) :
    Line.lang? wording.line = some wording.lang := by
  obtain ⟨first, second, hl, -, -, hID⟩ := h.exists_eq
  have hline : wording.line = first :: second :: ':' :: wording.text.source.toList := by
    rw [Wording.line, hl, String.toList_ofList]
    rfl
  rw [Line.lang?, hline, Line.classify?_wording hID, hl]

/-- The headers with their numbers are the headers among the lines. -/
theorem mem_headersAfter {n : Nat} {lines : List (List Char)} {id : Text} :
    id ∈ (headersAfter n lines).map Prod.snd ↔ ∃ line ∈ lines, Line.headerId? line = some id := by
  induction lines generalizing n with
  | nil => simp [headersAfter]
  | cons line lines ih =>
      rw [headersAfter, List.map_append, List.mem_append, ih, List.exists_mem_cons_iff]
      refine or_congr_left ?_
      cases Line.headerId? line with
      | none => simp
      | some text => simp [eq_comm]

namespace Progress

variable {taken : List (List Char)} {p q : Progress}

/-! ### One line -/

/-- Between records, the messages of the closed records are those of the headers. -/
theorem mem_closed_iff (h : start.steps taken = .ok p) (outside : p.opened = none)
    {message : String} :
    message ∈ p.closed.map (fun record => record.id.value)
      ↔ ∃ line ∈ taken, ∃ first, Line.headerId? line = some first ∧ first.value = message := by
  -- With no record open, every header belongs to a closed record, in the same order.
  obtain ⟨closed, haccount⟩ := exists_account_of_steps h
  have hheaders := congrArg (List.map Prod.snd) haccount.headers
  rw [append_current outside, List.map_map] at hheaders
  rw [← haccount.messages, List.mem_reverse]
  constructor
  · intro hm
    obtain ⟨r, hr, rfl⟩ := List.mem_map.mp hm
    have hid : r.record.id ∈ (headersAfter 0 taken).map Prod.snd := by
      rw [hheaders]
      exact List.mem_map.mpr ⟨r, hr, rfl⟩
    obtain ⟨line, hline, hheader⟩ := mem_headersAfter.mp hid
    exact ⟨line, hline, _, hheader, rfl⟩
  · rintro ⟨line, hline, first, hheader, rfl⟩
    have hid := mem_headersAfter (n := 0).mpr ⟨line, hline, hheader⟩
    rw [hheaders] at hid
    obtain ⟨r, hr, rfl⟩ := List.mem_map.mp hid
    exact List.mem_map.mpr ⟨r, hr, rfl⟩

/-- A line that is neither header nor wording is no duplicate. -/
theorem not_duplicate {line : List Char} (hheader : Line.headerId? line = none)
    (hlang : Line.lang? line = none) {w : Warning} : ¬ Duplicate taken line w := by
  intro h
  cases h with
  | record _ _ header => cases hheader.symm.trans header
  | wording _ _ _ _ _ wording => cases hlang.symm.trans wording

/-- A header between records is a duplicate if a closed record has its message. -/
theorem duplicate_header_iff (h : start.steps taken = .ok p) (outside : p.opened = none)
    {id : Text} (parsed : Text.parse id.source = .ok id) {w : Warning} :
    Duplicate taken (headerLine id) w
      ↔ w = .duplicateRecord (taken.length + 1) id.source
        ∧ id.value ∈ p.closed.map fun record => record.id.value := by
  have hheader := headerId?_headerLine parsed
  rw [mem_closed_iff h outside]
  constructor
  · intro hdup
    cases hdup with
    | @record earlier first other mem known header same =>
        obtain rfl : id = other := Option.some.inj (hheader.symm.trans header)
        exact ⟨rfl, earlier, mem, first, known, same⟩
    | wording _ _ _ _ _ hlang => cases hlang
  · rintro ⟨rfl, earlier, hmem, first, hknown, hsame⟩
    exact .record hmem hknown hheader hsame

/-- A wording is a duplicate if the open record has its language. -/
theorem duplicate_wording_iff (h : start.steps taken = .ok p) {record : OpenRecord}
    (inside : p.opened = some record) {wording : Wording} (hlang : IsLang wording.lang)
    {w : Warning} :
    Duplicate taken wording.line w
      ↔ w = .duplicateWording (taken.length + 1) record.id.source wording.lang
        ∧ wording.lang ∈ record.wordings.map Wording.lang := by
  constructor
  · intro hdup
    cases hdup with
    | record _ _ hheader =>
        rw [headerId?_wordingLine hlang] at hheader
        cases hheader
    | @wording front body header earlier id lang written unended opens mem known repeated =>
        -- The header without a terminator behind it is the one of the open record.
        obtain ⟨rfl, -⟩ := eq_of_headerId? opens
        have hrun : start.steps (front ++ (headerMark ++ id.source.toList) :: body) = .ok p :=
          written ▸ h
        obtain ⟨other, hsince, hsource⟩ := openSince_of_steps hrun unended
        obtain rfl : record = other := Option.some.inj (inside.symm.trans hsince.opened)
        obtain rfl : wording.lang = lang :=
          Option.some.inj ((lang?_wordingLine hlang).symm.trans repeated)
        rw [hsince.body] at mem
        obtain ⟨first, hfirst, rfl⟩ := List.mem_map.mp mem
        have hmem := List.mem_reverse.mp hfirst
        have hsame := Option.some.inj ((lang?_wordingLine (hsince.langs first hmem)).symm.trans known)
        rw [hsource, String.ofList_toList]
        exact ⟨rfl, List.mem_map.mpr ⟨first, hmem, hsame⟩⟩
  · rintro ⟨rfl, hmem⟩
    obtain ⟨front, body, hwritten, hunended, hsince⟩ := exists_openSince h inside
    obtain ⟨first, hfirst, hsame⟩ := List.mem_map.mp hmem
    have hknown := lang?_wordingLine (hsince.langs first hfirst)
    rw [hsame] at hknown
    refine .wording hwritten hunended (headerId?_headerLine hsince.parsed) ?_ hknown
      (lang?_wordingLine hlang)
    rw [hsince.body]
    exact List.mem_map.mpr ⟨first, List.mem_reverse.mpr hfirst, rfl⟩

/-- A warning that is raised if there is cause for it, among the warnings so far. -/
theorem mem_raised {cause : Prop} [Decidable cause] {w new : Warning} {ws : List Warning} :
    w ∈ (if cause then [new] else []) ++ ws ↔ w ∈ ws ∨ (w = new ∧ cause) := by
  by_cases h : cause
  · rw [if_pos h, List.singleton_append, List.mem_cons, or_comm]
    simp [h]
  · rw [if_neg h, List.nil_append]
    simp [h]

/-- A line that is taken raises a warning if it is a duplicate, and no other. -/
theorem mem_warnings_step (h : start.steps taken = .ok p) {line : List Char}
    (hstep : Step p line q) (w : Warning) :
    w ∈ q.warnings ↔ w ∈ p.warnings ∨ Duplicate taken line w := by
  have hnumber : p.next.line = taken.length + 1 := congrArg (· + 1) (line_of_start_steps h)
  cases hstep with
  | blank => exact (or_iff_left (not_duplicate rfl rfl)).symm
  | header id outside filled parsed =>
      rw [warnings_opening, mem_raised, hnumber, duplicate_header_iff h outside parsed]
      rfl
  | terminator => exact (or_iff_left (not_duplicate rfl rfl)).symm
  | wording record wording inside lang parsed =>
      rw [warnings_adding, mem_raised, hnumber, duplicate_wording_iff h inside lang]
      rfl

/-! ### A run -/

/-- The warnings of a run are those for the duplicates among its lines. -/
theorem mem_warnings_steps (h : start.steps taken = .ok p) {lines : List (List Char)}
    (hsteps : p.steps lines = .ok q) (w : Warning) :
    w ∈ q.warnings ↔ w ∈ p.warnings
      ∨ ∃ before line after, lines = before ++ line :: after
        ∧ Duplicate (taken ++ before) line w := by
  -- What was taken grows with every line, and with it what a line can repeat.
  induction lines generalizing taken p with
  | nil =>
      obtain rfl := steps_nil_ok_iff.mp hsteps
      simp
  | cons line lines ih =>
      obtain ⟨m, hstep, hrest⟩ := steps_cons_ok_iff.mp hsteps
      have hm : start.steps (taken ++ [line]) = .ok m :=
        steps_append_ok_iff.mpr ⟨p, h, steps_cons_ok_iff.mpr ⟨m, hstep, rfl⟩⟩
      rw [ih hm hrest, mem_warnings_step h hstep, or_assoc]
      refine or_congr_right ?_
      -- The duplicate is the first of the lines or behind it.
      constructor
      · rintro (hdup | ⟨before, other, after, rfl, hdup⟩)
        · exact ⟨[], line, lines, rfl, by rwa [List.append_nil]⟩
        · exact ⟨line :: before, other, after, rfl, by rwa [List.append_cons]⟩
      · rintro ⟨before, other, after, hlines, hdup⟩
        cases before with
        | nil =>
            cases hlines
            rw [List.append_nil] at hdup
            exact .inl hdup
        | cons first before =>
            cases hlines
            rw [List.append_cons] at hdup
            exact .inr ⟨before, other, after, rfl, hdup⟩

end Progress

/-! ### Counting -/

/-- Whether a warning is about a record. -/
def Warning.isRecord : Warning → Bool
  | .duplicateRecord .. => true
  | .duplicateWording .. => false

/-- The warnings about records are as many as the records that repeat a message. -/
theorem countP_isRecord (known : List String) (rs : List Placed) :
    (warningsOf known rs).countP Warning.isRecord = (repeats Placed.message known rs).length := by
  induction rs generalizing known with
  | nil => rfl
  | cons r rs ih =>
      have hwordings : r.wordingWarnings.countP Warning.isRecord = 0 := by
        rw [Placed.wordingWarnings, List.countP_map, List.countP_eq_zero]
        exact fun _ _ => Bool.false_ne_true
      rw [warningsOf, Placed.warnings, List.countP_append, List.countP_append, hwordings, ih, repeats]
      split
      · rw [List.length_cons]
        show 1 + 0 + _ = _
        omega
      · show 0 + 0 + _ = _
        omega

/-- The other warnings are as many as the wordings that repeat a language of their
record. -/
theorem countP_not_isRecord (known : List String) (rs : List Placed) :
    (warningsOf known rs).countP (fun w => !w.isRecord)
      = (rs.map fun r => (repeats Wording.lang [] r.record.wordings).length).sum := by
  induction rs generalizing known with
  | nil => rfl
  | cons r rs ih =>
      have hwordings : r.wordingWarnings.countP (fun w => !w.isRecord)
          = (repeats Wording.lang [] r.record.wordings).length := by
        have hmap : repeats Wording.lang [] (r.wordings.map Prod.fst)
            = (repeats (fun w : Wording × Nat => w.1.lang) [] r.wordings).map Prod.fst :=
          repeats_map (fun _ => rfl) [] r.wordings
        have hall : ∀ w ∈ r.wordingWarnings, (!w.isRecord) = true := by
          intro w hw
          obtain ⟨x, -, rfl⟩ := List.mem_map.mp hw
          rfl
        rw [List.countP_eq_length.mpr hall, Placed.wordingWarnings, List.length_map,
          ← List.length_map Prod.fst, ← hmap, Placed.wordings, List.zipIdx_map_fst]
      have hrecord : (if r.message ∈ known then [r.recordWarning] else []).countP
          (fun w => !w.isRecord) = 0 := by
        split <;> rfl
      rw [warningsOf, Placed.warnings, List.countP_append, List.countP_append, hrecord, hwordings,
        ih, List.map_cons, List.sum_cons, Nat.zero_add]

namespace Catalog

variable {source : String} {reading : Reading}

/-- In an accepted file there is a warning for each record that the catalog has more
than its table. -/
theorem count_record_warnings (h : parse source = .ok reading) :
    reading.warnings.countP Warning.isRecord + (Table.ofCatalog reading.catalog).size
      = reading.catalog.records.length := by
  obtain ⟨hrecords, -, -, hwarnings⟩ := placed_of_parse h
  have hmessages : reading.catalog.records.map (fun record => record.id.value)
      = (reading.placed source).map Placed.message := by
    rw [← hrecords, List.map_map]
    rfl
  rw [hwarnings, countP_isRecord, Table.size_eq_card, hmessages, length_repeats_add_card,
    ← hrecords, List.length_map]

/-- In an accepted file there is a warning for each wording that a record has more than
languages. -/
theorem count_wording_warnings (h : parse source = .ok reading) :
    reading.warnings.countP (fun w => !w.isRecord)
        + (reading.catalog.records.map fun record =>
          (record.wordings.map Wording.lang).toFinset.card).sum
      = reading.catalog.wordingCount := by
  obtain ⟨hrecords, -, -, hwarnings⟩ := placed_of_parse h
  have hcounts : (reading.placed source).map
        (fun r => (repeats Wording.lang [] r.record.wordings).length)
      = reading.catalog.records.map fun record =>
        (repeats Wording.lang [] record.wordings).length := by
    rw [← hrecords, List.map_map]
    rfl
  rw [hwarnings, countP_not_isRecord, hcounts, wordingCount, List.length_flatMap]
  induction reading.catalog.records with
  | nil => rfl
  | cons record records ih =>
      -- Summed are, for each record, the wordings that repeat a language and the
      -- languages. Together they are the wordings of the record.
      have hrecord : (repeats Wording.lang [] record.wordings).length
          + (record.wordings.map Wording.lang).toFinset.card = record.wordings.length :=
        length_repeats_add_card record.wordings
      simp only [List.map_cons, List.sum_cons] at ih ⊢
      omega

/-- The warnings for a file, accepted or refused, are those for the duplicates among
the lines that are taken, in the order of these lines and one for a line at most. If
the file is accepted, the catalog has as many records more than its table, and as many
wordings more than languages within the records, as there are warnings of each
kind. -/
theorem warnings_account (source : String) :
    (∀ w, w ∈ warningsRaised source
        ↔ ∃ before line after, linesTaken source = before ++ line :: after
          ∧ Duplicate before line w)
      ∧ (warningsRaised source).Pairwise (fun v w => v.line < w.line)
      ∧ ∀ reading, parse source = .ok reading →
          reading.warnings.countP Warning.isRecord + (Table.ofCatalog reading.catalog).size
              = reading.catalog.records.length
            ∧ reading.warnings.countP (fun w => !w.isRecord)
                + (reading.catalog.records.map fun record =>
                  (record.wordings.map Wording.lang).toFinset.card).sum
              = reading.catalog.wordingCount := by
  obtain ⟨p, hp, hends⟩ := exists_ends source
  rw [hends.warningsRaised]
  refine ⟨?_, Progress.sorted_warnings_of_steps hp, ?_⟩
  · intro w
    have hstart : Progress.start.steps [] = .ok .start := rfl
    rw [List.mem_reverse, Progress.mem_warnings_steps hstart hp]
    simp [Progress.start]
  · intro reading h
    exact ⟨count_record_warnings h, count_wording_warnings h⟩

/-- A second record that spells the message in another way, and has one language
three times. -/
theorem warnings_account_respelled :
    ∃ reading, parse "ID:it's\nfr:a\n---\n\nID:it\\'s\nfr:c\nfr:d\nfr:e\n---\n" = .ok reading
      ∧ (∃ before line after,
        linesTaken "ID:it's\nfr:a\n---\n\nID:it\\'s\nfr:c\nfr:d\nfr:e\n---\n"
            = before ++ line :: after
          ∧ Duplicate before line (.duplicateWording 8 "it\\'s" "fr"))
      ∧ 1 + (Table.ofCatalog reading.catalog).size = 2
      ∧ 2 + (reading.catalog.records.map fun record =>
          (record.wordings.map Wording.lang).toFinset.card).sum = 4 := by
  let reading : Reading :=
    ⟨⟨[⟨⟨"it's", "it's"⟩, [⟨"fr", ⟨"a", "a"⟩⟩]⟩,
        ⟨⟨"it\\'s", "it's"⟩,
          [⟨"fr", ⟨"c", "c"⟩⟩, ⟨"fr", ⟨"d", "d"⟩⟩, ⟨"fr", ⟨"e", "e"⟩⟩]⟩]⟩,
      [.duplicateRecord 5 "it\\'s", .duplicateWording 7 "it\\'s" "fr",
        .duplicateWording 8 "it\\'s" "fr"]⟩
  have h : parse "ID:it's\nfr:a\n---\n\nID:it\\'s\nfr:c\nfr:d\nfr:e\n---\n" = .ok reading := rfl
  obtain ⟨hmem, -, hcount⟩ :=
    warnings_account "ID:it's\nfr:a\n---\n\nID:it\\'s\nfr:c\nfr:d\nfr:e\n---\n"
  obtain ⟨hrecords, hwordings⟩ := hcount reading h
  refine ⟨reading, h, (hmem _).mp ?_, hrecords, hwordings⟩
  rw [warningsRaised, h]
  simp [reading]

end Catalog

end Phrasebook
