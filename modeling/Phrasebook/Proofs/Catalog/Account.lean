import Phrasebook.Proofs.Catalog.Soundness
import Phrasebook.Proofs.Firsts

/-!
# `Phrasebook.Proofs.Catalog.Account`: where records stand and what is warned of

A file is read line by line, and its warnings come up on the way. This module
says what they are in terms of the catalog alone. `Placed` is a record with the
number of its header. The wordings of the record stand on the lines behind the
header, so their numbers are known too. `warningsOf` goes through placed records
and collects a warning for each repeated message and for each repeated language
within a record.

`Account taken p closed` ties the three together: the lines that were taken, what
is known after them, and the closed records with their places. A step keeps it
(`Account.step`), so it holds along every run (`exists_account_of_steps`). A file
that is refused has a run too, over the lines before the refused one
(`exists_ends`).
-/

set_option autoImplicit false

namespace Phrasebook

/-! ### Headers -/

/-- The id in a header line. -/
def Line.headerId? : List Char → Option Text
  | 'I' :: 'D' :: ':' :: id => (Text.parse (.ofList id)).toOption
  | _ => none

/-- The headers among some lines, each with its number. There are `n` lines before
these, and the first line of a file has number one. -/
def headersAfter (n : Nat) : List (List Char) → List (Nat × Text)
  | [] => []
  | line :: lines =>
    ((Line.headerId? line).map fun id => (n + 1, id)).toList ++ headersAfter (n + 1) lines

/-- The headers behind some lines are counted on from these lines. -/
theorem headersAfter_append (n : Nat) (front back : List (List Char)) :
    headersAfter n (front ++ back) = headersAfter n front ++ headersAfter (n + front.length) back := by
  induction front generalizing n with
  | nil => rfl
  | cons line front ih =>
      have hlength : n + 1 + front.length = n + (line :: front).length := by
        rw [List.length_cons]
        omega
      rw [List.cons_append, headersAfter, headersAfter, ih, List.append_assoc, hlength]

/-- More lines before the headers only change their numbers. -/
theorem headersAfter_add (m n : Nat) (lines : List (List Char)) :
    headersAfter (m + n) lines = (headersAfter n lines).map fun (k, id) => (m + k, id) := by
  induction lines generalizing n with
  | nil => rfl
  | cons line lines ih =>
      rw [headersAfter, headersAfter, Nat.add_assoc, ih, List.map_append]
      cases Line.headerId? line <;> rfl

/-- The id of a record is read from its header. -/
theorem headerId?_headerLine {id : Text} (h : Text.parse id.source = .ok id) :
    Line.headerId? (headerLine id) = some id := by
  rw [headerLine, Line.headerId?, String.ofList_toList, h]
  rfl

/-- A wording is no header, since its language is not `ID`. -/
theorem headerId?_wordingLine {wording : Wording} (h : IsLang wording.lang) :
    Line.headerId? wording.line = none := by
  obtain ⟨first, second, hl, -, -, hID⟩ := h.exists_eq
  rw [Wording.line, hl, String.toList_ofList]
  show Line.headerId? (first :: second :: ':' :: wording.text.source.toList) = none
  rw [Line.headerId?]
  intro id hline
  cases hline
  exact hID ⟨rfl, rfl⟩

/-! ### Placed records -/

/-- A record with the number of its header in a file. -/
structure Placed where
  line : Nat
  record : Record
deriving DecidableEq, Repr

namespace Placed

/-- The message of the record. -/
def message (r : Placed) : String := r.record.id.value

/-- The header of the record. -/
def header (r : Placed) : Nat × Text := (r.line, r.record.id)

/-- The wordings with the numbers of their lines. -/
def wordings (r : Placed) : List (Wording × Nat) :=
  r.record.wordings.zipIdx (r.line + 1)

/-- The lines of the record stand in a file at its place. -/
def StandsIn (lines : List (List Char)) (r : Placed) : Prop :=
  ∃ front back, lines = front ++ (r.record.lines ++ back) ∧ r.line = front.length + 1

/-- The first record ends before the second begins. -/
def Before (r s : Placed) : Prop :=
  r.line + r.record.wordings.length < s.line

/-- The warning that the message of the record has a record already. -/
def recordWarning (r : Placed) : Warning :=
  .duplicateRecord r.line r.record.id.source

/-- The warning for each wording in a language in which the record has one
already. -/
def wordingWarnings (r : Placed) : List Warning :=
  (repeats (fun w => w.1.lang) [] r.wordings).map fun w =>
    .duplicateWording w.2 r.record.id.source w.1.lang

/-- The warnings for a record, given the messages before it. -/
def warnings (known : List String) (r : Placed) : List Warning :=
  (if r.message ∈ known then [r.recordWarning] else []) ++ r.wordingWarnings

/-- More lines after it leave a record in its place. -/
theorem StandsIn.append {lines : List (List Char)} {r : Placed} (h : r.StandsIn lines)
    (more : List (List Char)) : r.StandsIn (lines ++ more) := by
  obtain ⟨front, back, rfl, hline⟩ := h
  exact ⟨front, back ++ more, by simp only [List.append_assoc], hline⟩

/-- A record ends within the file. -/
theorem StandsIn.line_add_length_lt {lines : List (List Char)} {r : Placed}
    (h : r.StandsIn lines) : r.line + r.record.wordings.length < lines.length := by
  obtain ⟨front, back, rfl, hline⟩ := h
  simp only [List.length_append, Record.lines, List.length_cons, List.length_map,
    List.length_nil]
  omega

end Placed

/-- Places are put together from lines and records. -/
theorem zipWith_placed (rs : List Placed) :
    List.zipWith Placed.mk (rs.map Placed.line) (rs.map Placed.record) = rs := by
  induction rs with
  | nil => rfl
  | cons r rs ih => rw [List.map_cons, List.map_cons, List.zipWith_cons_cons, ih]

/-- The warnings for some records, given the messages before them. -/
def warningsOf (known : List String) : List Placed → List Warning
  | [] => []
  | r :: rs => r.warnings known ++ warningsOf (r.message :: known) rs

/-- Later records are warned of with all messages before them known. -/
theorem warningsOf_append (known : List String) (rs ss : List Placed) :
    warningsOf known (rs ++ ss)
      = warningsOf known rs ++ warningsOf ((rs.map Placed.message).reverse ++ known) ss := by
  induction rs generalizing known with
  | nil => rfl
  | cons r rs ih =>
      rw [List.cons_append, warningsOf, warningsOf, ih, List.append_assoc, List.map_cons,
        List.reverse_cons, List.append_assoc]
      rfl

/-- A record by itself has its own warnings. -/
theorem warningsOf_singleton (known : List String) (r : Placed) :
    warningsOf known [r] = r.warnings known :=
  List.append_nil _

/-- The line that a warning is about. -/
def Warning.line : Warning → Nat
  | .duplicateRecord line _ => line
  | .duplicateWording line .. => line

/-- A warning about the record with its header at line `n`. -/
def Warning.marksRecord (n : Nat) : Warning → Bool
  | .duplicateRecord line _ => line == n
  | .duplicateWording .. => false

/-- The headers with a warning are those of the records that repeat a message. -/
theorem any_marksRecord (known : List String) (rs : List Placed) (n : Nat) :
    (warningsOf known rs).any (Warning.marksRecord n)
      = (repeats Placed.message known rs).any fun r => r.line == n := by
  induction rs generalizing known with
  | nil => rfl
  | cons r rs ih =>
      -- The warnings for wordings mark no record.
      have hwordings : r.wordingWarnings.any (Warning.marksRecord n) = false := by
        rw [List.any_eq_false]
        intro w hw
        obtain ⟨x, -, rfl⟩ := List.mem_map.mp hw
        exact Bool.false_ne_true
      rw [warningsOf, Placed.warnings, List.any_append, List.any_append, hwordings, ih, repeats,
        Bool.or_false]
      split
      · rw [List.any_cons, List.any_cons, List.any_nil, Bool.or_false]
        rfl
      · rfl

/-- Of records that stand one behind the other, those without a warning are the
first of their message. -/
theorem filter_records {rs : List Placed} (h : rs.Pairwise Placed.Before) :
    rs.filter (fun r => !(warningsOf [] rs).any (Warning.marksRecord r.line))
      = firsts Placed.message [] rs := by
  -- Records at different places can be told by their lines.
  have hne : rs.Pairwise fun r s => r.line ≠ s.line := h.imp fun hrs => by
    rw [Placed.Before] at hrs
    omega
  rw [← filter_not_repeats hne]
  exact List.filter_congr fun r _ => by rw [any_marksRecord]

/-- A record without wordings leads to a warning if its message is known. -/
theorem warnings_bare (known : List String) (n : Nat) (id : Text) :
    Placed.warnings known ⟨n, id, []⟩
      = if id.value ∈ known then [.duplicateRecord n id.source] else [] :=
  List.append_nil _

/-- One more wording of the last record leads to one more warning, if the record
has its language already. -/
theorem warnings_concat (known : List String) (n : Nat) (id : Text) (ws : List Wording)
    (w : Wording) :
    Placed.warnings known ⟨n, id, ws ++ [w]⟩
      = Placed.warnings known ⟨n, id, ws⟩
        ++ if w.lang ∈ ws.map Wording.lang then
            [.duplicateWording (n + 1 + ws.length) id.source w.lang] else [] := by
  -- The numbers of the lines do not matter for which languages there are.
  have hlangs : (ws.zipIdx (n + 1)).map (fun x => x.1.lang) = ws.map Wording.lang := by
    have hmap := List.map_map (f := Prod.fst) (g := Wording.lang) (l := ws.zipIdx (n + 1))
    rw [List.zipIdx_map_fst] at hmap
    exact hmap.symm
  have hwordings : Placed.wordingWarnings ⟨n, id, ws ++ [w]⟩
      = Placed.wordingWarnings ⟨n, id, ws⟩
        ++ if w.lang ∈ ws.map Wording.lang then
            [.duplicateWording (n + 1 + ws.length) id.source w.lang] else [] := by
    show (repeats _ [] ((ws ++ [w]).zipIdx (n + 1))).map _ = _
    rw [List.zipIdx_append, repeats_append, hlangs, List.append_nil, List.map_append,
      List.zipIdx_singleton, repeats]
    simp only [List.mem_reverse]
    show Placed.wordingWarnings ⟨n, id, ws⟩ ++ _ = _
    split <;> rfl
  rw [Placed.warnings, Placed.warnings, hwordings, List.append_assoc]
  rfl

namespace Progress

/-! ### The account of a run -/

/-- The open record, with its place. -/
def current (p : Progress) : List Placed :=
  (p.opened.map fun record => ⟨record.line, record.close⟩).toList

/-- Between records, all records are closed. -/
theorem append_current {p : Progress} (outside : p.opened = none) (rs : List Placed) :
    rs ++ p.current = rs := by
  rw [current, outside]
  exact List.append_nil _

/-- `Account taken p closed`: after the lines `taken`, `p` is known, and `closed`
are its closed records with their places. -/
structure Account (taken : List (List Char)) (p : Progress) (closed : List Placed) : Prop where
  line : p.line = taken.length
  records : closed.map Placed.record = p.closed.reverse
  stands : ∀ r ∈ closed, r.StandsIn taken
  opened : ∀ record, p.opened = some record →
    ∃ front, taken = front ++ record.lines ∧ record.line = front.length + 1
  headers : headersAfter 0 taken = (closed ++ p.current).map Placed.header
  apart : (closed ++ p.current).Pairwise Placed.Before
  warnings : p.warnings.reverse = warningsOf [] (closed ++ p.current)

/-- Before the first line there is nothing to account for. -/
theorem account_start : Account [] start [] where
  line := rfl
  records := rfl
  stands := by simp
  opened := fun _ h => by cases h
  headers := rfl
  apart := .nil
  warnings := rfl

/-- A warning is raised if something is found that looks the same. -/
theorem warnings_warnIf {α : Type} (p : Progress) (xs : List α) (key : α → String) (k : String)
    (w : Warning) :
    (p.warnIf (xs.any fun x => key x == k) w).warnings
      = (if k ∈ xs.map key then [w] else []) ++ p.warnings := by
  have hany : (xs.any fun x => key x == k) = true ↔ k ∈ xs.map key := by
    simp only [List.any_eq_true, beq_iff_eq, List.mem_map]
  rw [warnIf]
  by_cases hk : k ∈ xs.map key
  · rw [if_pos (hany.mpr hk), if_pos hk]
    rfl
  · rw [if_neg (fun h => hk (hany.mp h)), if_neg hk]
    rfl

/-- A header raises a warning if a closed record has its message. -/
theorem warnings_opening (p : Progress) (id : Text) :
    (p.opening id).warnings
      = (if id.value ∈ p.closed.map (fun record => record.id.value) then
          [.duplicateRecord p.line id.source] else []) ++ p.warnings :=
  warnings_warnIf p p.closed (fun record => record.id.value) id.value _

/-- A wording raises a warning if the open record has its language. -/
theorem warnings_adding (p : Progress) (record : OpenRecord) (wording : Wording) :
    (p.adding record wording).warnings
      = (if wording.lang ∈ record.wordings.map Wording.lang then
          [.duplicateWording p.line record.id.source wording.lang] else []) ++ p.warnings :=
  warnings_warnIf p record.wordings Wording.lang wording.lang _

namespace Account

variable {taken : List (List Char)} {p : Progress} {closed : List Placed}

/-- The messages that the reader has seen, latest first. -/
theorem messages (h : Account taken p closed) :
    (closed.map Placed.message).reverse = p.closed.map fun record => record.id.value := by
  have hmap := congrArg (List.map fun record : Record => record.id.value) h.records
  rw [List.map_map, List.map_reverse] at hmap
  show (closed.map ((fun record : Record => record.id.value) ∘ Placed.record)).reverse = _
  rw [hmap, List.reverse_reverse]

/-- A blank line leaves all records in their places. -/
theorem blank (h : Account taken p closed) (outside : p.opened = none) :
    Account (taken ++ [[]]) p.next closed where
  line := by rw [List.length_append, ← h.line]; rfl
  records := h.records
  stands := fun r hr => (h.stands r hr).append _
  opened := fun record hrecord => by
    have hnone : p.next.opened = none := outside
    rw [hnone] at hrecord
    cases hrecord
  headers := by
    rw [headersAfter_append, h.headers]
    exact List.append_nil _
  apart := h.apart
  warnings := h.warnings

/-- A header opens a record at its own number. -/
theorem header (h : Account taken p closed) {id : Text} (outside : p.opened = none)
    (parsed : Text.parse id.source = .ok id) :
    Account (taken ++ [headerLine id]) (p.next.opening id) closed := by
  have hline : p.next.line = taken.length + 1 := by rw [← h.line]; rfl
  have hcurrent : (p.next.opening id).current = [⟨taken.length + 1, id, []⟩] := by
    rw [current, opening_opened, hline]
    rfl
  -- No record is open before, so the account so far is about closed records only.
  have hheaders := h.headers
  have hapart := h.apart
  have hwarnings := h.warnings
  rw [append_current outside] at hheaders hapart hwarnings
  refine ⟨?_, ?_, fun r hr => (h.stands r hr).append _, ?_, ?_, ?_, ?_⟩
  · rw [opening_line, hline, List.length_append]
    rfl
  · rw [opening_closed]
    exact h.records
  · intro record hrecord
    cases hrecord
    exact ⟨taken, rfl, hline⟩
  · rw [hcurrent, headersAfter_append, hheaders, List.map_append, headersAfter,
      headerId?_headerLine parsed, Nat.zero_add]
    rfl
  · rw [hcurrent, List.pairwise_append]
    refine ⟨hapart, List.pairwise_singleton _ _, ?_⟩
    intro r hr s hs
    -- Every closed record ends among the lines that were taken.
    rw [List.mem_singleton.mp hs]
    exact Nat.lt_succ_of_lt (h.stands r hr).line_add_length_lt
  · -- The reader looks the message up among the same records as `warningsOf` does.
    have hearlier : p.next.warnings.reverse = warningsOf [] closed := hwarnings
    rw [warnings_opening, List.reverse_append, hearlier, hcurrent, warningsOf_append,
      warningsOf_singleton, h.messages, List.append_nil, warnings_bare, hline]
    show _ ++ (if id.value ∈ p.closed.map (fun record => record.id.value) then _ else []).reverse
      = _
    split <;> rfl

/-- A terminator closes the open record in its place. -/
theorem terminator (h : Account taken p closed) {record : OpenRecord}
    (inside : p.opened = some record) :
    Account (taken ++ [terminatorLine]) (p.next.closing record)
      (closed ++ [⟨record.line, record.close⟩]) := by
  obtain ⟨front, hfront, hline⟩ := h.opened record inside
  have hcurrent : p.current = [⟨record.line, record.close⟩] := by rw [current, inside]; rfl
  -- The record moves from the open ones to the closed ones, so the list is the same.
  have hsame : (closed ++ [⟨record.line, record.close⟩]) ++ (p.next.closing record).current
      = closed ++ p.current := by
    rw [hcurrent]
    exact List.append_nil _
  refine ⟨?_, ?_, ?_, fun _ hnone => (by cases hnone), ?_, ?_, ?_⟩
  · rw [List.length_append, ← h.line]
    rfl
  · rw [List.map_append, h.records]
    exact List.reverse_cons.symm
  · intro r hr
    rcases List.mem_append.mp hr with hr | hr
    · exact (h.stands r hr).append _
    · -- Its lines are those since its header, with the terminator.
      rw [List.mem_singleton.mp hr]
      refine ⟨front, [], ?_, hline⟩
      show _ = front ++ (record.close.lines ++ [])
      rw [OpenRecord.close_lines, List.append_nil, hfront, List.append_assoc]
  · rw [hsame, headersAfter_append, h.headers]
    exact List.append_nil _
  · rw [hsame]
    exact h.apart
  · rw [hsame]
    exact h.warnings

/-- A wording goes to the end of the open record. -/
theorem wording (h : Account taken p closed) {record : OpenRecord} {wording : Wording}
    (inside : p.opened = some record) (lang : IsLang wording.lang) :
    Account (taken ++ [wording.line]) (p.next.adding record wording) closed := by
  obtain ⟨front, hfront, hline⟩ := h.opened record inside
  -- The open record has one wording more afterwards, and is in its place.
  have hbefore : p.current = [⟨record.line, record.id, record.wordings.reverse⟩] := by
    rw [current, inside]
    rfl
  have hafter : (p.next.adding record wording).current
      = [⟨record.line, record.id, record.wordings.reverse ++ [wording]⟩] := by
    rw [current, adding_opened, ← List.reverse_cons]
    rfl
  -- The lines since its header are those of its wordings, so the new one has the next
  -- number.
  have hnumber : p.next.line = record.line + 1 + record.wordings.reverse.length := by
    have hlength := congrArg List.length hfront
    rw [List.length_append, OpenRecord.lines, List.length_cons, List.length_map] at hlength
    show p.line + 1 = _
    rw [h.line, hline, hlength]
    omega
  refine ⟨?_, ?_, fun r hr => (h.stands r hr).append _, ?_, ?_, ?_, ?_⟩
  · rw [adding_line, List.length_append, ← h.line]
    rfl
  · rw [adding_closed]
    exact h.records
  · intro r hr
    cases hr
    refine ⟨front, ?_, hline⟩
    show _ = front ++ (headerLine record.id :: (wording :: record.wordings).reverse.map Wording.line)
    rw [List.reverse_cons, List.map_append, hfront, List.append_assoc]
    rfl
  · have hheaders := h.headers
    rw [hbefore] at hheaders
    rw [hafter, headersAfter_append, hheaders, headersAfter, headerId?_wordingLine lang,
      List.map_append, List.map_append]
    exact List.append_nil _
  · have hapart := h.apart
    rw [hbefore, List.pairwise_append] at hapart
    rw [hafter, List.pairwise_append]
    refine ⟨hapart.1, List.pairwise_singleton _ _, ?_⟩
    intro r hr s hs
    -- The record still begins on the same line.
    rw [List.mem_singleton.mp hs]
    exact hapart.2.2 r hr ⟨record.line, record.id, record.wordings.reverse⟩ List.mem_cons_self
  · have hwarnings := h.warnings
    rw [hbefore, warningsOf_append, warningsOf_singleton] at hwarnings
    have hearlier : p.next.warnings.reverse = _ := hwarnings
    rw [warnings_adding, List.reverse_append, hearlier, hafter, warningsOf_append, warningsOf_singleton,
      warnings_concat, List.append_assoc, hnumber]
    simp only [List.map_reverse, List.mem_reverse]
    split <;> rfl

/-- A line that is taken keeps the account. -/
theorem step (h : Account taken p closed) {line : List Char} {q : Progress}
    (hstep : Step p line q) : ∃ closed', Account (taken ++ [line]) q closed' := by
  cases hstep with
  | blank outside => exact ⟨closed, h.blank outside⟩
  | header id outside filled parsed => exact ⟨closed, h.header outside parsed⟩
  | terminator record inside => exact ⟨_, h.terminator inside⟩
  | wording record wording inside lang parsed => exact ⟨closed, h.wording inside lang⟩

/-- Lines that are taken keep the account. -/
theorem steps (h : Account taken p closed) {lines : List (List Char)} {q : Progress}
    (hsteps : p.steps lines = .ok q) : ∃ closed', Account (taken ++ lines) q closed' := by
  -- By induction on the lines, with `step` for each. The account grows on the way.
  induction lines generalizing taken p closed with
  | nil =>
      rw [← steps_nil_ok_iff.mp hsteps, List.append_nil]
      exact ⟨closed, h⟩
  | cons line lines ih =>
      obtain ⟨m, hstep, hrest⟩ := steps_cons_ok_iff.mp hsteps
      obtain ⟨between, hm⟩ := h.step hstep
      rw [List.append_cons]
      exact ih hm hrest

end Account

/-- Every run from the start has an account. -/
theorem exists_account_of_steps {lines : List (List Char)} {q : Progress}
    (h : start.steps lines = .ok q) : ∃ closed, Account lines q closed :=
  account_start.steps h

/-! ### The order of the warnings -/

/-- The warnings so far are about lines that were taken, a later one about a later
line. -/
structure InOrder (p : Progress) : Prop where
  taken : ∀ w ∈ p.warnings, w.line ≤ p.line
  sorted : p.warnings.Pairwise fun w v => v.line < w.line

/-- Before the first line there are no warnings. -/
theorem inOrder_start : start.InOrder where
  taken := by simp [start]
  sorted := .nil

/-- A warning about the line that was counted last comes behind the others. -/
theorem InOrder.warnIf {p : Progress} (h : p.InOrder) (cause : Bool) {w : Warning}
    (hw : w.line = p.next.line) : (p.next.warnIf cause w).InOrder := by
  have hearlier : ∀ v ∈ p.warnings, v.line < w.line := by
    intro v hv
    rw [hw]
    exact Nat.lt_succ_of_le (h.taken v hv)
  rw [Progress.warnIf]
  split
  · refine ⟨fun v hv => ?_, List.pairwise_cons.mpr ⟨hearlier, h.sorted⟩⟩
    rcases List.mem_cons.mp hv with rfl | hv
    · exact Nat.le_of_eq hw
    · exact Nat.le_succ_of_le (h.taken v hv)
  · exact ⟨fun v hv => Nat.le_succ_of_le (h.taken v hv), h.sorted⟩

/-- A line that is taken keeps the order. -/
theorem InOrder.step {p q : Progress} {line : List Char} (hstep : Step p line q)
    (h : p.InOrder) : q.InOrder := by
  have hnext : p.next.InOrder := ⟨fun w hw => Nat.le_succ_of_le (h.taken w hw), h.sorted⟩
  cases hstep with
  | blank => exact hnext
  | header id =>
      have hraised := h.warnIf (p.closed.any fun record => record.id.value == id.value)
        (w := .duplicateRecord p.next.line id.source) rfl
      exact ⟨hraised.taken, hraised.sorted⟩
  | terminator => exact ⟨hnext.taken, hnext.sorted⟩
  | wording record wording =>
      have hraised := h.warnIf (record.wordings.any fun known => known.lang == wording.lang)
        (w := .duplicateWording p.next.line record.id.source wording.lang) rfl
      exact ⟨hraised.taken, hraised.sorted⟩

/-- Every run from the start has its warnings in order. -/
theorem inOrder_of_steps {lines : List (List Char)} {q : Progress}
    (h : start.steps lines = .ok q) : q.InOrder := by
  have keep : ∀ {p q : Progress} {line : List Char}, True → Step p line q → p.InOrder →
      q.InOrder := fun _ => InOrder.step
  exact keep_of_steps keep (fun _ _ => trivial) h inOrder_start

/-- The warnings of a run are in the order of their lines, one for a line at
most. -/
theorem sorted_warnings_of_steps {lines : List (List Char)} {q : Progress}
    (h : start.steps lines = .ok q) :
    q.warnings.reverse.Pairwise fun w v => w.line < v.line :=
  List.pairwise_reverse.mpr (inOrder_of_steps h).sorted

end Progress

/-! ### Files -/

namespace Catalog

/-- The lines of a file that are taken. If the file is refused, these are the
lines before the refused one. That a record lacks its terminator is noticed
behind the last line. -/
def linesTaken (source : String) : List (List Char) :=
  match parse source with
  | .ok _ => Lines.ofFile source
  | .error ⟨_, .missingTerminator _, _⟩ => Lines.ofFile source
  | .error ⟨line, _, _⟩ => (Lines.ofFile source).take (line - 1)

/-- The warnings for a file, accepted or refused. -/
def warningsRaised (source : String) : List Warning :=
  match parse source with
  | .ok reading => reading.warnings
  | .error r => r.warnings

/-- The lines that are taken of a file that is refused for one of its lines. -/
theorem linesTaken_of_step_error {source : String} {front back : List (List Char)}
    {line : List Char} {p : Progress} {r : Rejection} (h : parse source = .error r)
    (hlines : Lines.ofFile source = front ++ line :: back)
    (hfront : Progress.start.steps front = .ok p) (hline : p.step line = .error r) :
    linesTaken source = front := by
  obtain ⟨fault, hfault, rfl⟩ := Progress.refused_of_step hline
  have hnumber : p.next.line - 1 = front.length := by
    show p.line + 1 - 1 = front.length
    rw [Progress.line_of_start_steps hfront, Nat.add_sub_cancel]
  have htake : (Lines.ofFile source).take (p.next.line - 1) = front := by
    rw [hlines, hnumber, List.take_left]
  rw [linesTaken, h]
  cases fault with
  | missingTerminator id => exact absurd rfl (hfault id)
  | _ => exact htake

/-- How the reading of a file ends, with `p` known after the lines that are taken. -/
inductive Ends (source : String) (p : Progress) : Prop where
  | accepted (whole : linesTaken source = Lines.ofFile source) (outside : p.opened = none)
      (result : parse source = .ok ⟨⟨p.closed.reverse⟩, p.warnings.reverse⟩)
  | unclosed (record : OpenRecord) (whole : linesTaken source = Lines.ofFile source)
      (inside : p.opened = some record)
      (result : parse source
        = .error ⟨record.line, .missingTerminator record.id.source, p.warnings.reverse⟩)
  | refused (line : List Char) (rest : List (List Char)) (r : Rejection)
      (cut : Lines.ofFile source = linesTaken source ++ line :: rest)
      (fault : p.step line = .error r) (result : parse source = .error r)

/-- However it ends, the warnings are those that came up before. -/
theorem Ends.warningsRaised {source : String} {p : Progress} (h : Ends source p) :
    warningsRaised source = p.warnings.reverse := by
  rw [Catalog.warningsRaised]
  cases h with
  | accepted _ _ result => rw [result]
  | unclosed _ _ _ result => rw [result]
  | refused _ _ _ _ fault result =>
      -- The refused line itself raises no warning.
      obtain ⟨fault, -, rfl⟩ := Progress.refused_of_step fault
      rw [result]
      rfl

/-- The lines that are taken are read, whether the file is accepted or refused. -/
theorem exists_ends (source : String) :
    ∃ p, Progress.start.steps (linesTaken source) = .ok p ∧ Ends source p := by
  -- A file is accepted, or refused for a line, or refused for its end, and each of the
  -- three is one way to end.
  cases hparse : parse source with
  | ok reading =>
      obtain ⟨p, hp, hopen, rfl⟩ := parse_ok_iff.mp hparse
      have hwhole : linesTaken source = Lines.ofFile source := by rw [linesTaken, hparse]
      exact ⟨p, by rw [hwhole, hp], .accepted hwhole hopen hparse⟩
  | error r =>
      rcases parse_error_iff.mp hparse with hsteps | ⟨p, record, hp, hopen, rfl⟩
      · obtain ⟨front, line, rest, p, hlines, hp, hline⟩ := Progress.steps_error_split hsteps
        have hfront := linesTaken_of_step_error hparse hlines hp hline
        exact ⟨p, by rw [hfront, hp], .refused line rest r (by rw [hfront, hlines]) hline hparse⟩
      · have hwhole : linesTaken source = Lines.ofFile source := by rw [linesTaken, hparse]
        exact ⟨p, by rw [hwhole, hp], .unclosed record hwhole hopen hparse⟩

end Catalog

end Phrasebook
