import Phrasebook.Proofs.Catalog.Concatenation
import Phrasebook.Proofs.Text.LineEnds

/-!
# `Phrasebook.Proofs.Catalog.Layout`: what the layout of a file changes

A file may begin with a mark, end its lines in two ways, and have empty lines between
its records. None of this is part of the catalog. A mark and the way in which lines end
change nothing at all, since the lines are the same. Empty lines change the numbers of
the lines behind them, and nothing else.

For empty lines, two runs are compared. `Delayed n k p q` relates their states, where the
second run has gone through `k` empty lines after line `n`. Whatever line comes next
keeps them related (`Delayed.step`), so both runs end in the same way (`Delayed.read_eq`).
`parse_any_layout` puts the three laws together. They hold for refused files as well as
for accepted ones.
-/

set_option autoImplicit false

namespace Phrasebook

/-! ### Delayed lines -/

/-- A warning in a file that has got `k` more lines after line `n`. -/
def Warning.delay (n k : Nat) (w : Warning) : Warning :=
  if n < w.line then w.shift k else w

/-- How a file is read that has got `k` more lines after line `n`. A refusal is for a
line behind them. -/
def Catalog.delay (n k : Nat) : Except Rejection Reading → Except Rejection Reading
  | .ok reading => .ok ⟨reading.catalog, reading.warnings.map (Warning.delay n k)⟩
  | .error r => .error ⟨r.line + k, r.fault, r.warnings.map (Warning.delay n k)⟩

/-- A warning about a line behind the empty ones is about a later line. -/
theorem Warning.delay_of_lt {n : Nat} {w : Warning} (h : n < w.line) (k : Nat) :
    w.delay n k = w.shift k := if_pos h

/-- A warning about a line before the empty ones is left as it is. -/
theorem Warning.delay_of_le {n : Nat} {w : Warning} (h : w.line ≤ n) (k : Nat) :
    w.delay n k = w := if_neg (Nat.not_lt.mpr h)

namespace Progress

/-- A line leads to one state only. -/
theorem Step.unique {p q r : Progress} {line : List Char} (hq : Step p line q)
    (hr : Step p line r) : q = r :=
  Except.ok.inj (hq.step_ok.symm.trans hr.step_ok)

/-- Empty lines between records are counted and have no other effect. -/
theorem steps_empty {p : Progress} (outside : p.opened = none) (k : Nat) :
    p.steps (List.replicate k []) = .ok { p with line := p.line + k } := by
  -- Each empty line is counted, and no record is open for the next one.
  induction k generalizing p with
  | zero => rfl
  | succ k ih =>
      rw [List.replicate_succ]
      refine steps_cons_ok_iff.mpr ⟨p.next, .blank outside, ?_⟩
      rw [ih (p := p.next) outside]
      show Except.ok { p with line := p.line + 1 + k } = _
      rw [Nat.add_assoc, Nat.add_comm 1 k]

/-- `Delayed n k p q`: the same lines led to `p` and, behind `k` empty lines after line
`n`, to `q`. -/
structure Delayed (n k : Nat) (p q : Progress) : Prop where
  behind : Behind k [] p q
  past : n ≤ p.line
  warnings : q.warnings = p.warnings.map (Warning.delay n k)

namespace Delayed

variable {n k : Nat} {p q p' : Progress} {line : List Char}

/-- A new warning is delayed like the line that it is about, which comes after line
`n`. -/
theorem warnings_cons (h : Delayed n k p q) (cause : Prop) [Decidable cause]
    (raised : Nat → Warning) (hline : ∀ line, (raised line).line = line)
    (hshift : ∀ line, (raised line).shift k = raised (k + line)) :
    (if cause then [raised q.next.line] else []) ++ q.next.warnings
      = ((if cause then [raised p.next.line] else []) ++ p.next.warnings).map
        (Warning.delay n k) := by
  have hraised : raised q.next.line = (raised p.next.line).delay n k := by
    have hpast : n < (raised p.next.line).line := by
      rw [hline]
      exact Nat.lt_succ_of_le h.past
    rw [Warning.delay_of_lt hpast, hshift, h.behind.next.line]
  have hearlier : q.next.warnings = p.next.warnings.map (Warning.delay n k) := h.warnings
  rw [List.map_append, hearlier, hraised]
  split <;> rfl

/-- A line that is taken in one run is taken in the other. -/
theorem step (h : Delayed n k p q) (hstep : Step p line p') :
    ∃ q', Step q line q' ∧ Delayed n k p' q' := by
  obtain ⟨q', hstep', hbehind⟩ := h.behind.step hstep
  refine ⟨q', hstep', hbehind, ?_, ?_⟩
  · rw [hstep.line_eq]
    exact Nat.le_succ_of_le h.past
  · -- The line does the same in both runs, so the same warning comes up.
    cases hstep with
    | blank outside =>
        obtain rfl := hstep'.unique (.blank (h.behind.opened_none outside))
        exact h.warnings
    | header id outside filled parsed =>
        obtain rfl := hstep'.unique (.header id (h.behind.opened_none outside) filled parsed)
        have hclosed : q.next.closed = p.next.closed := by
          rw [h.behind.next.closed, List.append_nil]
        rw [warnings_opening, warnings_opening, hclosed]
        exact h.warnings_cons _ (.duplicateRecord · id.source) (fun _ => rfl) (fun _ => rfl)
    | terminator record inside =>
        obtain rfl := hstep'.unique (.terminator _ (h.behind.opened_some inside))
        exact h.warnings
    | wording record wording inside lang parsed =>
        obtain rfl :=
          hstep'.unique (.wording _ wording (h.behind.opened_some inside) lang parsed)
        rw [warnings_adding, warnings_adding]
        exact h.warnings_cons _ (.duplicateWording · record.id.source wording.lang)
          (fun _ => rfl) (fun _ => rfl)

/-- At the end of the file, both runs have the same catalog or lack the same
terminator. -/
theorem finish_eq (h : Delayed n k p q) : q.finish = Catalog.delay n k p.finish := by
  have hwarnings : q.warnings.reverse = p.warnings.reverse.map (Warning.delay n k) := by
    rw [h.warnings, List.map_reverse]
  cases hopen : p.opened with
  | none =>
      have hclosed : q.closed = p.closed := by rw [h.behind.closed, List.append_nil]
      rw [finish, finish, hopen, h.behind.opened_none hopen]
      show Except.ok (Reading.mk ⟨q.closed.reverse⟩ q.warnings.reverse) = _
      rw [hclosed, hwarnings]
      rfl
  | some record =>
      rw [finish, finish, hopen, h.behind.opened_some hopen]
      show Except.error (Rejection.mk (k + record.line) _ q.warnings.reverse) = _
      rw [hwarnings, Nat.add_comm]
      rfl

/-- However the one run ends, so does the other. -/
theorem read_eq (h : Delayed n k p q) (lines : List (List Char)) :
    (q.steps lines >>= finish) = Catalog.delay n k (p.steps lines >>= finish) := by
  -- By induction on the lines. At the first line that one of the runs refuses, the other
  -- refuses it too.
  induction lines generalizing p q with
  | nil => exact h.finish_eq
  | cons line lines ih =>
      rw [steps, List.foldlM_cons, steps, List.foldlM_cons]
      cases hstep : p.step line with
      | ok p' =>
          obtain ⟨q', hstep', h'⟩ := h.step (step_ok_iff.mp hstep)
          rw [hstep'.step_ok]
          exact ih h'
      | error r =>
          obtain ⟨fault, -, rfl⟩ := refused_of_step hstep
          rw [h.behind.step_error hstep, h.warnings, ← List.map_reverse, Nat.add_comm]
          rfl

end Delayed

/-- Right behind the empty lines, nothing but the number of lines is different. -/
theorem delayed_start {lines : List (List Char)} {m : Progress} (h : start.steps lines = .ok m)
    (outside : m.opened = none) (k : Nat) :
    Delayed m.line k m { m with line := m.line + k } where
  behind := ⟨Nat.add_comm _ _, by rw [outside]; rfl, (List.append_nil _).symm⟩
  past := Nat.le_refl _
  warnings := by
    -- The warnings so far are about the lines before.
    have hsame : ∀ w ∈ m.warnings, w.delay m.line k = w := fun w hw =>
      Warning.delay_of_le ((inOrder_of_steps h).taken w hw) k
    exact ((List.map_congr_left hsame).trans (List.map_id _)).symm

end Progress

/-! ### Files -/

namespace Catalog

/-- Only the lines of a file matter. -/
theorem parse_congr {first second : String} (h : Lines.ofFile first = Lines.ofFile second) :
    parse first = parse second := by
  show ofLines (Lines.ofFile first) = ofLines (Lines.ofFile second)
  rw [h]

/-- Empty lines behind an accepted file delay what comes after them. -/
theorem parse_delayed {front back : String} {reading : Reading}
    (hfront : parse front = .ok reading) (hwhole : Lines.Whole front.toList)
    (hmark : back.toList.head? ≠ some Lines.byteOrderMark) (returns : List Bool) :
    parse (front ++ .ofList (Lines.emptyLines returns) ++ back)
      = delay (Lines.ofFile front).length returns.length (parse (front ++ back)) := by
  obtain ⟨m, hm, outside, -⟩ := parse_ok_iff.mp hfront
  have hlength : m.line = (Lines.ofFile front).length := Progress.line_of_start_steps hm
  have hdelayed := Progress.delayed_start hm outside returns.length
  have hnear : parse (front ++ back) = (m.steps (Lines.ofFile back) >>= Progress.finish) := by
    show (Progress.start.steps (Lines.ofFile (front ++ back)) >>= Progress.finish) = _
    rw [Lines.ofFile_append_ofFile hwhole hmark, Progress.steps_append, hm]
    rfl
  have hfar : parse (front ++ .ofList (Lines.emptyLines returns) ++ back)
      = (Progress.steps { m with line := m.line + returns.length } (Lines.ofFile back)
        >>= Progress.finish) := by
    show (Progress.start.steps (Lines.ofFile _) >>= Progress.finish) = _
    rw [Lines.ofFile_append_emptyLines hwhole hmark, Progress.steps_append, hm]
    show (m.steps (_ ++ _) >>= Progress.finish) = _
    rw [Progress.steps_append, Progress.steps_empty outside]
    rfl
  rw [hnear, hfar, hdelayed.read_eq, hlength]

/-- The layout of a file is no part of the catalog. A mark in front of it, and a carriage
return in front of every line feed where there was none, change neither the catalog nor
a refusal nor the warnings. Empty lines behind an accepted part add their number to the
lines of the refusal and of the warnings behind them, and change nothing else. -/
theorem parse_any_layout :
    (∀ source : String, source.toList.head? ≠ some Lines.byteOrderMark →
        parse ("\ufeff" ++ source) = parse source)
      ∧ (∀ source : String, ¬ ['\r', '\n'] <:+: source.toList →
        parse (.ofList (Lines.withReturns source.toList)) = parse source)
      ∧ ∀ (front back : String) (reading : Reading), parse front = .ok reading →
        Lines.Whole front.toList → back.toList.head? ≠ some Lines.byteOrderMark →
        ∀ returns : List Bool, parse (front ++ .ofList (Lines.emptyLines returns) ++ back)
          = delay (Lines.ofFile front).length returns.length (parse (front ++ back)) := by
  refine ⟨?_, ?_, ?_⟩
  · intro source hmark
    exact parse_congr (Lines.ofFile_mark hmark)
  · intro source hreturns
    exact parse_congr (Lines.ofFile_withReturns hreturns)
  · intro front back reading hfront hwhole hmark returns
    exact parse_delayed hfront hwhole hmark returns

/-- A refused file with a carriage return in an id: with a mark, with a carriage return
in every line end, and with two empty lines before the record that is refused. -/
theorem parse_any_layout_refused :
    parse ("\ufeff" ++ "ID:A\rB\n---\nID:A\rB\n\n---")
        = .error ⟨4, .shortWording, [.duplicateRecord 3 "A\rB"]⟩
      ∧ parse (.ofList (Lines.withReturns "ID:A\rB\n---\nID:A\rB\n\n---".toList))
        = .error ⟨4, .shortWording, [.duplicateRecord 3 "A\rB"]⟩
      ∧ parse ("ID:A\rB\n---\n" ++ .ofList (Lines.emptyLines [false, true]) ++ "ID:A\rB\n\n---")
        = .error ⟨6, .shortWording, [.duplicateRecord 5 "A\rB"]⟩ := by
  have hrefused : parse "ID:A\rB\n---\nID:A\rB\n\n---"
      = .error ⟨4, .shortWording, [.duplicateRecord 3 "A\rB"]⟩ := rfl
  have hjoined : parse ("ID:A\rB\n---\n" ++ "ID:A\rB\n\n---")
      = .error ⟨4, .shortWording, [.duplicateRecord 3 "A\rB"]⟩ := rfl
  have hfront : parse "ID:A\rB\n---\n" = .ok ⟨⟨[⟨⟨"A\rB", "A\rB"⟩, []⟩]⟩, []⟩ := rfl
  obtain ⟨hmark, hreturns, hempty⟩ := parse_any_layout
  refine ⟨?_, ?_, ?_⟩
  · rw [hmark _ (by decide), hrefused]
  · rw [hreturns _ (by simp [List.infix_cons_iff]), hrefused]
  · rw [hempty _ _ _ hfront (by decide) (by decide), hjoined]
    rfl

end Catalog

end Phrasebook
