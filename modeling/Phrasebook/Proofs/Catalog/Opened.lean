import Phrasebook.Proofs.Catalog.Account

/-!
# `Phrasebook.Proofs.Catalog.Opened`: which record is open

The reader holds on to the record that is open. Which one it is can be told from
the lines alone, without reading them in order: there is a header, and no line
behind it is a terminator (`InRecord`). This module shows that the two agree.

* `openSince_of_steps`: a header without a terminator behind it belongs to the open
  record. `OpenSince` says all that is known then: where the record began, what was
  known there, and that the lines since are its wordings.
* `isSome_opened_iff` and `lastHeader_of_opened`: a record is open if and only if the
  lines say so, and it is the one of the last header.
-/

set_option autoImplicit false

namespace Phrasebook

/-- Some line is a header, and no line behind it is a terminator. -/
def InRecord (lines : List (List Char)) : Prop :=
  ∃ front id body, lines = front ++ (headerMark ++ id) :: body ∧ terminatorLine ∉ body

/-- The last of the headers among some lines is `ID:` with `id` behind it. -/
def LastHeader (lines : List (List Char)) (id : List Char) : Prop :=
  ∃ front body, lines = front ++ (headerMark ++ id) :: body
    ∧ ∀ line ∈ body, ¬ headerMark <+: line

namespace Progress

/-! ### The languages of the open record -/

/-- The language codes of the open record are language codes. -/
def LangsFit (p : Progress) : Prop :=
  ∀ record, p.opened = some record → ∀ w ∈ record.wordings, IsLang w.lang

/-- A line that is taken keeps the language codes fit. -/
theorem LangsFit.step {p q : Progress} {line : List Char} (hstep : Step p line q)
    (h : p.LangsFit) : q.LangsFit := by
  intro record hrecord w hw
  cases hstep with
  | blank => exact h record hrecord w hw
  | header => cases hrecord; cases hw
  | terminator => cases hrecord
  | wording current wording inside lang =>
      cases hrecord
      rcases List.mem_cons.mp hw with rfl | hw
      · exact lang
      · exact h current inside w hw

/-- The open record has fit language codes after every run. -/
theorem langsFit_of_steps {lines : List (List Char)} {p : Progress}
    (h : start.steps lines = .ok p) : p.LangsFit := by
  have keep : ∀ {p q : Progress} {line : List Char}, True → Step p line q → p.LangsFit →
      q.LangsFit := fun _ => LangsFit.step
  refine keep_of_steps keep (fun _ _ => trivial) h ?_
  intro record hrecord
  cases hrecord

/-! ### The open record -/

/-- `record` is open. Its header stands behind the lines `front`, where no record was
open, and its wordings so far are the lines `body`. -/
structure OpenSince (front body : List (List Char)) (p : Progress) (record : OpenRecord) :
    Prop where
  opened : p.opened = some record
  line : record.line = front.length + 1
  parsed : Text.parse record.id.source = .ok record.id
  langs : ∀ w ∈ record.wordings, IsLang w.lang
  body : body = record.wordings.reverse.map Wording.line
  before : ∃ m, start.steps front = .ok m ∧ m.opened = none ∧ m.closed = p.closed

/-- A header with no terminator behind it belongs to the open record. -/
theorem openSince_of_steps {front body : List (List Char)} {id : List Char} {p : Progress}
    (h : start.steps (front ++ (headerMark ++ id) :: body) = .ok p)
    (unended : terminatorLine ∉ body) :
    ∃ record, OpenSince front body p record ∧ record.id.source = .ofList id := by
  -- `m` is known before the header, and the header is taken only between records.
  obtain ⟨m, hfront, hrest⟩ := steps_append_ok_iff.mp h
  obtain ⟨n, hheader, hbody⟩ := steps_cons_ok_iff.mp hrest
  obtain ⟨text, houtside, hsource, hparsed, rfl⟩ := hheader.of_header
  obtain ⟨wordings, hlangs, hlines, hclosed, hopened⟩ :=
    steps_inside hbody (opening_opened m.next text) unended
  rw [List.append_nil] at hopened
  refine ⟨⟨m.next.line, text, wordings.reverse⟩, ⟨hopened, ?_, hparsed, ?_, ?_, ?_⟩, hsource⟩
  · show m.line + 1 = front.length + 1
    rw [line_of_start_steps hfront]
  · intro w hw
    exact hlangs w (List.mem_reverse.mp hw)
  · rw [List.reverse_reverse, hlines]
  · refine ⟨m, hfront, houtside, ?_⟩
    rw [hclosed, opening_closed]
    rfl

/-- The open record has a header, and only wordings stand behind it. -/
theorem exists_openSince {lines : List (List Char)} {p : Progress} {record : OpenRecord}
    (h : start.steps lines = .ok p) (hopen : p.opened = some record) :
    ∃ front body, lines = front ++ headerLine record.id :: body
      ∧ terminatorLine ∉ body ∧ OpenSince front body p record := by
  obtain ⟨closed, haccount⟩ := exists_account_of_steps h
  obtain ⟨front, hlines, -⟩ := haccount.opened record hopen
  have hlangs := langsFit_of_steps h record hopen
  have hunended : terminatorLine ∉ record.wordings.reverse.map Wording.line := by
    intro hm
    obtain ⟨w, hw, hline⟩ := List.mem_map.mp hm
    exact Wording.line_ne_terminatorLine (hlangs w (List.mem_reverse.mp hw)) hline
  rw [hlines] at h
  obtain ⟨other, hsince, -⟩ := openSince_of_steps h hunended
  -- Only one record is open.
  obtain rfl : other = record := Option.some.inj (hsince.opened.symm.trans hopen)
  exact ⟨front, _, hlines, hunended, hsince⟩

/-- A record is open if and only if the lines say so. -/
theorem isSome_opened_iff {lines : List (List Char)} {p : Progress}
    (h : start.steps lines = .ok p) : p.opened.isSome ↔ InRecord lines := by
  constructor
  · intro hsome
    obtain ⟨record, hopen⟩ := Option.isSome_iff_exists.mp hsome
    obtain ⟨front, body, hlines, hunended, -⟩ := exists_openSince h hopen
    exact ⟨front, record.id.source.toList, body, hlines, hunended⟩
  · rintro ⟨front, id, body, rfl, hunended⟩
    obtain ⟨record, hsince, -⟩ := openSince_of_steps h hunended
    rw [hsince.opened]
    rfl

/-- The open record is the one of the last header. -/
theorem lastHeader_of_opened {lines : List (List Char)} {p : Progress} {record : OpenRecord}
    (h : start.steps lines = .ok p) (hopen : p.opened = some record) :
    LastHeader lines record.id.source.toList := by
  obtain ⟨front, body, hlines, -, hsince⟩ := exists_openSince h hopen
  refine ⟨front, body, hlines, ?_⟩
  intro line hline
  rw [hsince.body] at hline
  obtain ⟨w, hw, rfl⟩ := List.mem_map.mp hline
  exact Wording.not_headerMark_prefix (hsince.langs w (List.mem_reverse.mp hw))

end Progress

end Phrasebook
