import Phrasebook.Catalog.Reader
import Phrasebook.Proofs.Catalog.Written

/-!
# `Phrasebook.Proofs.Catalog.Steps`: what one line does

`Progress.step` takes a line in one of four ways or refuses it in one of nine.
`Step p line q` spells the four out, with the line in its written form, and
`HasFault opened line fault` the nine, with what is wrong with the line. Nothing
else can happen: `step_ok_iff` and `step_error_iff`. Every fact about accepted
lines is proved by cases on `Step`, every fact about a refused line by cases on
`HasFault`, and every fact about files by induction along `Progress.steps`.

`steps_inside`: as long as no terminator comes, an open record takes wordings and
nothing else. `refused_of_step`: a refusal names the line that was refused, and
never a missing terminator. `steps_error_split` finds the place where a file was
refused. `parse_ok_iff` and `parse_error_iff` lead from a file to its lines.
-/

set_option autoImplicit false

namespace Phrasebook

namespace Progress

/-! ### The four ways to take a line -/

/-- One more line has been counted. -/
def next (p : Progress) : Progress := { p with line := p.line + 1 }

/-- A record begins at the line that was counted last. -/
def opening (p : Progress) (id : Text) : Progress :=
  { p.warnIf (p.closed.any fun record => record.id.value == id.value)
      (.duplicateRecord p.line id.source) with
    opened := some ⟨p.line, id, []⟩ }

/-- The open record ends. -/
def closing (p : Progress) (record : OpenRecord) : Progress :=
  { p with opened := none, closed := record.close :: p.closed }

/-- The open record gets a wording. -/
def adding (p : Progress) (record : OpenRecord) (wording : Wording) : Progress :=
  { p.warnIf (record.wordings.any fun known => known.lang == wording.lang)
      (.duplicateWording p.line record.id.source wording.lang) with
    opened := some { record with wordings := wording :: record.wordings } }

/-- A warning is for a line that has been counted, and counts none. -/
@[simp] theorem warnIf_line (p : Progress) (cause : Bool) (w : Warning) :
    (p.warnIf cause w).line = p.line := by
  unfold warnIf
  split <;> rfl

/-- A warning leaves the records as they are. -/
@[simp] theorem warnIf_closed (p : Progress) (cause : Bool) (w : Warning) :
    (p.warnIf cause w).closed = p.closed := by
  unfold warnIf
  split <;> rfl

/-- A header is taken after it has been counted. -/
@[simp] theorem opening_line (p : Progress) (id : Text) : (p.opening id).line = p.line := by
  simp [opening]

/-- The record begins where its header stands, and has no wordings yet. -/
@[simp] theorem opening_opened (p : Progress) (id : Text) :
    (p.opening id).opened = some ⟨p.line, id, []⟩ := rfl

/-- A record that begins closes none. -/
@[simp] theorem opening_closed (p : Progress) (id : Text) :
    (p.opening id).closed = p.closed := by
  simp [opening]

/-- A wording is taken after it has been counted. -/
@[simp] theorem adding_line (p : Progress) (record : OpenRecord) (wording : Wording) :
    (p.adding record wording).line = p.line := by
  simp [adding]

/-- The latest wording of a record stands first. -/
@[simp] theorem adding_opened (p : Progress) (record : OpenRecord) (wording : Wording) :
    (p.adding record wording).opened
      = some { record with wordings := wording :: record.wordings } := rfl

/-- A wording closes no record. -/
@[simp] theorem adding_closed (p : Progress) (record : OpenRecord) (wording : Wording) :
    (p.adding record wording).closed = p.closed := by
  simp [adding]

/-- `Step p line q`: after the lines of `p`, the line `line` leads to `q`. -/
inductive Step (p : Progress) : List Char → Progress → Prop where
  /-- A blank line between records. -/
  | blank (outside : p.opened = none) : Step p [] p.next
  /-- A header between records. -/
  | header (id : Text) (outside : p.opened = none) (filled : id.source ≠ "")
      (parsed : Text.parse id.source = .ok id) :
      Step p (headerLine id) (p.next.opening id)
  /-- The terminator of the open record. -/
  | terminator (record : OpenRecord) (inside : p.opened = some record) :
      Step p terminatorLine (p.next.closing record)
  /-- A wording of the open record. -/
  | wording (record : OpenRecord) (wording : Wording) (inside : p.opened = some record)
      (lang : IsLang wording.lang) (parsed : Text.parse wording.text.source = .ok wording.text) :
      Step p wording.line (p.next.adding record wording)

/-- A refusal is no progress. -/
theorem reject_ne_ok (p q : Progress) (fault : Fault) : p.reject fault ≠ .ok q := by
  intro h
  cases h

/-- A header is taken if its id is not empty and parses. -/
theorem header_ok_iff {p q : Progress} {id : List Char} :
    p.header id = .ok q ↔ ∃ text : Text, text.source = .ofList id ∧ id ≠ []
      ∧ Text.parse text.source = .ok text ∧ q = p.opening text := by
  constructor
  · intro h
    unfold header at h
    split at h
    · exact absurd h (reject_ne_ok _ _ _)
    · rename_i hid
      split at h
      · exact absurd h (reject_ne_ok _ _ _)
      · rename_i text hparse
        have hsource := Text.source_of_parse hparse
        cases h
        exact ⟨text, hsource, by simpa using hid, by rw [hsource]; exact hparse, rfl⟩
  · rintro ⟨text, hsource, hid, hparse, rfl⟩
    rw [hsource] at hparse
    have hempty : id.isEmpty = false := by simpa using hid
    rw [header, hempty, hparse]
    rfl

/-- A wording is taken if its delimiter is a colon, its code is two letters or
digits and its text parses. -/
theorem wording_ok_iff {p q : Progress} {record : OpenRecord} {first second delimiter : Char}
    {text : List Char} :
    p.wording record first second delimiter text = .ok q ↔
      ∃ value : Text, value.source = .ofList text ∧ delimiter = ':'
        ∧ first.isAlphanum ∧ second.isAlphanum ∧ Text.parse value.source = .ok value
        ∧ q = p.adding record ⟨.ofList [first, second], value⟩ := by
  constructor
  · intro h
    unfold wording at h
    split at h
    · exact absurd h (reject_ne_ok _ _ _)
    · rename_i hdelimiter
      split at h
      · exact absurd h (reject_ne_ok _ _ _)
      · rename_i halpha
        split at h
        · exact absurd h (reject_ne_ok _ _ _)
        · rename_i value hparse
          have hsource := Text.source_of_parse hparse
          cases h
          simp only [Bool.not_eq_true', Bool.not_eq_false, Bool.and_eq_true] at halpha
          -- The source of a text is what was parsed, so it may stand for it.
          exact ⟨value, hsource, by simpa using hdelimiter, halpha.1, halpha.2,
            by rw [hsource]; exact hparse, rfl⟩
  · rintro ⟨value, hsource, rfl, hf, hs, hparse, rfl⟩
    rw [hsource] at hparse
    simp only [wording, hf, hs, hparse, ne_eq, not_true_eq_false, if_false, Bool.and_self,
      Bool.not_true, Bool.false_eq_true]
    rfl

/-- A line while no record is open. -/
theorem step_of_outside {p : Progress} (h : p.opened = none) (line : List Char) :
    p.step line = p.next.outside line := by
  cases p
  cases h
  rfl

/-- A line while a record is open. -/
theorem step_of_inside {p : Progress} {record : OpenRecord} (h : p.opened = some record)
    (line : List Char) : p.step line = p.next.inside record line := by
  cases p
  cases h
  rfl

/-- Between records only a blank line and a header are taken. -/
theorem step_of_outside_ok {p q : Progress} {line : List Char} (hopen : p.opened = none)
    (h : p.next.outside line = .ok q) : Step p line q := by
  unfold outside at h
  split at h
  · rename_i hempty
    have hline : line = [] := by simpa using hempty
    subst hline
    cases h
    exact .blank hopen
  · split at h
    · rename_i id hclass
      obtain ⟨text, hsource, hid, hparse, rfl⟩ := header_ok_iff.mp h
      -- The line is read from its characters, and `Step` asks for its text.
      have hline : line = headerLine text := by
        rw [Line.eq_of_classify?_header hclass, headerLine, hsource, String.toList_ofList]
      have hfilled : text.source ≠ "" := by
        rw [hsource]
        exact fun e => hid (by simpa using congrArg String.toList e)
      rw [hline]
      exact .header text hopen hfilled hparse
    · exact absurd h (reject_ne_ok _ _ _)
    · exact absurd h (reject_ne_ok _ _ _)
    · exact absurd h (reject_ne_ok _ _ _)

/-- Within a record only its terminator and a wording are taken. A line that is
classified as a wording does not begin with `ID:`, so its code is not `ID`. -/
theorem step_of_inside_ok {p q : Progress} {record : OpenRecord} {line : List Char}
    (hopen : p.opened = some record) (h : p.next.inside record line = .ok q) :
    Step p line q := by
  unfold inside at h
  split at h
  · exact absurd h (reject_ne_ok _ _ _)
  · rename_i hclass
    rw [Line.eq_of_classify?_terminator hclass]
    cases h
    exact .terminator record hopen
  · rename_i first second delimiter text hclass
    obtain ⟨value, hsource, rfl, hf, hs, hparse, rfl⟩ := wording_ok_iff.mp h
    obtain ⟨hline, hID⟩ := Line.eq_of_classify?_wording hclass
    have hlang : IsLang (.ofList [first, second]) :=
      isLang_ofList hf hs fun ⟨e, e'⟩ => hID ⟨e, e', rfl⟩
    have hwritten : line = Wording.line ⟨.ofList [first, second], value⟩ := by
      rw [hline, Wording.line, hsource, String.toList_ofList, String.toList_ofList]
      rfl
    rw [hwritten]
    exact .wording record ⟨_, value⟩ hopen hlang hparse
  · exact absurd h (reject_ne_ok _ _ _)

/-- Each of the four ways is one. -/
theorem Step.step_ok {p q : Progress} {line : List Char} (h : Step p line q) :
    p.step line = .ok q := by
  cases h with
  | blank hopen => exact step_of_outside hopen []
  | header id hopen hfilled hparse =>
      have hid : id.source.toList ≠ [] := by simpa using hfilled
      rw [step_of_outside hopen]
      exact header_ok_iff.mpr ⟨id, String.ofList_toList.symm, hid, hparse, rfl⟩
  | terminator record hopen => exact step_of_inside hopen terminatorLine
  | wording record wording hopen hlang hparse =>
      -- A code is two letters or digits and not `ID`, so the line is classified as a
      -- wording.
      obtain ⟨first, second, hl, hf, hs, hID⟩ := hlang.exists_eq
      have hline : wording.line = first :: second :: ':' :: wording.text.source.toList := by
        rw [Wording.line, hl, String.toList_ofList]
        rfl
      rw [step_of_inside hopen, inside, hline, Line.classify?_wording hID]
      refine wording_ok_iff.mpr ⟨wording.text, String.ofList_toList.symm, rfl, hf, hs, hparse, ?_⟩
      rw [← hl]

/-- The four ways are all there are. -/
theorem step_ok_iff {p q : Progress} {line : List Char} : p.step line = .ok q ↔ Step p line q := by
  constructor
  · intro h
    cases hopen : p.opened with
    | none =>
        rw [step_of_outside hopen] at h
        exact step_of_outside_ok hopen h
    | some record =>
        rw [step_of_inside hopen] at h
        exact step_of_inside_ok hopen h
  · intro h
    exact h.step_ok

/-! ### Accepted lines -/

/-- Every line is counted. -/
theorem Step.line_eq {p q : Progress} {line : List Char} (h : Step p line q) :
    q.line = p.line + 1 := by
  cases h with
  | blank => rfl
  | header => rw [opening_line]; rfl
  | terminator => rfl
  | wording => rw [adding_line]; rfl

/-- The first of some accepted lines, and the others. -/
theorem steps_cons_ok_iff {p q : Progress} {line : List Char} {lines : List (List Char)} :
    p.steps (line :: lines) = .ok q ↔ ∃ m, Step p line m ∧ m.steps lines = .ok q := by
  rw [steps, List.foldlM_cons]
  constructor
  · intro h
    cases hstep : p.step line with
    | error r => rw [hstep] at h; cases h
    | ok m =>
        rw [hstep] at h
        exact ⟨m, step_ok_iff.mp hstep, h⟩
  · rintro ⟨m, hstep, h⟩
    rw [step_ok_iff.mpr hstep]
    exact h

/-- No line changes nothing. -/
theorem steps_nil_ok_iff {p q : Progress} : p.steps [] = .ok q ↔ p = q := by
  rw [steps, List.foldlM_nil]
  exact Except.ok.injEq p q ▸ Iff.rfl

/-- Accepted lines, cut in two. -/
theorem steps_append_ok_iff {p q : Progress} {front back : List (List Char)} :
    p.steps (front ++ back) = .ok q ↔ ∃ m, p.steps front = .ok m ∧ m.steps back = .ok q := by
  rw [steps_append]
  constructor
  · intro h
    cases hfront : p.steps front with
    | error r => rw [hfront] at h; cases h
    | ok m =>
        rw [hfront] at h
        exact ⟨m, rfl, h⟩
  · rintro ⟨m, hfront, hback⟩
    rw [hfront]
    exact hback

/-- What every accepted line keeps, all accepted lines keep. `Fit` is what is
known of the lines. -/
theorem keep_of_steps {Keep : Progress → Prop} {Fit : List Char → Prop}
    (keep : ∀ {p q : Progress} {line : List Char}, Fit line → Step p line q → Keep p → Keep q)
    {lines : List (List Char)} (fit : ∀ line ∈ lines, Fit line) {p q : Progress}
    (h : p.steps lines = .ok q) (hp : Keep p) : Keep q := by
  -- By induction on the lines, for the state that each of them leaves.
  induction lines generalizing p with
  | nil =>
      rw [← steps_nil_ok_iff.mp h]
      exact hp
  | cons line lines ih =>
      obtain ⟨m, hstep, hrest⟩ := steps_cons_ok_iff.mp h
      exact ih (fun l hl => fit l (List.mem_cons_of_mem _ hl)) hrest
        (keep (fit line List.mem_cons_self) hstep hp)

/-- All accepted lines are counted. -/
theorem line_of_steps {p q : Progress} {lines : List (List Char)} (h : p.steps lines = .ok q) :
    q.line = p.line + lines.length := by
  -- Each line is one more, whatever it is.
  induction lines generalizing p with
  | nil =>
      rw [← steps_nil_ok_iff.mp h]
      rfl
  | cons line lines ih =>
      obtain ⟨m, hstep, hrest⟩ := steps_cons_ok_iff.mp h
      rw [ih hrest, hstep.line_eq, List.length_cons]
      omega

/-- From the start, as many lines are counted as were taken. -/
theorem line_of_start_steps {p : Progress} {lines : List (List Char)}
    (h : start.steps lines = .ok p) : p.line = lines.length := by
  rw [line_of_steps h, start, Nat.zero_add]

/-! ### Lines in a record -/

/-- A line that begins with `ID:` opens a record, and none is open before it. -/
theorem Step.of_header {p q : Progress} {id : List Char} (h : Step p (headerMark ++ id) q) :
    ∃ text : Text, p.opened = none ∧ text.source = .ofList id
      ∧ Text.parse text.source = .ok text ∧ q = p.next.opening text := by
  generalize hline : headerMark ++ id = line at h
  cases h with
  | blank => cases hline
  | header text outside filled parsed =>
      have hid : id = text.source.toList := by simpa [headerMark, headerLine] using hline
      refine ⟨text, outside, ?_, parsed, rfl⟩
      rw [hid, String.ofList_toList]
  | terminator => cases hline
  | wording record wording inside lang =>
      exact absurd ⟨id, hline⟩ (Wording.not_headerMark_prefix lang)

/-- Lines that are taken in a record are its wordings, if no terminator is among
them. -/
theorem steps_inside {p q : Progress} {record : OpenRecord} {body : List (List Char)}
    (h : p.steps body = .ok q) (inside : p.opened = some record)
    (unended : terminatorLine ∉ body) :
    ∃ wordings : List Wording, (∀ w ∈ wordings, IsLang w.lang)
      ∧ body = wordings.map Wording.line ∧ q.closed = p.closed
      ∧ q.opened = some { record with wordings := wordings.reverse ++ record.wordings } := by
  -- The open record grows with every line, so it is generalized with the state.
  induction body generalizing p record with
  | nil =>
      obtain rfl := steps_nil_ok_iff.mp h
      exact ⟨[], by simp, rfl, rfl, inside⟩
  | cons line body ih =>
      obtain ⟨m, hstep, hrest⟩ := steps_cons_ok_iff.mp h
      have hbody : terminatorLine ∉ body := fun hm => unended (List.mem_cons_of_mem _ hm)
      cases hstep with
      | blank outside => rw [outside] at inside; cases inside
      | header id outside => rw [outside] at inside; cases inside
      | terminator => exact absurd List.mem_cons_self unended
      | wording current wording current_inside lang =>
          obtain rfl : current = record := Option.some.inj (current_inside.symm.trans inside)
          -- The record has one wording more, and takes the others behind it.
          obtain ⟨wordings, hlangs, rfl, hclosed, hopened⟩ :=
            ih hrest (adding_opened p.next current wording) hbody
          refine ⟨wording :: wordings, ?_, rfl, ?_, ?_⟩
          · intro w hw
            rcases List.mem_cons.mp hw with rfl | hw
            · exact lang
            · exact hlangs w hw
          · rw [hclosed, adding_closed]
            rfl
          · rw [hopened, List.reverse_cons, List.append_assoc]
            rfl

/-! ### Refused lines -/

/-- `HasFault opened line fault`: `line` cannot be taken, for `fault`. `opened` is
the id of the open record, if there is one. -/
inductive HasFault : Option Text → List Char → Fault → Prop where
  /-- A header between records without an id. -/
  | emptyId : HasFault none headerMark .emptyId
  /-- A header between records with an id that does not parse. -/
  | badId {id : List Char} {bad : BadEscape} (refused : Text.parse (.ofList id) = .error bad) :
      HasFault none (headerMark ++ id) (.badEscape bad)
  /-- A terminator between records. -/
  | stray : HasFault none terminatorLine .strayTerminator
  /-- Any other line between records, unless it is blank. -/
  | orphan {line : List Char} (filled : line ≠ []) (header : ¬ headerMark <+: line)
      (terminator : line ≠ terminatorLine) : HasFault none line .orphanWording
  /-- A header in a record. -/
  | unclosed (current : Text) (id : List Char) :
      HasFault (some current) (headerMark ++ id) (.unclosedRecord current.source)
  /-- A line in a record that is too short for a wording. A blank line is one. -/
  | short (current : Text) {line : List Char} (short : line.length < 3) :
      HasFault (some current) line .shortWording
  /-- A wording without its colon. -/
  | delimiter (current : Text) {first second found : Char} {text : List Char} (ne : found ≠ ':')
      (terminator : first :: second :: found :: text ≠ terminatorLine) :
      HasFault (some current) (first :: second :: found :: text) (.missingDelimiter found)
  /-- A wording whose language code is not two ASCII letters or digits. -/
  | language (current : Text) {first second : Char} (text : List Char)
      (code : ¬ (first.isAlphanum ∧ second.isAlphanum)) :
      HasFault (some current) (first :: second :: ':' :: text)
        (.badLanguage (.ofList [first, second]))
  /-- A wording with a text that does not parse. -/
  | badText (current : Text) {first second : Char} {text : List Char} {bad : BadEscape}
      (code : first.isAlphanum ∧ second.isAlphanum) (header : ¬ (first = 'I' ∧ second = 'D'))
      (refused : Text.parse (.ofList text) = .error bad) :
      HasFault (some current) (first :: second :: ':' :: text) (.badEscape bad)

/-- The line that was counted last, refused for `fault`. -/
def refusal (p : Progress) (fault : Fault) : Rejection :=
  ⟨p.line, fault, p.warnings.reverse⟩

/-- A header between records is refused for its id. -/
theorem hasFault_of_header {p : Progress} {id : List Char} {r : Rejection}
    (h : p.header id = .error r) :
    ∃ fault, HasFault none (headerMark ++ id) fault ∧ r = p.refusal fault := by
  unfold header at h
  split at h
  · rename_i hempty
    have hid : id = [] := by simpa using hempty
    subst hid
    cases h
    exact ⟨_, .emptyId, rfl⟩
  · split at h
    · rename_i bad hparse
      cases h
      exact ⟨_, .badId hparse, rfl⟩
    · cases h

/-- A wording in a record is refused for its delimiter, its code or its text, in
this order. -/
theorem hasFault_of_wording {p : Progress} {record : OpenRecord}
    {first second delimiter : Char} {text : List Char} {r : Rejection}
    (hclass : Line.classify? (first :: second :: delimiter :: text)
      = some (.wording first second delimiter text))
    (h : p.wording record first second delimiter text = .error r) :
    ∃ fault, HasFault (some record.id) (first :: second :: delimiter :: text) fault
      ∧ r = p.refusal fault := by
  -- A line that is classified as a wording is neither a terminator nor a header.
  have hterminator : first :: second :: delimiter :: text ≠ terminatorLine := by
    intro e
    rw [e] at hclass
    cases hclass
  have hheader := (Line.eq_of_classify?_wording hclass).2
  unfold wording at h
  split at h
  · rename_i hdelimiter
    cases h
    exact ⟨_, .delimiter record.id hdelimiter hterminator, rfl⟩
  · rename_i hdelimiter
    obtain rfl : delimiter = ':' := by simpa using hdelimiter
    split at h
    · rename_i hcode
      cases h
      have hletters : ¬ (first.isAlphanum ∧ second.isAlphanum) := by
        rintro ⟨hf, hs⟩
        simp [hf, hs] at hcode
      exact ⟨_, .language record.id text hletters, rfl⟩
    · rename_i hcode
      split at h
      · rename_i bad hparse
        cases h
        have hletters : first.isAlphanum ∧ second.isAlphanum := by simpa using hcode
        exact ⟨_, .badText record.id hletters (fun ⟨e, e'⟩ => hheader ⟨e, e', rfl⟩) hparse, rfl⟩
      · cases h

/-- The faults of a line between records. -/
theorem outside_error_iff {p : Progress} {line : List Char} {r : Rejection} :
    p.outside line = .error r ↔ ∃ fault, HasFault none line fault ∧ r = p.refusal fault := by
  constructor
  · intro h
    unfold outside at h
    split at h
    · cases h
    · rename_i hblank
      have hfilled : line ≠ [] := by simpa using hblank
      -- A header or a terminator would have been classified as one.
      have horphan (hheader : ∀ id, Line.classify? line ≠ some (.header id))
          (hterminator : Line.classify? line ≠ some .terminator) :
          HasFault none line .orphanWording := by
        refine .orphan hfilled ?_ ?_
        · rintro ⟨id, rfl⟩
          exact hheader id rfl
        · rintro rfl
          exact hterminator rfl
      split at h
      · rename_i id hclass
        rw [Line.eq_of_classify?_header hclass]
        exact hasFault_of_header h
      · rename_i hclass
        rw [Line.eq_of_classify?_terminator hclass]
        cases h
        exact ⟨_, .stray, rfl⟩
      · rename_i hclass
        cases h
        exact ⟨_, horphan (by simp [hclass]) (by simp [hclass]), rfl⟩
      · rename_i hclass
        cases h
        exact ⟨_, horphan (by simp [hclass]) (by simp [hclass]), rfl⟩
  · rintro ⟨fault, hfault, rfl⟩
    cases hfault with
    | emptyId => rfl
    | @badId id bad refused =>
        -- An empty id parses, so this one is not empty.
        have hid : id.isEmpty = false := by
          cases id with
          | nil => cases refused
          | cons c id => rfl
        show p.header id = _
        rw [header, hid, refused]
        rfl
    | stray => rfl
    | orphan filled hheader hterminator =>
        have hblank : ¬ line.isEmpty = true := by simpa using filled
        unfold outside
        rw [if_neg hblank]
        split
        · rename_i id hclass
          exact absurd ⟨id, (Line.eq_of_classify?_header hclass).symm⟩ hheader
        · rename_i hclass
          exact absurd (Line.eq_of_classify?_terminator hclass) hterminator
        · rfl
        · rfl

/-- The faults of a line in a record. -/
theorem inside_error_iff {p : Progress} {record : OpenRecord} {line : List Char}
    {r : Rejection} :
    p.inside record line = .error r
      ↔ ∃ fault, HasFault (some record.id) line fault ∧ r = p.refusal fault := by
  constructor
  · intro h
    unfold inside at h
    split at h
    · rename_i id hclass
      rw [Line.eq_of_classify?_header hclass]
      cases h
      exact ⟨_, .unclosed record.id id, rfl⟩
    · cases h
    · rename_i first second delimiter text hclass
      obtain ⟨rfl, -⟩ := Line.eq_of_classify?_wording hclass
      exact hasFault_of_wording hclass h
    · rename_i hclass
      cases h
      exact ⟨_, .short record.id (Line.classify?_eq_none_iff.mp hclass), rfl⟩
  · rintro ⟨fault, hfault, rfl⟩
    -- The line is classified again, and its checks are made in the reader's order.
    cases hfault with
    | unclosed => rfl
    | short _ hshort =>
        rw [inside, Line.classify?_eq_none_iff.mpr hshort]
        rfl
    | delimiter _ hne hterminator =>
        rw [inside, Line.classify?_eq_wording (fun ⟨_, _, e⟩ => hne e) hterminator]
        show p.wording record _ _ _ _ = _
        rw [wording, if_pos hne]
        rfl
    | @language _ first second text hcode =>
        have hheader : ¬ (first = 'I' ∧ second = 'D') := by
          rintro ⟨rfl, rfl⟩
          exact hcode ⟨rfl, rfl⟩
        rw [inside, Line.classify?_wording hheader]
        show p.wording record first second ':' text = _
        have hletters : (first.isAlphanum && second.isAlphanum) = false :=
          Bool.eq_false_iff.mpr fun e => hcode (by simpa using e)
        rw [wording, if_neg (by simp), hletters]
        rfl
    | @badText _ first second text bad hcode hheader hrefused =>
        rw [inside, Line.classify?_wording hheader]
        show p.wording record first second ':' text = _
        rw [wording, if_neg (by simp), hcode.1, hcode.2, hrefused]
        rfl

/-- A line is refused if and only if it has a fault, and then for this fault and at
its own number. The open record matters only for its id. -/
theorem step_error_iff {p : Progress} {line : List Char} {r : Rejection} :
    p.step line = .error r
      ↔ ∃ fault, HasFault (p.opened.map OpenRecord.id) line fault ∧ r = p.next.refusal fault := by
  cases hopen : p.opened with
  | none =>
      rw [step_of_outside hopen]
      exact outside_error_iff
  | some record =>
      rw [step_of_inside hopen]
      exact inside_error_iff

/-- No line is refused for a missing terminator. Only the end of the file lacks
one. -/
theorem HasFault.ne_missingTerminator {opened : Option Text} {line : List Char} {fault : Fault}
    (h : HasFault opened line fault) (id : String) : fault ≠ .missingTerminator id := by
  cases h <;> simp

/-- `Refused p r`: `r` refuses the line that was counted last in `p`, for a fault
that this line can have. -/
def Refused (p : Progress) (r : Rejection) : Prop :=
  ∃ fault, (∀ id, fault ≠ .missingTerminator id) ∧ r = ⟨p.line, fault, p.warnings.reverse⟩

/-- A line is refused at its own number and for a fault of its own. -/
theorem refused_of_step {p : Progress} {line : List Char} {r : Rejection}
    (h : p.step line = .error r) : p.next.Refused r := by
  obtain ⟨fault, hfault, hr⟩ := step_error_iff.mp h
  exact ⟨fault, hfault.ne_missingTerminator, hr⟩

/-- The place where lines were refused: some were taken, and then one was
not. -/
theorem steps_error_split {p : Progress} {lines : List (List Char)} {r : Rejection}
    (h : p.steps lines = .error r) :
    ∃ front line back q, lines = front ++ line :: back ∧ p.steps front = .ok q
      ∧ q.step line = .error r := by
  -- The first line is refused, or it is taken and the place is among the others.
  induction lines generalizing p with
  | nil => cases h
  | cons line lines ih =>
      cases hstep : p.step line with
      | error s =>
          -- The first line is refused, so nothing was taken before it.
          rw [steps, List.foldlM_cons, hstep] at h
          cases h
          exact ⟨[], line, lines, p, rfl, rfl, hstep⟩
      | ok m =>
          rw [steps, List.foldlM_cons, hstep] at h
          obtain ⟨front, bad, back, q, rfl, hfront, hbad⟩ := ih h
          exact ⟨line :: front, bad, back, q, rfl,
            steps_cons_ok_iff.mpr ⟨m, step_ok_iff.mp hstep, hfront⟩, hbad⟩

/-- Once a line is refused, nothing after it matters. -/
theorem steps_of_step_error {p q : Progress} {front : List (List Char)} {line : List Char}
    {r : Rejection} (hfront : p.steps front = .ok q) (hline : q.step line = .error r)
    (back : List (List Char)) : p.steps (front ++ line :: back) = .error r := by
  rw [steps_append, hfront]
  show q.steps (line :: back) = .error r
  rw [steps, List.foldlM_cons, hline]
  rfl

end Progress

/-! ### Files -/

namespace Catalog

/-- A file is accepted if its lines are and no record is left open. -/
theorem parse_ok_iff {source : String} {reading : Reading} :
    parse source = .ok reading ↔ ∃ q, Progress.start.steps (Lines.ofFile source) = .ok q
      ∧ q.opened = none ∧ reading = ⟨⟨q.closed.reverse⟩, q.warnings.reverse⟩ := by
  show (Progress.start.steps (Lines.ofFile source) >>= Progress.finish) = .ok reading ↔ _
  constructor
  · intro h
    cases hsteps : Progress.start.steps (Lines.ofFile source) with
    | error r => rw [hsteps] at h; cases h
    | ok q =>
        rw [hsteps] at h
        change q.finish = .ok reading at h
        unfold Progress.finish at h
        split at h
        · rename_i hopen
          cases h
          exact ⟨q, rfl, hopen, rfl⟩
        · cases h
  · rintro ⟨q, hsteps, hopen, rfl⟩
    rw [hsteps]
    show q.finish = _
    rw [Progress.finish, hopen]

/-- A file is refused for one of its lines, or for the record that is open at its
end. -/
theorem parse_error_iff {source : String} {r : Rejection} :
    parse source = .error r ↔ Progress.start.steps (Lines.ofFile source) = .error r
      ∨ ∃ q record, Progress.start.steps (Lines.ofFile source) = .ok q ∧ q.opened = some record
        ∧ r = ⟨record.line, .missingTerminator record.id.source, q.warnings.reverse⟩ := by
  show (Progress.start.steps (Lines.ofFile source) >>= Progress.finish) = .error r ↔ _
  constructor
  · intro h
    cases hsteps : Progress.start.steps (Lines.ofFile source) with
    | error s => rw [hsteps] at h; cases h; exact .inl rfl
    | ok q =>
        rw [hsteps] at h
        change q.finish = .error r at h
        unfold Progress.finish at h
        split at h
        · cases h
        · rename_i record hopen
          cases h
          exact .inr ⟨q, record, rfl, hopen, rfl⟩
  · rintro (hsteps | ⟨q, record, hsteps, hopen, rfl⟩)
    · rw [hsteps]
      rfl
    · rw [hsteps]
      show q.finish = _
      rw [Progress.finish, hopen]

end Catalog

end Phrasebook
