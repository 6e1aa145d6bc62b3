import Phrasebook.Proofs.Request.Settling

/-!
# `Phrasebook.Proofs.Request.Reading`: a written command line is read as its settings

What is true of any reader of options is put to use for the two that there are. The words
of a command line are taken from the end: what names the task settles the options before
it (`settles_ending`), and each option in front leaves words that settle as well
(`settles_occurrence`). So the whole command line makes its settings in order and then
comes to its task (`readProgram_written`), whether the settings can be made or not.
-/

set_option autoImplicit false

namespace Phrasebook

namespace CommandLine

variable {words more : List String}

/-! ### The two readers -/

/-- A word that is not plain names no task. -/
theorem ne_task_of_not_plain {word : String} (h : Word.ofString word ≠ .plain) :
    word ≠ "help" ∧ word ≠ "check" ∧ word ≠ "lookup" := by
  refine ⟨?_, ?_, ?_⟩
  all_goals
    intro e
    rw [e] at h
    exact h rfl

/-- The words before the task are read with the options of the program. -/
theorem reader_program : Reader programOptions readProgram where
  long := by
    intro scan word body more h
    have hplain : Word.ofString word ≠ .plain := by simp [h]
    obtain ⟨hhelp, hcheck, hlookup⟩ := ne_task_of_not_plain hplain
    simp [readProgram, hhelp, hcheck, hlookup, h]
  short := by
    intro scan word letters more h
    have hplain : Word.ofString word ≠ .plain := by simp [h]
    obtain ⟨hhelp, hcheck, hlookup⟩ := ne_task_of_not_plain hplain
    simp [readProgram, hhelp, hcheck, hlookup, h]
  value := by
    intro scan setting word more h hpending
    -- While a value is awaited, a word that names a task is a value like any other.
    have hawaits : scan.awaitsValue = true := by
      rw [Scan.awaitsValue, hpending]
    simp [readProgram, hawaits, h, hpending]

/-- The words behind `lookup` are read with its own option. -/
theorem reader_lookup (message : Option String) :
    Reader lookupOptions (fun scan words => readLookup scan message words) where
  long := by
    intro scan word body more h
    simp [readLookup, h]
  short := by
    intro scan word letters more h
    simp [readLookup, h]
  value := by
    intro scan setting word more h hpending
    simp [readLookup, h, hpending]

/-- The program knows every option but that of `lookup` by its name. -/
theorem long?_name {setting : Setting} (main : setting ≠ .lang) :
    programOptions.long? setting.name = some (.setting setting) := by
  cases setting with
  | lang => exact absurd rfl main
  | _ => rfl

/-- So it does by the letter, for the options that have one. -/
theorem short?_letter {setting : Setting} (main : setting ≠ .lang) (letter : Char)
    (h : setting.letter? = some letter) :
    programOptions.short? letter = some (.setting setting) := by
  cases setting with
  | lang => exact absurd rfl main
  | input =>
      cases h
      rfl
  | output =>
      cases h
      rfl
  | verbose =>
      cases h
      rfl
  | _ => cases h

/-! ### Before the task -/

/-- An occurrence of an option makes its settings before the words behind it. -/
theorem settles_occurrence {made : List (Setting × String)}
    {next : Scan → Except Refusal (Scan × Task)} (h : Occurrence words made)
    (hmore : Settles readProgram more next) :
    Settles readProgram (words ++ more) (fun scan => scan.makeAll made >>= next) := by
  cases h with
  | long takes main spelled =>
      simpa only [Scan.makeAll_singleton] using
        reader_program.settles_long hmore (long?_name main) takes spelled
  | @switch setting takes =>
      -- The option of `lookup` takes a value, so it is no switch.
      have main : setting ≠ .lang := by
        intro e
        rw [e] at takes
        cases takes
      simpa only [Scan.makeAll_singleton] using
        reader_program.settles_switch hmore (long?_name main) takes
  | letters count => exact reader_program.settles_switches hmore rfl count
  | short count takes main spelled =>
      exact reader_program.settles_short hmore (short?_letter main) (fun _ => rfl) takes spelled

/-- Options make their settings in order. Induction on the options, from the last one. -/
theorem settles_options {settings : List (Setting × String)}
    {next : Scan → Except Refusal (Scan × Task)} (h : Options words settings)
    (hmore : Settles readProgram more next) :
    Settles readProgram (words ++ more) (fun scan => scan.makeAll settings >>= next) := by
  -- Behind the last option the words settle, and each option in front of such words leaves
  -- words that do.
  induction h with
  | none => exact hmore
  | more occurrence rest ih =>
      simp only [List.append_assoc, Scan.makeAll_append, bind_assoc]
      exact settles_occurrence occurrence ih

/-! ### The task -/

/-- A word without switches is a hyphen, in front of what comes next. -/
theorem switches_zero : switches 0 = "-" := rfl

/-- The option for the language gives it, before or behind the message. -/
theorem settles_language {message : Option String} {lang : String}
    {next : Scan → Except Refusal Task} (h : Language lang words)
    (hmore : Settles (fun scan words => readLookup scan message words) more next) :
    Settles (fun scan words => readLookup scan message words) (words ++ more)
      (fun scan => scan.give .lang lang >>= next) := by
  have hreader := reader_lookup message
  cases h with
  | long spelled => exact hreader.settles_long hmore rfl rfl spelled
  | short spelled =>
      have hletter : ∀ letter, Setting.lang.letter? = some letter →
          lookupOptions.short? letter = some (.setting .lang) := by
        intro letter hl
        cases hl
        rfl
      rw [← switches_zero] at spelled
      have hshort := hreader.settles_short hmore hletter (by simp) rfl spelled
      simpa only [List.replicate_zero, List.nil_append, Scan.makeAll_singleton] using hshort

/-- A message that is the last word is taken once the language is settled. -/
theorem settles_message {message : String} (bare : Bare message) :
    Settles (fun scan words => readLookup scan none words) [message]
      (fun scan => finishLookup scan (some message)) := by
  intro scan hscan
  have hpending : ∀ setting, scan.pending ≠ some (setting, none) := by
    intro setting h
    rw [Scan.awaitsValue, h] at hscan
    cases hscan
  -- So the message is not the value of an option.
  show readLookup scan none [message] = _
  simp only [readLookup, Word.ofString_bare bare]
  rfl

/-- So is a message behind `--`. -/
theorem settles_marked (message : String) :
    Settles (fun scan words => readLookup scan none words) ["--", message]
      (fun scan => finishLookup scan (some message)) := by
  intro scan _
  rfl

/-- With the message known, the end of the words settles the language. -/
theorem settles_finished (message : Option String) :
    Settles (fun scan words => readLookup scan message words) []
      (fun scan => finishLookup scan message) := by
  intro scan _
  show finishLookup scan message = _
  unfold finishLookup
  exact (Scan.settle_settle _).symm

/-- The words behind `lookup` are read as the message and the language. -/
theorem readLookup_question {task : Task} (h : Question words task) :
    readLookup .start none words = .ok task := by
  cases h with
  | @messageFirst message lang words bare language =>
      have hmessage : readLookup .start none (message :: words)
          = readLookup .start (some message) words := by
        simp only [readLookup, Word.ofString_bare bare]
        rfl
      have hwords : readLookup .start (some message) (words ++ []) = _ :=
        settles_language language (settles_finished (some message)) .start rfl
      rw [hmessage, ← List.append_nil words, hwords]
      rfl
  | @messageLast message lang words bare language =>
      have hwords : readLookup .start none (words ++ [message]) = _ :=
        settles_language language (settles_message bare) .start rfl
      rw [hwords]
      rfl
  | @messageMarked message lang words language =>
      have hwords : readLookup .start none (words ++ ["--", message]) = _ :=
        settles_language language (settles_marked message) .start rfl
      rw [hwords]
      rfl

/-- The words that name the task settle the options before them. -/
theorem settles_ending {task : Task} (h : Ending words task) :
    Settles readProgram words (fun scan => .ok (scan, task)) := by
  intro scan hscan
  -- No option awaits a value, so `check` and `lookup` are taken for tasks.
  cases h with
  | generate => rfl
  | check =>
      simp only [readProgram, readCheck, hscan]
      rfl
  | lookup question =>
      simp only [readProgram, readLookup_question question, hscan]
      rfl

/-- A written command line is read as its settings, made one after another, and its
task. -/
theorem readProgram_written {settings : List (Setting × String)} {task : Task}
    (h : Written words settings task) :
    readProgram .start words = Scan.start.makeAll settings >>= fun scan => .ok (scan, task) := by
  obtain ⟨options, ending⟩ := h
  exact settles_options options (settles_ending ending) .start rfl

end CommandLine

end Phrasebook
