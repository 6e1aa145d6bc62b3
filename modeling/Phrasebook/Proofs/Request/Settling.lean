import Mathlib.Data.List.TakeWhile
import Phrasebook.Proofs.Request.Written

/-!
# `Phrasebook.Proofs.Request.Settling`: options that are read one after another

An option whose value is a word of its own stays pending, so what words do depends on
what stood before them. But whatever comes next begins with settling what is pending.
`Settles read words next` says so of the words that are left: they settle, and go on from
there with `next`. An option in front of such words leaves words of this kind again, and
makes its setting between the two steps (`Reader.settles_long`, `Reader.settles_short`).

The words before the task and those after `lookup` are read in one way, with two
vocabularies. What both have in common is `Reader`.
-/

set_option autoImplicit false

namespace Phrasebook

namespace Setting

/-- Every setting has a name. -/
theorem name_ne_nil (setting : Setting) : setting.name.toList ≠ [] := by
  cases setting <;> decide

/-- No name has an equals sign in it, so the first one in a word ends the name. -/
theorem ne_equals_of_mem_name (setting : Setting) :
    ∀ c ∈ setting.name.toList, (c != '=') = true := by
  rw [← List.all_eq_true]
  cases setting <;> decide

/-- No letter is a hyphen, so one hyphen and a letter never look like a long name. -/
theorem letter_ne_hyphen {setting : Setting} {letter : Char}
    (h : setting.letter? = some letter) : letter ≠ '-' := by
  cases setting <;> cases h <;> decide

end Setting

namespace CommandLine

/-- Two ways to go on from a result are alike if they are so from the result that there
is. -/
theorem bind_congr_ok {ε α β : Type} {result : Except ε α} {first second : α → Except ε β}
    (h : ∀ value, result = .ok value → first value = second value) :
    (result >>= first) = (result >>= second) := by
  cases result with
  | error failure => rfl
  | ok value => exact h value rfl

/-! ### Kinds of words -/

/-- A word without a hyphen in front is a plain one. -/
theorem Word.ofString_bare {word : String} (h : Bare word) : Word.ofString word = .plain := by
  unfold Bare at h
  unfold ofString
  cases hchars : word.toList with
  | nil => rfl
  | cons first rest =>
      rw [hchars] at h
      have hfirst : first ≠ '-' := by
        intro e
        exact h (congrArg some e)
      simp [hfirst]

/-- Two hyphens and something behind them are a long name, with its value if it has one. -/
theorem Word.ofString_long {word : String} {body : List Char}
    (h : word.toList = '-' :: '-' :: body) (hbody : body ≠ []) :
    Word.ofString word = .long body := by
  obtain ⟨first, rest, rfl⟩ := List.exists_cons_of_ne_nil hbody
  simp [ofString, h]

/-- One hyphen and something else behind it are letters. -/
theorem Word.ofString_short {word : String} {letter : Char} {rest : List Char}
    (h : word.toList = '-' :: letter :: rest) (hletter : letter ≠ '-') :
    Word.ofString word = .short (letter :: rest) := by
  simp [ofString, h, hletter]

namespace Scan

variable {scan after : Scan} {vocabulary : Vocabulary} {setting : Setting} {value : String}

/-! ### Making settings -/

/-- Makes settings, one after another. -/
def makeAll (scan : Scan) (settings : List (Setting × String)) : Except Refusal Scan :=
  settings.foldlM (fun scan made => scan.give made.1 made.2) scan

/-- No settings leave the scan as it is. -/
@[simp] theorem makeAll_nil : scan.makeAll [] = .ok scan := rfl

/-- The first of some settings is made first, and the others only if it is accepted. -/
theorem makeAll_cons (made : Setting × String) (settings : List (Setting × String)) :
    scan.makeAll (made :: settings)
      = scan.give made.1 made.2 >>= fun scan => scan.makeAll settings :=
  List.foldlM_cons

/-- To make one setting in this way is to give it its value. -/
theorem makeAll_singleton : scan.makeAll [(setting, value)] = scan.give setting value := by
  rw [makeAll_cons]
  cases scan.give setting value <;> rfl

/-- Settings can be made in two portions. -/
theorem makeAll_append (first settings : List (Setting × String)) :
    scan.makeAll (first ++ settings)
      = scan.makeAll first >>= fun scan => scan.makeAll settings :=
  List.foldlM_append

/-- A setting that is made leaves what is pending. -/
theorem pending_of_give (h : scan.give setting value = .ok after) :
    after.pending = scan.pending := by
  unfold give at h
  split at h
  · cases h
  · split at h
    · cases h
      rfl
    · cases h

/-- So do some settings, one after another. -/
theorem pending_of_makeAll {settings : List (Setting × String)}
    (h : scan.makeAll settings = .ok after) : after.pending = scan.pending := by
  -- The scan changes with each setting, so the induction is for all of them.
  induction settings generalizing scan with
  | nil =>
      cases h
      rfl
  | cons made settings ih =>
      rw [makeAll_cons] at h
      cases hgive : scan.give made.1 made.2 with
      | error refusal =>
          rw [hgive] at h
          cases h
      | ok next =>
          rw [hgive] at h
          exact (ih h).trans (pending_of_give hgive)

/-! ### Settling -/

/-- With nothing pending there is nothing to settle. -/
theorem settle_of_none (h : scan.pending = none) : scan.settle = .ok scan := by
  rw [settle, h]

/-- Nothing is pending once it has been settled. -/
theorem pending_of_settle (h : scan.settle = .ok after) : after.pending = none := by
  unfold settle at h
  split at h
  · rename_i hnone
    cases h
    exact hnone
  · cases h
  · exact pending_of_give h

/-- A pending option with its value is given it. -/
theorem settle_pending (h : scan.pending = none) :
    { scan with pending := some (setting, some value) }.settle = scan.give setting value := by
  obtain ⟨given, pending⟩ := scan
  cases h
  rfl

/-- To settle twice is to settle once. -/
theorem settle_settle {α : Type} (next : Scan → Except Refusal α) :
    (scan.settle >>= fun scan => scan.settle >>= next) = scan.settle >>= next := by
  refine bind_congr_ok ?_
  intro settled h
  rw [settle_of_none (pending_of_settle h)]
  rfl

/-- With nothing pending no value is awaited. -/
theorem awaitsValue_of_none (h : scan.pending = none) : scan.awaitsValue = false := by
  rw [awaitsValue, h]

/-! ### Taking options -/

/-- An option without its value stays pending, once what was pending has been settled. -/
theorem take_apart (h : setting.takesValue = true) :
    scan.take vocabulary (.setting setting) none
      = scan.settle >>= fun scan => .ok { scan with pending := some (setting, none) } := by
  simp only [take, h]
  rfl

/-- An option with its value attached is made at once, once what was pending has been
settled. -/
theorem take_value (h : setting.takesValue = true) :
    scan.take vocabulary (.setting setting) (some value)
      = scan.settle >>= fun scan => scan.give setting value := by
  simp only [take, h]

/-- A switch has no value to wait for. It is made like an option with the empty value. -/
theorem take_switch (h : setting.takesValue = false) :
    scan.take vocabulary (.setting setting) none
      = scan.settle >>= fun scan => scan.give setting "" := by
  simp only [take, h]

/-- A long name alone takes the option that has this name. -/
theorem takeLong_name (known : vocabulary.long? setting.name = some (.setting setting)) :
    scan.takeLong vocabulary setting.name.toList
      = scan.take vocabulary (.setting setting) none := by
  have hname := setting.ne_equals_of_mem_name
  rw [takeLong, List.takeWhile_eq_self_iff.mpr hname, List.dropWhile_eq_nil_iff.mpr hname,
    String.ofList_toList, known]

/-- A long name with an equals sign behind it takes the option with all the rest as its
value, further equals signs included. -/
theorem takeLong_equals (known : vocabulary.long? setting.name = some (.setting setting)) :
    scan.takeLong vocabulary (setting.name.toList ++ '=' :: value.toList)
      = scan.take vocabulary (.setting setting) (some value) := by
  have hname := setting.ne_equals_of_mem_name
  rw [takeLong, List.takeWhile_append_of_pos hname, List.dropWhile_append_of_pos hname]
  simp [known]

/-! ### Taking letters -/

/-- The letter of an option at the end of a word takes the option without its value. -/
theorem takeShort_apart {letter : Char}
    (known : vocabulary.short? letter = some (.setting setting))
    (h : setting.takesValue = true) :
    scan.takeShort vocabulary [letter] = scan.take vocabulary (.setting setting) none := by
  simp [takeShort, known, h]

/-- An equals sign behind the letter of an option does not belong to the value. -/
theorem takeShort_equals {letter : Char} {value : List Char}
    (known : vocabulary.short? letter = some (.setting setting))
    (h : setting.takesValue = true) :
    scan.takeShort vocabulary (letter :: '=' :: value)
      = scan.take vocabulary (.setting setting) (some (.ofList value)) := by
  simp [takeShort, known, h]

/-- What is behind the letter of an option is its value, even if it looks like more
letters. -/
theorem takeShort_attached {letter : Char} {value : String}
    (known : vocabulary.short? letter = some (.setting setting))
    (h : setting.takesValue = true) (nonempty : value ≠ "")
    (plain : value.toList.head? ≠ some '=') :
    scan.takeShort vocabulary (letter :: value.toList)
      = scan.take vocabulary (.setting setting) (some value) := by
  -- The reader asks for what is behind the letter, so the value is taken apart as it does.
  cases hchars : value.toList with
  | nil => exact absurd (String.toList_eq_nil_iff.mp hchars) nonempty
  | cons first rest =>
      have hfirst : first ≠ '=' := by
        intro e
        rw [hchars] at plain
        exact plain (congrArg some e)
      have hvalue : String.ofList (first :: rest) = value := by
        rw [← hchars, String.ofList_toList]
      simp [takeShort, known, h, hfirst, hvalue]

/-- The letter of a switch takes it, and the letters behind it are taken next. -/
theorem takeShort_switch {letter : Char} {rest : List Char}
    (known : vocabulary.short? letter = some (.setting setting))
    (h : setting.takesValue = false) :
    scan.takeShort vocabulary (letter :: rest)
      = scan.take vocabulary (.setting setting) none >>= fun scan =>
        scan.takeShort vocabulary rest := by
  simp [takeShort, known, h]

/-- The first letter of a word settles what is pending. -/
theorem takeShort_settle {letter : Char}
    (known : vocabulary.short? letter = some (.setting setting)) (rest : List Char) :
    scan.takeShort vocabulary (letter :: rest)
      = scan.settle >>= fun scan => scan.takeShort vocabulary (letter :: rest) := by
  -- Whichever way the letter is taken, the first thing done is to settle, and that can be
  -- done twice.
  cases htakes : setting.takesValue with
  | false =>
      simp only [takeShort_switch known htakes, take_switch htakes, bind_assoc, settle_settle]
  | true =>
      cases rest with
      | nil => simp only [takeShort_apart known htakes, take_apart htakes, settle_settle]
      | cons first rest =>
          by_cases hfirst : first = '='
          · rw [hfirst]
            simp only [takeShort_equals known htakes, take_value htakes, settle_settle]
          · -- What is behind the letter is its value as it is.
            have hvalue : first :: rest = (String.ofList (first :: rest)).toList := by simp
            have hnonempty : String.ofList (first :: rest) ≠ "" := by simp
            have hplain : (String.ofList (first :: rest)).toList.head? ≠ some '=' := by
              simpa using hfirst
            rw [hvalue]
            simp only [takeShort_attached known htakes hnonempty hplain, take_value htakes,
              settle_settle]

/-- Switches in front of an option are made before it is taken. -/
theorem takeShort_switches {letter : Char} {rest : List Char}
    (known : vocabulary.short? letter = some (.setting setting)) {count : Nat}
    (details : 0 < count → vocabulary.short? 'v' = some (.setting .verbose)) :
    scan.takeShort vocabulary (List.replicate count 'v' ++ letter :: rest)
      = scan.settle >>= fun scan => scan.makeAll (List.replicate count (.verbose, "")) >>=
        fun scan => scan.takeShort vocabulary (letter :: rest) := by
  -- By induction on the number of switches. The others are taken from the scan that the
  -- first one leaves, so it has to be any scan.
  induction count generalizing scan with
  | zero =>
      simp only [List.replicate_zero, List.nil_append, makeAll_nil]
      exact takeShort_settle known rest
  | succ count ih =>
      have hverbose := details (Nat.succ_pos count)
      have hswitch : Setting.verbose.takesValue = false := rfl
      simp only [List.replicate_succ, List.cons_append, takeShort_switch hverbose hswitch,
        take_switch hswitch, makeAll_cons, bind_assoc]
      -- Once the first switch is made nothing is pending, so to settle again is nothing.
      refine bind_congr_ok ?_
      intro settled hsettled
      refine bind_congr_ok ?_
      intro made hmade
      have hpending : made.pending = none :=
        (pending_of_give hmade).trans (pending_of_settle hsettled)
      rw [ih fun _ => hverbose, settle_of_none hpending]
      rfl

end Scan

/-! ### Words that settle -/

/-- A way to read words that takes options from a vocabulary, and plain words as the values
that options await. -/
structure Reader {α : Type} (vocabulary : Vocabulary)
    (read : Scan → List String → Except Refusal α) : Prop where
  long : ∀ {scan : Scan} {word : String} {body : List Char} (more : List String),
    Word.ofString word = .long body →
    read scan (word :: more)
      = scan.takeLong vocabulary body >>= fun scan => read scan more
  short : ∀ {scan : Scan} {word : String} {letters : List Char} (more : List String),
    Word.ofString word = .short letters →
    read scan (word :: more)
      = scan.takeShort vocabulary letters >>= fun scan => read scan more
  value : ∀ {scan : Scan} {setting : Setting} {word : String} (more : List String),
    Word.ofString word = .plain → scan.pending = some (setting, none) →
    read scan (word :: more)
      = read { scan with pending := some (setting, some word) } more

/-- The words settle what is pending, unless it still awaits its value, and go on from
there with `next`. -/
def Settles {α : Type} (read : Scan → List String → Except Refusal α) (words : List String)
    (next : Scan → Except Refusal α) : Prop :=
  ∀ scan : Scan, scan.awaitsValue = false → read scan words = scan.settle >>= next

variable {α : Type} {vocabulary : Vocabulary} {read : Scan → List String → Except Refusal α}
  {next : Scan → Except Refusal α} {scan : Scan} {setting : Setting} {value : String}
  {words more : List String}

/-- With nothing pending, words that settle just go on. -/
theorem Settles.read_of_none (hmore : Settles read more next) (h : scan.pending = none) :
    read scan more = next scan := by
  rw [hmore scan (Scan.awaitsValue_of_none h), Scan.settle_of_none h]
  rfl

/-- An option that is pending with its value is settled by what follows. -/
theorem Settles.read_pending (hmore : Settles read more next) (h : scan.pending = none) :
    read { scan with pending := some (setting, some value) } more
      = scan.give setting value >>= next := by
  rw [hmore _ rfl, Scan.settle_pending h]

/-- What is given a scan with nothing pending leaves nothing pending. -/
theorem Settles.read_given (hmore : Settles read more next) (h : scan.pending = none) :
    (scan.give setting value >>= fun scan => read scan more)
      = scan.give setting value >>= next := by
  refine bind_congr_ok ?_
  intro given hgiven
  exact hmore.read_of_none ((Scan.pending_of_give hgiven).trans h)

namespace Reader

/-- An option whose value comes as the next word is given this value. -/
theorem take_apart (hread : Reader vocabulary read) (hmore : Settles read more next)
    (takes : setting.takesValue = true) (bare : Bare value) :
    (scan.take vocabulary (.setting setting) none >>= fun scan => read scan (value :: more))
      = scan.settle >>= fun scan => scan.give setting value >>= next := by
  rw [Scan.take_apart takes, bind_assoc]
  refine bind_congr_ok ?_
  intro settled hsettled
  -- The next word is a plain one, so it is the value, and `more` settles the option.
  show read _ (value :: more) = _
  rw [hread.value more (Word.ofString_bare bare) rfl]
  exact hmore.read_pending (Scan.pending_of_settle hsettled)

/-- An option with its value attached is given this value. -/
theorem take_attached (hmore : Settles read more next) (takes : setting.takesValue = true) :
    (scan.take vocabulary (.setting setting) (some value) >>= fun scan => read scan more)
      = scan.settle >>= fun scan => scan.give setting value >>= next := by
  rw [Scan.take_value takes, bind_assoc]
  refine bind_congr_ok ?_
  intro settled hsettled
  exact hmore.read_given (Scan.pending_of_settle hsettled)

/-- A switch is given the empty value. -/
theorem take_switch (hmore : Settles read more next) (takes : setting.takesValue = false) :
    (scan.take vocabulary (.setting setting) none >>= fun scan => read scan more)
      = scan.settle >>= fun scan => scan.give setting "" >>= next := by
  rw [Scan.take_switch takes, bind_assoc]
  refine bind_congr_ok ?_
  intro settled hsettled
  exact hmore.read_given (Scan.pending_of_settle hsettled)

/-- An option with its long name is given its value before the words behind it. -/
theorem settles_long (hread : Reader vocabulary read) (hmore : Settles read more next)
    (known : vocabulary.long? setting.name = some (.setting setting))
    (takes : setting.takesValue = true) (spelled : Long setting value words) :
    Settles read (words ++ more) (fun scan => scan.give setting value >>= next) := by
  intro scan _
  -- The value is the next word, or it stands behind an equals sign.
  cases spelled with
  | apart bare =>
      have hword : Word.ofString ("--" ++ setting.name) = .long setting.name.toList :=
        Word.ofString_long (by simp) setting.name_ne_nil
      show read scan (_ :: value :: more) = _
      rw [hread.long _ hword, Scan.takeLong_name known]
      exact take_apart hread hmore takes bare
  | equals =>
      have hword : Word.ofString ("--" ++ setting.name ++ "=" ++ value)
          = .long (setting.name.toList ++ '=' :: value.toList) :=
        Word.ofString_long (by simp) (by simp)
      show read scan (_ :: more) = _
      rw [hread.long _ hword, Scan.takeLong_equals known]
      exact take_attached hmore takes

/-- So is a switch. -/
theorem settles_switch (hread : Reader vocabulary read) (hmore : Settles read more next)
    (known : vocabulary.long? setting.name = some (.setting setting))
    (takes : setting.takesValue = false) :
    Settles read (["--" ++ setting.name] ++ more) (fun scan => scan.give setting "" >>= next) := by
  intro scan _
  have hword : Word.ofString ("--" ++ setting.name) = .long setting.name.toList :=
    Word.ofString_long (by simp) setting.name_ne_nil
  show read scan (_ :: more) = _
  rw [hread.long _ hword, Scan.takeLong_name known]
  exact take_switch hmore takes

/-- A word of letters makes the settings of its switches, and goes on with the letter
behind them. Nothing is pending there. -/
theorem settles_letters (hread : Reader vocabulary read) {word : String} {count : Nat}
    {letter : Char} {rest : List Char}
    (hword : word.toList = '-' :: (List.replicate count 'v' ++ letter :: rest))
    (known : vocabulary.short? letter = some (.setting setting)) (hletter : letter ≠ '-')
    (details : 0 < count → vocabulary.short? 'v' = some (.setting .verbose))
    (htake : ∀ scan : Scan, scan.pending = none →
      (scan.takeShort vocabulary (letter :: rest) >>= fun scan => read scan more)
        = next scan) :
    Settles read (word :: more) (fun scan =>
      scan.makeAll (List.replicate count (.verbose, "")) >>= next) := by
  intro scan _
  -- The word has letters, whether a switch or the option is the first of them.
  have hkind : Word.ofString word = .short (List.replicate count 'v' ++ letter :: rest) := by
    cases count with
    | zero => exact Word.ofString_short hword hletter
    | succ count => exact Word.ofString_short hword (by decide)
  simp only [hread.short more hkind, Scan.takeShort_switches known details, bind_assoc]
  refine bind_congr_ok ?_
  intro settled hsettled
  refine bind_congr_ok ?_
  intro made hmade
  exact htake made ((Scan.pending_of_makeAll hmade).trans (Scan.pending_of_settle hsettled))

/-- An option with its letter is given its value after the switches in its word. -/
theorem settles_short (hread : Reader vocabulary read) (hmore : Settles read more next)
    {count : Nat}
    (known : ∀ letter, setting.letter? = some letter →
      vocabulary.short? letter = some (.setting setting))
    (details : 0 < count → vocabulary.short? 'v' = some (.setting .verbose))
    (takes : setting.takesValue = true) (spelled : Short (switches count) setting value words) :
    Settles read (words ++ more) (fun scan =>
      scan.makeAll (List.replicate count (.verbose, "") ++ [(setting, value)]) >>= next) := by
  simp only [Scan.makeAll_append, Scan.makeAll_singleton, bind_assoc]
  -- The spellings differ in what is behind the letter. It is the value, or nothing and the
  -- value is the next word.
  cases spelled with
  | @apart letter hletter bare =>
      have hword : (switches count ++ String.singleton letter).toList
          = '-' :: (List.replicate count 'v' ++ [letter]) := by
        simp [switches]
      simp only [List.cons_append, List.nil_append]
      refine settles_letters hread hword (known _ hletter) (Setting.letter_ne_hyphen hletter)
        details ?_
      intro scan hscan
      rw [Scan.takeShort_apart (known _ hletter) takes, take_apart hread hmore takes bare,
        Scan.settle_of_none hscan]
      rfl
  | @equals letter hletter =>
      have hword : (switches count ++ String.singleton letter ++ "=" ++ value).toList
          = '-' :: (List.replicate count 'v' ++ letter :: '=' :: value.toList) := by
        simp [switches]
      simp only [List.cons_append, List.nil_append]
      refine settles_letters hread hword (known _ hletter) (Setting.letter_ne_hyphen hletter)
        details ?_
      intro scan hscan
      rw [Scan.takeShort_equals (known _ hletter) takes, String.ofList_toList,
        take_attached hmore takes, Scan.settle_of_none hscan]
      rfl
  | @attached letter hletter nonempty plain =>
      have hword : (switches count ++ String.singleton letter ++ value).toList
          = '-' :: (List.replicate count 'v' ++ letter :: value.toList) := by
        simp [switches]
      simp only [List.cons_append, List.nil_append]
      refine settles_letters hread hword (known _ hletter) (Setting.letter_ne_hyphen hletter)
        details ?_
      intro scan hscan
      rw [Scan.takeShort_attached (known _ hletter) takes nonempty plain,
        take_attached hmore takes, Scan.settle_of_none hscan]
      rfl

/-- A word of switches makes the setting as often as it has letters. -/
theorem settles_switches (hread : Reader vocabulary read) (hmore : Settles read more next)
    (known : vocabulary.short? 'v' = some (.setting .verbose)) (count : Nat) :
    Settles read ([switches (count + 1)] ++ more) (fun scan =>
      scan.makeAll (List.replicate (count + 1) (.verbose, "")) >>= next) := by
  have hword : (switches (count + 1)).toList
      = '-' :: (List.replicate count 'v' ++ ['v']) := by
    simp [switches, List.replicate_succ']
  simp only [List.replicate_succ', Scan.makeAll_append, Scan.makeAll_singleton, bind_assoc]
  refine settles_letters hread hword known (by decide) (fun _ => known) ?_
  intro scan hscan
  -- The last letter is a switch as well, with no letters behind it.
  have htake : scan.takeShort vocabulary ['v']
      = scan.take vocabulary (.setting .verbose) none >>= fun scan => .ok scan :=
    Scan.takeShort_switch known rfl
  rw [htake, bind_assoc]
  show (_ >>= fun scan => read scan more) = _
  rw [take_switch hmore rfl, Scan.settle_of_none hscan]
  rfl

end Reader

end CommandLine

end Phrasebook
