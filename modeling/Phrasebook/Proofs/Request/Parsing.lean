import Mathlib.Data.List.Induction
import Mathlib.Data.List.Nodup
import Phrasebook.Proofs.Request.Reading

/-!
# `Phrasebook.Proofs.Request.Parsing`: a request is what its command line asks for

Reading a written command line comes down to making its settings in order
(`readProgram_written`). Each can be made once, so either all of them stand in the end or
one was made again (`makeAll_start`). In the first case the request is told from which
settings there are, and their order is forgotten: `parse_written` is for every way to
write a request down, and `exists_writtenAs` shows that there is one.
-/

set_option autoImplicit false

namespace Phrasebook

namespace CommandLine

variable {settings : List (Setting × String)} {setting : Setting} {value usual : String}

/-! ### Settings that are made -/

/-- The settings, made from the start. The last one stands first. -/
def made (settings : List (Setting × String)) : Scan := ⟨settings.reverse, none⟩

/-- A setting has a value after it has been made, and only then. -/
theorem isSome_value?_made :
    ((made settings).value? setting).isSome = true ↔ setting ∈ settings.map Prod.fst := by
  simp [made, Scan.value?, List.lookup_isSome_iff]

/-- A setting that has been made is not made again. -/
theorem give_made_of_mem (h : setting ∈ settings.map Prod.fst) :
    (made settings).give setting value = .error .argumentConflict := by
  rw [Scan.give, if_pos (isSome_value?_made.mpr h)]

/-- A new setting with a good value is made last. -/
theorem give_made_of_notMem (h : setting ∉ settings.map Prod.fst)
    (haccepts : setting.accepts value = true) :
    (made settings).give setting value = .ok (made (settings ++ [(setting, value)])) := by
  rw [Scan.give, if_neg (mt isSome_value?_made.mp h), if_pos haccepts]
  simp [made]

/-- Settings stay each made once if one is added that was not among them. -/
theorem nodup_keys_append_singleton {last : Setting × String} :
    ((settings ++ [last]).map Prod.fst).Nodup
      ↔ (settings.map Prod.fst).Nodup ∧ last.1 ∉ settings.map Prod.fst := by
  rw [List.map_append, List.map_singleton, ← List.concat_eq_append, List.nodup_concat, and_comm]

/-- Settings with good values can all be made, unless one of them is made again. -/
theorem makeAll_start (h : ∀ made ∈ settings, made.1.accepts made.2 = true) :
    Scan.start.makeAll settings
      = if (settings.map Prod.fst).Nodup then .ok (made settings)
        else .error .argumentConflict := by
  -- By induction from the end: the last setting meets the scan that all those before it
  -- leave, and they are refused already or all stand.
  induction settings using List.reverseRecOn with
  | nil => rfl
  | append_singleton settings last ih =>
      have hlast := h last (List.mem_append_right _ List.mem_cons_self)
      rw [Scan.makeAll_append, ih fun made hmem => h made (List.mem_append_left _ hmem)]
      by_cases hnodup : (settings.map Prod.fst).Nodup
      · rw [if_pos hnodup]
        show (made settings).makeAll [last] = _
        rw [Scan.makeAll_singleton]
        -- With no setting made twice before it, all turns on whether the last one is new.
        by_cases hmem : last.1 ∈ settings.map Prod.fst
        · have hagain : ¬ ((settings ++ [last]).map Prod.fst).Nodup := by
            rw [nodup_keys_append_singleton]
            intro hall
            exact hall.2 hmem
          rw [give_made_of_mem hmem, if_neg hagain]
        · have hall : ((settings ++ [last]).map Prod.fst).Nodup :=
            nodup_keys_append_singleton.mpr ⟨hnodup, hmem⟩
          rw [give_made_of_notMem hmem hlast, if_pos hall]
      · -- A setting was made again before the last one, and the refusal stays.
        have hagain : ¬ ((settings ++ [last]).map Prod.fst).Nodup := by
          rw [nodup_keys_append_singleton]
          intro hall
          exact hnodup hall.1
        rw [if_neg hnodup, if_neg hagain]
        rfl

/-- A setting that is made again is refused, whatever comes behind it. -/
theorem makeAll_again {later : List (Setting × String)}
    (h : ∀ made ∈ settings, made.1.accepts made.2 = true)
    (hmem : setting ∈ settings.map Prod.fst) :
    Scan.start.makeAll (settings ++ (setting, value) :: later) = .error .argumentConflict := by
  rw [Scan.makeAll_append, makeAll_start h]
  by_cases hnodup : (settings.map Prod.fst).Nodup
  · rw [if_pos hnodup]
    show (made settings).makeAll _ = _
    rw [Scan.makeAll_cons, give_made_of_mem hmem]
    rfl
  · rw [if_neg hnodup]
    rfl

/-! ### Values that stand -/

/-- The value of a setting that is made once is the one it is made with. -/
theorem value?_made (hnodup : (settings.map Prod.fst).Nodup) (h : (setting, value) ∈ settings) :
    (made settings).value? setting = some value := by
  obtain ⟨front, back, hsplit⟩ := List.append_of_mem (List.mem_reverse.mpr h)
  have hreverse : (settings.reverse.map Prod.fst).Nodup := by
    rw [List.map_reverse]
    exact List.nodup_reverse.mpr hnodup
  rw [hsplit, List.map_append, List.map_cons, List.nodup_append] at hreverse
  obtain ⟨-, -, hapart⟩ := hreverse
  refine List.lookup_eq_some_iff.mpr ⟨front, back, hsplit, ?_⟩
  -- Each setting is made once, so none in front of this one is the same.
  intro other hother
  exact bne_iff_ne.mpr (hapart _ (List.mem_map_of_mem hother) _ List.mem_cons_self).symm

/-- A setting that is not made has no value. -/
theorem value?_made_of_notMem (h : setting ∉ settings.map Prod.fst) :
    (made settings).value? setting = none := by
  rw [← Option.not_isSome_iff_eq_none]
  exact mt isSome_value?_made.mp h

/-- The value that stands is the one made, or the usual one in its absence. -/
theorem getD_value?_made (hnodup : (settings.map Prod.fst).Nodup)
    (h : setting.Stands settings usual value) :
    ((made settings).value? setting).getD usual = value := by
  cases h with
  | inl hmem => rw [value?_made hnodup hmem, Option.getD_some]
  | inr husual => rw [value?_made_of_notMem husual.1, Option.getD_none, husual.2]

/-- The value that stands is the one that is made, if any is. -/
theorem eq_of_stands {other : String} (hnodup : (settings.map Prod.fst).Nodup)
    (h : setting.Stands settings usual value) (hmem : (setting, other) ∈ settings) :
    other = value := by
  have hvalue := getD_value?_made hnodup h
  rw [value?_made hnodup hmem, Option.getD_some] at hvalue
  exact hvalue

/-! ### The fields of a request -/

/-- The input path is that of the option, or the one that the environment gives, or the
usual one, in this order. -/
theorem inputPath_made {environment : Option String} {path : String}
    (hnodup : (settings.map Prod.fst).Nodup) (hpath : path ≠ "")
    (h : Setting.input.Stands settings (environment.getD "message.txt") path) :
    inputPath ((made settings).value? .input) environment = .ok path := by
  cases h with
  | inl hmem =>
      rw [value?_made hnodup hmem]
      rfl
  | inr husual =>
      obtain ⟨hmem, rfl⟩ := husual
      rw [value?_made_of_notMem hmem]
      -- Without the option the path comes from the environment, which is asked for the
      -- same thing as the option: a path that is not empty.
      cases environment with
      | none => rfl
      | some path =>
          have haccepts : Setting.input.accepts path = true := bne_iff_ne.mpr hpath
          simp only [inputPath, haccepts, if_true]
          rfl

/-- There is an output path if the option is made, and it is the value of the option. -/
theorem output_made {request : Request} (hnodup : (settings.map Prod.fst).Nodup)
    (h : ∀ path, request.output = some path ↔ (.output, path) ∈ settings) :
    (made settings).value? .output = request.output := by
  cases houtput : request.output with
  | some path => exact value?_made hnodup ((h path).mp houtput)
  | none =>
      refine value?_made_of_notMem ?_
      intro hmem
      obtain ⟨⟨setting, path⟩, hmem, rfl⟩ := List.mem_map.mp hmem
      rw [(h path).mpr hmem] at houtput
      cases houtput

/-- The format is the one named, and without the option it is C. -/
theorem format_made {format : Format} (hnodup : (settings.map Prod.fst).Nodup)
    (h : Setting.emit.Stands settings "c" format.name) :
    (if (made settings).value? .emit = some "json" then Format.json else .c) = format := by
  have hvalue := getD_value?_made hnodup h
  cases hemit : (made settings).value? .emit with
  | none =>
      rw [hemit] at hvalue
      cases format with
      | c => rfl
      | json => exact absurd hvalue (by decide)
  | some name =>
      rw [hemit, Option.getD_some] at hvalue
      rw [hvalue]
      cases format <;> rfl

end CommandLine

/-! ### Requests -/

namespace Request

open CommandLine

/-- The words of a command line ask for the request, each option once. -/
def WrittenAs (environment : Option String) (request : Request) (words : List String) : Prop :=
  ∃ settings, Written words settings request.task ∧ (settings.map Prod.fst).Nodup
    ∧ request.Asks environment settings

/-- The values that are written for a request are good ones. -/
theorem Asks.accepts {environment : Option String} {settings : List (Setting × String)}
    {request : Request} (h : request.Asks environment settings)
    (hnodup : (settings.map Prod.fst).Nodup) (hinput : request.input ≠ "")
    (houtput : request.output ≠ some "") :
    ∀ made ∈ settings, made.1.accepts made.2 = true := by
  intro made hmem
  obtain ⟨setting, value⟩ := made
  cases setting with
  | input =>
      have hvalue := eq_of_stands hnodup h.input hmem
      rw [hvalue]
      exact bne_iff_ne.mpr hinput
  | output =>
      have hpath := (h.output value).mpr hmem
      show (value != "") = true
      rw [bne_iff_ne]
      intro hempty
      rw [hempty] at hpath
      exact houtput hpath
  | emit =>
      have hvalue := eq_of_stands hnodup h.format hmem
      rw [hvalue]
      cases request.format <;> rfl
  | _ => rfl

/-- A request is read from every command line that asks for it. -/
theorem parse_of_writtenAs {environment : Option String} {request : Request}
    {words : List String} (hinput : request.input ≠ "") (houtput : request.output ≠ some "")
    (h : request.WrittenAs environment words) : parse environment words = .ok request := by
  obtain ⟨settings, hwritten, hnodup, hasks⟩ := h
  have hread : readProgram .start words = .ok (made settings, request.task) := by
    rw [readProgram_written hwritten, makeAll_start (hasks.accepts hnodup hinput houtput),
      if_pos hnodup]
    rfl
  -- A switch says yes by being there, so its field is told from its being made.
  have hactive : (if ((made settings).value? .langParam).isSome then
      Cascade.ActiveLang.parameter else .global) = request.activeLang := by
    simp only [isSome_value?_made, ← hasks.activeLang]
    cases request.activeLang <;> rfl
  have hverbose : ((made settings).value? .verbose).isSome = request.verbose := by
    rw [Bool.eq_iff_iff, isSome_value?_made, hasks.verbose]
  -- The fields of the request, in the order in which they are read off.
  simp only [parse, hread]
  show (inputPath _ _ >>= _) = _
  rw [inputPath_made hnodup hinput hasks.input]
  show Except.ok (Request.mk _ _ _ _ _ _ _ _) = _
  rw [output_made hnodup hasks.output, format_made hnodup hasks.format,
    getD_value?_made hnodup hasks.function, getD_value?_made hnodup hasks.langName, hactive,
    hverbose]

/-! ### A command line for every request -/

/-- Every setting that is made before the task can be written. -/
theorem exists_options {settings : List (Setting × String)}
    (hmain : ∀ made ∈ settings, made.1 ≠ .lang)
    (hswitch : ∀ made ∈ settings, made.1.takesValue = false → made.2 = "") :
    ∃ words, Options words settings := by
  -- Each setting is written with its long name, which every one of them has. The value
  -- stands behind an equals sign, so it may look like anything.
  induction settings with
  | nil => exact ⟨[], .none⟩
  | cons made settings ih =>
      obtain ⟨setting, value⟩ := made
      obtain ⟨words, hwords⟩ := ih
        (fun made hmem => hmain made (List.mem_cons_of_mem _ hmem))
        (fun made hmem => hswitch made (List.mem_cons_of_mem _ hmem))
      cases htakes : setting.takesValue with
      | true =>
          exact ⟨_, .more (.long htakes (hmain _ List.mem_cons_self) .equals) hwords⟩
      | false =>
          have hvalue : value = "" := hswitch _ List.mem_cons_self htakes
          rw [hvalue]
          exact ⟨_, .more (.switch htakes) hwords⟩

/-- Every task can be named: behind `--` any message can stand. -/
theorem exists_ending (task : Task) : ∃ words, Ending words task := by
  cases task with
  | generate => exact ⟨_, .generate⟩
  | check => exact ⟨_, .check⟩
  | lookup message lang => exact ⟨_, .lookup (.messageMarked (.long .equals))⟩

/-- The settings of a request, with nothing left to be as usual. -/
def settings (request : Request) : List (Setting × String) :=
  (.input, request.input) :: (.emit, request.format.name) :: (.function, request.function)
    :: (.langVar, request.langName)
    :: (request.output.toList.map fun path => (.output, path))
    ++ (if request.activeLang = .parameter then [(.langParam, "")] else [])
    ++ (if request.verbose then [(.verbose, "")] else [])

/-- What the settings of a request are, each with the field it comes from. -/
theorem mem_settings {request : Request} {made : Setting × String} :
    made ∈ request.settings ↔ made = (.input, request.input)
      ∨ made = (.emit, request.format.name) ∨ made = (.function, request.function)
      ∨ made = (.langVar, request.langName)
      ∨ (∃ path, request.output = some path ∧ made = (.output, path))
      ∨ request.activeLang = .parameter ∧ made = (.langParam, "")
      ∨ request.verbose = true ∧ made = (.verbose, "") := by
  cases houtput : request.output <;> cases hactive : request.activeLang
    <;> cases hverbose : request.verbose <;> simp [settings, houtput, hactive, hverbose]

/-- The settings of a request are made once each. -/
theorem nodup_settings (request : Request) : (request.settings.map Prod.fst).Nodup := by
  obtain ⟨input, output, format, function, langName, activeLang, verbose, task⟩ := request
  cases output <;> cases activeLang <;> cases verbose <;> simp [settings]

/-- The settings of a request are for it, and leave nothing to `environment`. -/
theorem asks_settings (environment : Option String) (request : Request) :
    request.Asks environment request.settings where
  input := .inl (by simp [mem_settings])
  output := by simp [mem_settings]
  format := .inl (by simp [mem_settings])
  function := .inl (by simp [mem_settings])
  langName := .inl (by simp [mem_settings])
  activeLang := by simp [mem_settings]
  verbose := by simp [mem_settings]

/-- Every request can be written, wherever the input path would come from. -/
theorem exists_writtenAs (environment : Option String) (request : Request) :
    ∃ words, request.WrittenAs environment words := by
  obtain ⟨front, hfront⟩ : ∃ words, Options words request.settings := by
    refine exists_options ?_ ?_
    · intro made hmem hlang
      simp [mem_settings, hlang, Prod.ext_iff] at hmem
    · intro made hmem htakes
      have hcases := mem_settings.mp hmem
      -- The last two are switches, with the empty value. The others take a value.
      rcases hcases with rfl | rfl | rfl | rfl | ⟨path, -, rfl⟩ | ⟨-, rfl⟩ | ⟨-, rfl⟩
      all_goals first | rfl | cases htakes
  obtain ⟨back, hback⟩ := exists_ending request.task
  exact ⟨front ++ back, request.settings, ⟨hfront, hback⟩, nodup_settings request,
    asks_settings environment request⟩

/-- A command line is read back as the request that it is written for: whatever the order
of its options, their spelling and the values in them. Every request has such command
lines. An option that is written a second time is refused, whatever its value is, and
whatever follows. -/
theorem parse_written (environment : Option String) :
    (∀ request : Request, request.input ≠ "" → request.output ≠ some "" →
      (∃ words, request.WrittenAs environment words)
        ∧ ∀ words, request.WrittenAs environment words →
            parse environment words = .ok request)
      ∧ ∀ (words : List String) (settings later : List (Setting × String))
          (setting : Setting) (value : String) (task : Task),
          Written words (settings ++ (setting, value) :: later) task →
          (∀ made ∈ settings, made.1.accepts made.2 = true) →
          setting ∈ settings.map Prod.fst →
          parse environment words = .error .argumentConflict := by
  refine ⟨?_, ?_⟩
  · intro request hinput houtput
    exact ⟨exists_writtenAs environment request, fun words => parse_of_writtenAs hinput houtput⟩
  · intro words settings later setting value task hwritten haccepts hmem
    rw [parse, readProgram_written hwritten, makeAll_again haccepts hmem]
    rfl

/-- Values that look like a task or like an option, behind switches and behind equals
signs, and a switch that is written twice. -/
theorem parse_written_lookalikes :
    parse (some "a.txt")
        ["-vo", "x=y", "--lang-var", "check", "--function=-v", "lookup", "-lfr", "--", "-i"]
      = .ok ⟨"a.txt", some "x=y", .c, "-v", "check", .global, true, .lookup "-i" "fr"⟩
    ∧ parse none ["--verbose", "--emit", "json", "-vi=b.txt", "check"]
      = .error .argumentConflict := by
  -- How each option is spelled in the first command line.
  have hpath : Bare "x=y" := by decide
  have ho : Setting.output.letter? = some 'o' := rfl
  have hi : Setting.input.letter? = some 'i' := rfl
  have hl : Setting.lang.letter? = some 'l' := rfl
  have houtput : Occurrence ["-vo", "x=y"] [(.verbose, ""), (.output, "x=y")] :=
    .short 1 rfl (by decide) (.apart ho hpath)
  have hname : Bare "check" := by decide
  have hlangVar : Occurrence ["--lang-var", "check"] [(.langVar, "check")] :=
    .long rfl (by decide) (.apart hname)
  have hfunction : Occurrence ["--function=-v"] [(.function, "-v")] :=
    .long rfl (by decide) .equals
  have hlang : Language "fr" ["-lfr"] := .short (.attached hl (by decide) (by decide))
  have hlookup : Written
      ["-vo", "x=y", "--lang-var", "check", "--function=-v", "lookup", "-lfr", "--", "-i"]
      [(.verbose, ""), (.output, "x=y"), (.langVar, "check"), (.function, "-v")]
      (.lookup "-i" "fr") :=
    .intro (.more houtput (.more hlangVar (.more hfunction .none)))
      (.lookup (.messageMarked hlang))
  have hasks : Asks (some "a.txt")
      [(.verbose, ""), (.output, "x=y"), (.langVar, "check"), (.function, "-v")]
      ⟨"a.txt", some "x=y", .c, "-v", "check", .global, true, .lookup "-i" "fr"⟩ :=
    { input := .inr (by decide)
      output := fun path => by simpa using eq_comm
      format := .inr (by decide)
      function := .inl (by decide)
      langName := .inl (by decide)
      activeLang := by decide
      verbose := by decide }
  -- In the second one the switch stands alone and then in one word with `-i`.
  have hinput : Occurrence ["-vi=b.txt"] [(.verbose, ""), (.input, "b.txt")] :=
    .short 1 rfl (by decide) (.equals hi)
  have hjson : Bare "json" := by decide
  have hemit : Occurrence ["--emit", "json"] [(.emit, "json")] :=
    .long rfl (by decide) (.apart hjson)
  have hswitch : Setting.verbose.takesValue = false := rfl
  have hverbose : Occurrence ["--verbose"] [(.verbose, "")] := .switch hswitch
  have hcheck : Written ["--verbose", "--emit", "json", "-vi=b.txt", "check"]
      ([(.verbose, ""), (.emit, "json")] ++ (.verbose, "") :: [(.input, "b.txt")]) .check :=
    .intro (.more hverbose (.more hemit (.more hinput .none))) .check
  refine ⟨?_, ?_⟩
  · exact ((parse_written (some "a.txt")).1 _ (by decide) (by decide)).2 _
      ⟨_, hlookup, by decide, hasks⟩
  · exact (parse_written none).2 _ _ _ _ _ _ hcheck (by decide) (by decide)

end Request

end Phrasebook
