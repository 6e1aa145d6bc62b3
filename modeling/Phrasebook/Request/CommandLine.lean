import Phrasebook.Request.Basic
import Phrasebook.Request.Refusal

/-!
# `Phrasebook.Request.CommandLine`: reading a command line

The words of a command line are taken from left to right. Options stand before
the subcommand, and `lookup` has an option of its own. An option with a value is
written `--name value`, `--name=value`, `-n value`, `-nvalue` or `-n=value`, and
one-letter options can share a word. After the word `--` no word is an option,
and none is a subcommand either.

An option whose value is a word of its own stays pending until the next option
begins or the words end, and is judged only then. So an unknown option, a value
for a switch, a call for help by subcommand, and anything wrong after a
subcommand are reported before a bad value in a pending option.
-/

set_option autoImplicit false

namespace Phrasebook

/-- The options and switches that a command line can set. -/
inductive Setting where
  | input
  | output
  | emit
  | function
  | langVar
  | langParam
  | verbose
  | lang
deriving DecidableEq, Repr

namespace Setting

/-- Whether the setting needs a value. The others are switches. -/
def takesValue : Setting → Bool
  | langParam => false
  | verbose => false
  | _ => true

/-- Whether `value` is one that the setting can have. -/
def accepts (setting : Setting) (value : String) : Bool :=
  match setting with
  | input => value != ""
  | output => value != ""
  | emit => value == "c" || value == "json"
  | _ => true

end Setting

namespace CommandLine

/-- What an option can stand for. -/
inductive Choice where
  | setting (setting : Setting)
  | help
  | version
deriving DecidableEq, Repr

/-- The options that are known at one place of a command line. `topic` is what
help is given on there. -/
structure Vocabulary where
  long? : String → Option Choice
  short? : Char → Option Choice
  topic : HelpTopic

/-- The options before a subcommand. -/
def programOptions : Vocabulary where
  long? name :=
    match name with
    | "input" => some (.setting .input)
    | "output" => some (.setting .output)
    | "emit" => some (.setting .emit)
    | "function" => some (.setting .function)
    | "lang-var" => some (.setting .langVar)
    | "lang-param" => some (.setting .langParam)
    | "verbose" => some (.setting .verbose)
    | "help" => some .help
    | "version" => some .version
    | _ => none
  short? letter :=
    match letter with
    | 'i' => some (.setting .input)
    | 'o' => some (.setting .output)
    | 'v' => some (.setting .verbose)
    | 'h' => some .help
    | 'V' => some .version
    | _ => none
  topic := .program

/-- The options after `lookup`. -/
def lookupOptions : Vocabulary where
  long? name :=
    match name with
    | "lang" => some (.setting .lang)
    | "help" => some .help
    | _ => none
  short? letter :=
    match letter with
    | 'l' => some (.setting .lang)
    | 'h' => some .help
    | _ => none
  topic := .lookup

/-- The options after `check`. -/
def checkOptions : Vocabulary where
  long? name :=
    match name with
    | "help" => some .help
    | _ => none
  short? letter :=
    match letter with
    | 'h' => some .help
    | _ => none
  topic := .check

/-! ### Settings that have been read -/

/-- The settings that some words have made. `pending` is an option whose value
is a word of its own, with that word if it has come. A switch that is on has the
empty value. -/
structure Scan where
  given : List (Setting × String)
  pending : Option (Setting × Option String)
deriving DecidableEq, Repr

namespace Scan

/-- Before the first word. -/
def start : Scan := ⟨[], none⟩

/-- The value of a setting. -/
def value? (scan : Scan) (setting : Setting) : Option String :=
  scan.given.lookup setting

/-- Whether the next word is the value of the pending option, unless it is an
option itself. -/
def awaitsValue (scan : Scan) : Bool :=
  match scan.pending with
  | some (_, none) => true
  | _ => false

/-- Makes a setting. It may be made only once. -/
def give (scan : Scan) (setting : Setting) (value : String) :
    Except Refusal Scan :=
  if (scan.value? setting).isSome then .error .argumentConflict
  else if setting.accepts value then
    .ok { scan with given := (setting, value) :: scan.given }
  else .error .invalidValue

/-- Judges the pending option. -/
def settle (scan : Scan) : Except Refusal Scan :=
  match scan.pending with
  | none => .ok scan
  | some (_, none) => .error .invalidValue
  | some (setting, some value) =>
    { scan with pending := none }.give setting value

/-- Takes an option, with the value that is attached to it. -/
def take (scan : Scan) (vocabulary : Vocabulary) (choice : Choice)
    (attached : Option String) : Except Refusal Scan :=
  match choice, attached with
  | .help, none => do
    let _ ← scan.settle
    .error (.displayHelp vocabulary.topic)
  | .version, none => do
    let _ ← scan.settle
    .error .displayVersion
  | .help, some _ => .error .tooManyValues
  | .version, some _ => .error .tooManyValues
  | .setting setting, attached =>
    match setting.takesValue, attached with
    | true, some value => do (← scan.settle).give setting value
    | true, none => do
      return { ← scan.settle with pending := some (setting, none) }
    | false, none => do (← scan.settle).give setting ""
    | false, some _ => .error .tooManyValues

/-- Takes a word that begins with two hyphens. `body` is what follows them. -/
def takeLong (scan : Scan) (vocabulary : Vocabulary) (body : List Char) :
    Except Refusal Scan :=
  match vocabulary.long? (.ofList (body.takeWhile (· != '='))) with
  | none => .error .unknownArgument
  | some choice =>
    match body.dropWhile (· != '=') with
    | [] => scan.take vocabulary choice none
    | _ :: value => scan.take vocabulary choice (some (.ofList value))

/-- Takes a word that begins with one hyphen. `letters` is what follows it: any
number of switches, and then at most one option with what is left as its
value. -/
def takeShort (scan : Scan) (vocabulary : Vocabulary) :
    List Char → Except Refusal Scan
  | [] => .ok scan
  | letter :: rest =>
    match vocabulary.short? letter with
    | none => .error .unknownArgument
    | some (.setting setting) =>
      if setting.takesValue then
        match rest with
        | [] => scan.take vocabulary (.setting setting) none
        | '=' :: value =>
          scan.take vocabulary (.setting setting) (some (.ofList value))
        | value =>
          scan.take vocabulary (.setting setting) (some (.ofList value))
      else do
        (← scan.take vocabulary (.setting setting) none).takeShort vocabulary rest
    | some choice => scan.take vocabulary choice none

end Scan

/-! ### Words -/

/-- A word, told by its first characters. A single hyphen is a plain word. -/
inductive Word where
  /-- The word `--`, after which all words are plain. -/
  | escape
  | long (body : List Char)
  | short (letters : List Char)
  | plain
deriving DecidableEq, Repr

/-- What kind of word it is. -/
def Word.ofString (word : String) : Word :=
  match word.toList with
  | ['-', '-'] => .escape
  | '-' :: '-' :: body => .long body
  | '-' :: letter :: letters => .short (letter :: letters)
  | _ => .plain

/-- The words after `check`. No plain word has a place there. -/
def readCheck : List String → Except Refusal Unit
  | [] => .ok ()
  | word :: words =>
    match Word.ofString word with
    | .escape => if words.isEmpty then .ok () else .error .unknownArgument
    | .long body => do
      let _ ← Scan.start.takeLong checkOptions body
      readCheck words
    | .short letters => do
      let _ ← Scan.start.takeShort checkOptions letters
      readCheck words
    | .plain => .error .unknownArgument

/-- The end of the words after `lookup`. -/
def finishLookup (scan : Scan) (message : Option String) :
    Except Refusal Task := do
  match message, (← scan.settle).value? .lang with
  | some message, some lang => .ok (.lookup message lang)
  | _, _ => .error .missingRequiredArgument

/-- A plain word as the message of a lookup. -/
def takeMessage (scan : Scan) (message : Option String) : Except Refusal Scan :=
  if message.isSome then .error .unknownArgument else scan.settle

/-- The words after `lookup`. -/
def readLookup (scan : Scan) (message : Option String) :
    List String → Except Refusal Task
  | [] => finishLookup scan message
  | word :: words =>
    match Word.ofString word with
    | .escape =>
      match words with
      | [] => finishLookup scan message
      | word :: more => do
        let scan ← takeMessage scan message
        if more.isEmpty then finishLookup scan (some word)
        else .error .unknownArgument
    | .long body => do
      readLookup (← scan.takeLong lookupOptions body) message words
    | .short letters => do
      readLookup (← scan.takeShort lookupOptions letters) message words
    | .plain =>
      match scan.pending with
      | some (setting, none) =>
        readLookup { scan with pending := some (setting, some word) } message words
      | _ => do
        readLookup (← takeMessage scan message) (some word) words

/-- What the words after `help` ask for. -/
def readHelp (words : List String) : Refusal :=
  match words with
  | [] => .displayHelp .program
  | ["lookup"] => .displayHelp .lookup
  | ["check"] => .displayHelp .check
  | ["help"] => .displayHelp .help
  | _ => .invalidSubcommand

/-- The end of the words before a subcommand, at the word `--`. No plain word has
a place behind it, and the name of a subcommand is told from other words. -/
def readEscaped (scan : Scan) (words : List String) :
    Except Refusal (Scan × Task) :=
  match words with
  | [] => do return (← scan.settle, .generate)
  | word :: _ =>
    if ["check", "lookup", "help"].contains word then .error .unknownArgument
    else .error .invalidSubcommand

/-- All the words: the settings before a subcommand, and the task. -/
def readProgram (scan : Scan) : List String → Except Refusal (Scan × Task)
  | [] => do return (← scan.settle, .generate)
  | word :: words =>
    if word = "help" && !scan.awaitsValue then
      .error (readHelp words)
    else if word = "check" && !scan.awaitsValue then do
      readCheck words
      return (← scan.settle, .check)
    else if word = "lookup" && !scan.awaitsValue then do
      let task ← readLookup .start none words
      return (← scan.settle, task)
    else
      match Word.ofString word with
      | .escape => readEscaped scan words
      | .long body => do
        readProgram (← scan.takeLong programOptions body) words
      | .short letters => do
        readProgram (← scan.takeShort programOptions letters) words
      | .plain =>
        match scan.pending with
        | some (setting, none) =>
          readProgram { scan with pending := some (setting, some word) } words
        | _ => .error .invalidSubcommand

/-- The path of the input file: from the command line, or else from the
environment, or else the usual one. -/
def inputPath (written environment : Option String) : Except Refusal String :=
  match written, environment with
  | some path, _ => .ok path
  | none, some path =>
    if Setting.input.accepts path then .ok path else .error .invalidValue
  | none, none => .ok "message.txt"

/-- The request that a command line makes. `environment` is the input path that
the environment gives. -/
def parse (environment : Option String) (words : List String) :
    Except Refusal Request := do
  let (scan, task) ← readProgram .start words
  return {
    input := ← inputPath (scan.value? .input) environment
    output := scan.value? .output
    format := if scan.value? .emit = some "json" then .json else .c
    function := (scan.value? .function).getD "translate"
    langName := (scan.value? .langVar).getD "lang_code"
    activeLang := if (scan.value? .langParam).isSome then .parameter else .global
    verbose := (scan.value? .verbose).isSome
    task := task }

example : parse none ["-vo", "x.c"] = .ok ⟨"message.txt", some "x.c", .c,
    "translate", "lang_code", .global, true, .generate⟩ := by rfl
example : parse (some "a") ["lookup", "-lfr", "--", "-v"] = .ok ⟨"a", none, .c,
    "translate", "lang_code", .global, false, .lookup "-v" "fr"⟩ := by rfl
example : parse none ["--emit", "xml", "check", "more"]
    = .error .unknownArgument := by rfl
example : parse none ["--emit", "xml", "check"] = .error .invalidValue := by rfl
example : parse none ["-i", "--", "check"] = .error .unknownArgument := by rfl
example : parse none ["-i", "--", "-v"] = .error .invalidSubcommand := by rfl

end CommandLine

end Phrasebook
