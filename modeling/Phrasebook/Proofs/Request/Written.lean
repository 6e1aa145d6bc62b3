import Phrasebook.Request.CommandLine

/-!
# `Phrasebook.Proofs.Request.Written`: command lines that are written for a request

One request can be put in many words. Its options stand in any order before the task, an
option with a letter has five spellings and the others have two, and letters can share a
word. `Written` lists the command lines, each with the settings that it makes and the
task that it names:

- `Long` and `Short` are the spellings of one option with its value,
- `Occurrence` is one option, or some that share a word, before the task,
- `Options` are the options before the task, in the order of the words,
- `Ending` is what names the task.

`Request.Asks` says which request the settings make, with the usual value for each that
is not made. Nothing in this file looks at how a command line is read, and values may
look like tasks or, where they are attached, like options.
-/

set_option autoImplicit false

namespace Phrasebook

/-- The name of a format on a command line. -/
def Format.name : Format → String
  | c => "c"
  | json => "json"

namespace Setting

/-- The name of the option that makes a setting. -/
def name : Setting → String
  | input => "input"
  | output => "output"
  | emit => "emit"
  | function => "function"
  | langVar => "lang-var"
  | langParam => "lang-param"
  | verbose => "verbose"
  | lang => "lang"

/-- The letter of the option, for those that have one. -/
def letter? : Setting → Option Char
  | input => some 'i'
  | output => some 'o'
  | verbose => some 'v'
  | lang => some 'l'
  | _ => none

end Setting

namespace CommandLine

/-- A word that can stand by itself where an option could stand: it does not begin with a
hyphen. -/
def Bare (word : String) : Prop := word.toList.head? ≠ some '-'

instance (word : String) : Decidable (Bare word) :=
  inferInstanceAs (Decidable (word.toList.head? ≠ some '-'))

/-- The words that spell an option with its long name and this value. -/
inductive Long (setting : Setting) (value : String) : List String → Prop where
  | apart (bare : Bare value) : Long setting value ["--" ++ setting.name, value]
  | equals : Long setting value ["--" ++ setting.name ++ "=" ++ value]

/-- The words that spell an option with its letter and this value. The word of the letter
begins with `lead`, which is a hyphen and perhaps other letters. -/
inductive Short (lead : String) (setting : Setting) (value : String) :
    List String → Prop where
  | apart {letter : Char} (known : setting.letter? = some letter) (bare : Bare value) :
      Short lead setting value [lead ++ String.singleton letter, value]
  | equals {letter : Char} (known : setting.letter? = some letter) :
      Short lead setting value [lead ++ String.singleton letter ++ "=" ++ value]
  /-- A value that is attached as it is must not be mistaken for one behind an equals
  sign. -/
  | attached {letter : Char} (known : setting.letter? = some letter) (nonempty : value ≠ "")
      (plain : value.toList.head? ≠ some '=') :
      Short lead setting value [lead ++ String.singleton letter ++ value]

/-- The beginning of a word of letters: a hyphen, and so many times the switch for
details. -/
def switches (count : Nat) : String := "-" ++ String.ofList (List.replicate count 'v')

/-- Options before the task that stand together, with the settings that they make. -/
inductive Occurrence : List String → List (Setting × String) → Prop where
  | long {setting : Setting} {value : String} {words : List String}
      (takes : setting.takesValue = true) (main : setting ≠ .lang)
      (spelled : Long setting value words) : Occurrence words [(setting, value)]
  | switch {setting : Setting} (takes : setting.takesValue = false) :
      Occurrence ["--" ++ setting.name] [(setting, "")]
  /-- `-v`. Each letter counts. -/
  | letters (more : Nat) :
      Occurrence [switches (more + 1)] (List.replicate (more + 1) (.verbose, ""))
  /-- An option with a letter, by itself or behind switches. -/
  | short {setting : Setting} {value : String} {words : List String} (count : Nat)
      (takes : setting.takesValue = true) (main : setting ≠ .lang)
      (spelled : Short (switches count) setting value words) :
      Occurrence words (List.replicate count (.verbose, "") ++ [(setting, value)])

/-- The options before the task, with the settings that they make, in the order of the
words. -/
inductive Options : List String → List (Setting × String) → Prop where
  | none : Options [] []
  | more {first words : List String} {made settings : List (Setting × String)}
      (occurrence : Occurrence first made) (rest : Options words settings) :
      Options (first ++ words) (made ++ settings)

/-- The words that spell the language of a lookup. -/
inductive Language (lang : String) : List String → Prop where
  | long {words : List String} (spelled : Long .lang lang words) : Language lang words
  | short {words : List String} (spelled : Short "-" .lang lang words) : Language lang words

/-- The words behind `lookup`: the message and its language, in either order. -/
inductive Question : List String → Task → Prop where
  | messageFirst {message lang : String} {words : List String} (bare : Bare message)
      (language : Language lang words) : Question (message :: words) (.lookup message lang)
  | messageLast {message lang : String} {words : List String} (bare : Bare message)
      (language : Language lang words) : Question (words ++ [message]) (.lookup message lang)
  /-- A message behind `--` may be any word. -/
  | messageMarked {message lang : String} {words : List String}
      (language : Language lang words) :
      Question (words ++ ["--", message]) (.lookup message lang)

/-- The words that name a task. Without any, an artifact is made. -/
inductive Ending : List String → Task → Prop where
  | generate : Ending [] .generate
  | check : Ending ["check"] .check
  | lookup {words : List String} {task : Task} (question : Question words task) :
      Ending ("lookup" :: words) task

/-- `Written words settings task`: a command line that makes these settings, in this
order, and names this task. -/
inductive Written : List String → List (Setting × String) → Task → Prop where
  | intro {front back : List String} {settings : List (Setting × String)} {task : Task}
      (options : Options front settings) (ending : Ending back task) :
      Written (front ++ back) settings task

end CommandLine

/-- The value of a setting is one that is made, or else the usual one. -/
def Setting.Stands (setting : Setting) (settings : List (Setting × String))
    (usual value : String) : Prop :=
  (setting, value) ∈ settings ∨ setting ∉ settings.map Prod.fst ∧ value = usual

/-- The settings are those of the request. What is not set is as usual, and for the input
file `environment` comes before that. -/
structure Request.Asks (environment : Option String) (settings : List (Setting × String))
    (request : Request) : Prop where
  input : Setting.input.Stands settings (environment.getD "message.txt") request.input
  output : ∀ path, request.output = some path ↔ (.output, path) ∈ settings
  format : Setting.emit.Stands settings "c" request.format.name
  function : Setting.function.Stands settings "translate" request.function
  langName : Setting.langVar.Stands settings "lang_code" request.langName
  activeLang : request.activeLang = .parameter ↔ .langParam ∈ settings.map Prod.fst
  verbose : request.verbose = true ↔ .verbose ∈ settings.map Prod.fst

end Phrasebook
