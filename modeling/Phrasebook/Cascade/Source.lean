import Phrasebook.Cascade.Identifier
import Phrasebook.Cascade.Quote
import Phrasebook.Catalog.Basic
import Phrasebook.Release
import Phrasebook.Text.Lines

/-!
# `Phrasebook.Cascade.Source`: the generated C function

A catalog becomes a C function that compares its message with one id after the
other. Where an id matches, it compares the active language with one language
code after the other, and returns the wording of the first that matches, or else
the id. A message that matches no id is returned as it is.

The active language is either a global variable, which the file declares, or a
second parameter of the function.
-/

set_option autoImplicit false

namespace Phrasebook.Cascade

/-- Where the generated function finds the active language. -/
inductive ActiveLang where
  | global
  | parameter
deriving DecidableEq, Repr

/-- The names in the generated file. -/
structure Options where
  function : Identifier
  langName : Identifier
  activeLang : ActiveLang

/-- The options with these names. If both are no identifiers, the name of the
function is the one to be refused. -/
def Options.ofNames (function langName : String) (activeLang : ActiveLang) :
    Except InvalidIdentifier Options :=
  match Identifier.ofName? function, Identifier.ofName? langName with
  | some function, some langName => .ok ⟨function, langName, activeLang⟩
  | none, _ => .error ⟨function⟩
  | some _, none => .error ⟨langName⟩

/-- The lines before the function. -/
def preamble (options : Options) : List String :=
  ["// " ++ Release.title, "#include <string.h>", ""] ++
    match options.activeLang with
    | .global => ["const char *" ++ options.langName.name ++ ";", ""]
    | .parameter => []

/-- The line that names the function and its parameters. -/
def signature (options : Options) : String :=
  "const char *" ++ options.function.name ++ "(const char *msg" ++
    match options.activeLang with
    | .global => ")"
    | .parameter => ", const char *" ++ options.langName.name ++ ")"

/-- The line for a wording. -/
def wordingLine (options : Options) (wording : Wording) : String :=
  "        if (strcmp(" ++ options.langName.name ++ ", \"" ++ wording.lang
    ++ "\") == 0) return " ++ Quote.literal wording.text.source ++ ";"

/-- The lines for a record. -/
def recordLines (options : Options) (record : Record) : List String :=
  let id := Quote.literal record.id.source
  ["    if (strcmp(msg, " ++ id ++ ") == 0) \x7b"]
    ++ record.wordings.map (wordingLine options)
    ++ ["        return " ++ id ++ ";", "    \x7d"]

/-- The lines of the generated file. -/
def fileLines (options : Options) (catalog : Catalog) : List String :=
  preamble options ++ [signature options, "\x7b"]
    ++ catalog.records.flatMap (recordLines options)
    ++ ["    return msg;", "\x7d"]

/-- The generated file. -/
def source (options : Options) (catalog : Catalog) : String :=
  Lines.join (fileLines options catalog)

end Phrasebook.Cascade
