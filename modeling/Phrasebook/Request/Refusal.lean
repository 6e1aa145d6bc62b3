import Phrasebook.Release
import Phrasebook.Text.Lines

/-!
# `Phrasebook.Request.Refusal`: words that make no request

Words that ask for help or for the version end the program without a request,
and so do words that cannot be understood.
-/

set_option autoImplicit false

namespace Phrasebook

/-- What there is help for. -/
inductive HelpTopic where
  | program
  | lookup
  | check
  | help
deriving DecidableEq, Repr

/-- Why there is no request. -/
inductive Refusal where
  | displayHelp (topic : HelpTopic)
  | displayVersion
  /-- A value that an option does not take, or none where it needs one. -/
  | invalidValue
  /-- A value for a switch. -/
  | tooManyValues
  /-- A second occurrence of an option. -/
  | argumentConflict
  /-- An option or a further word that has no place. -/
  | unknownArgument
  /-- A lookup without message or language. -/
  | missingRequiredArgument
  /-- A word that names no subcommand. -/
  | invalidSubcommand
deriving DecidableEq, Repr

namespace Refusal

/-- The exit code: help and version are no failure. -/
def exitCode : Refusal → Nat
  | displayHelp _ => 0
  | displayVersion => 0
  | _ => 2

/-- The usage line of a topic. -/
def usage : HelpTopic → String
  | .program => "Usage: " ++ Release.name ++ " [OPTIONS] [COMMAND]"
  | .lookup => "Usage: " ++ Release.name ++ " lookup --lang <LANG> <MESSAGE>"
  | .check => "Usage: " ++ Release.name ++ " check"
  | .help => "Usage: " ++ Release.name ++ " help [COMMAND]..."

/-- The help on a topic. -/
def helpText : HelpTopic → String
  | .program => Lines.join [
      "Compiles a translation table into a C lookup function",
      "",
      usage .program,
      "",
      "Commands:",
      "  lookup  Print the translation of a message for a language",
      "  check   Parse the source and print a summary",
      "  help    Print this message or the help of the given subcommand(s)",
      "",
      "Options:",
      "  -i, --input <INPUT>        Translation source file"
        ++ " [env: TRANSTAB_INPUT=] [default: message.txt]",
      "  -o, --output <OUTPUT>      Write the output here instead of stdout",
      "      --emit <EMIT>          [default: c] [possible values: c, json]",
      "      --function <FUNCTION>  Name of the generated C function"
        ++ " [default: translate]",
      "      --lang-var <LANG_VAR>  Name of the active language variable"
        ++ " [default: lang_code]",
      "      --lang-param           Pass the language as a function parameter"
        ++ " instead of a global",
      "  -v, --verbose",
      "  -h, --help                 Print help",
      "  -V, --version              Print version"]
  | .lookup => Lines.join [
      "Print the translation of a message for a language",
      "",
      usage .lookup,
      "",
      "Arguments:",
      "  <MESSAGE>",
      "",
      "Options:",
      "  -l, --lang <LANG>",
      "  -h, --help         Print help"]
  | .check => Lines.join [
      "Parse the source and print a summary",
      "",
      usage .check,
      "",
      "Options:",
      "  -h, --help  Print help"]
  | .help => Lines.join [
      "Print this message or the help of the given subcommand(s)",
      "",
      usage .help,
      "",
      "Arguments:",
      "  [COMMAND]...  Print help for the subcommand(s)"]

/-- What goes to standard output. -/
def stdout : Refusal → String
  | displayHelp topic => helpText topic
  | displayVersion => Release.title ++ "\n"
  | _ => ""

/-- What goes to standard error. -/
def stderr (refusal : Refusal) : String :=
  match refusal with
  | displayHelp _ => ""
  | displayVersion => ""
  | invalidValue => complaint "invalid or missing value for an option"
  | tooManyValues => complaint "unexpected value for a switch"
  | argumentConflict => complaint "an option cannot be used multiple times"
  | unknownArgument => complaint "unexpected argument"
  | missingRequiredArgument => complaint "a required argument was not provided"
  | invalidSubcommand => complaint "unrecognized subcommand"
where
  /-- An error line with a hint. -/
  complaint (text : String) : String :=
    Lines.join ["error: " ++ text, "", usage .program, "",
      "For more information, try '--help'."]

end Refusal

end Phrasebook
