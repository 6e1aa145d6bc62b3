import Phrasebook.Cascade.Identifier
import Phrasebook.Catalog.Fault
import Phrasebook.FileTree.Basic

/-!
# `Phrasebook.Run.Failure`: why a run fails

A failure is told as a chain of messages, from what could not be done to what
was in the way.
-/

set_option autoImplicit false

namespace Phrasebook

/-- What makes a run fail. Paths are as given. -/
inductive Failure where
  /-- The input file cannot be read. -/
  | unreadable (path : String) (fault : FileFault)
  /-- The input file is no catalog. -/
  | malformed (path : String) (rejection : Rejection)
  /-- A name for the generated file is no C identifier. -/
  | invalidIdentifier (invalid : InvalidIdentifier)
  /-- The output file cannot be written. -/
  | uncreatable (path : String) (fault : FileFault)
deriving DecidableEq, Repr

namespace Failure

/-- What could not be done with an input file. -/
def loading (path : String) : String :=
  "cannot load translations from `" ++ path ++ "`"

/-- The message of the failure itself. -/
def headline : Failure → String
  | unreadable path _ => loading path
  | malformed path _ => loading path
  | invalidIdentifier invalid => invalid.message
  | uncreatable path _ => "cannot create `" ++ path ++ "`"

/-- The messages of its causes. -/
def causes : Failure → List String
  | unreadable path fault => ["failed to read `" ++ path ++ "`", fault.message]
  | malformed _ rejection => [rejection.message]
  | invalidIdentifier _ => []
  | uncreatable _ fault => [fault.message]

/-- All messages, the outermost first. -/
def chain (failure : Failure) : List String :=
  failure.headline :: failure.causes

/-- A cause in a report, on a line of its own behind its label. Its further
lines are indented as deeply as its first. -/
def labelled (label cause : String) : String :=
  let margin := List.replicate label.length ' '
  let indent (c : Char) : List Char := if c = '\n' then c :: margin else [c]
  "\n" ++ label ++ String.ofList (cause.toList.flatMap indent)

/-- The causes in a report. Several causes are numbered. -/
def reportCauses : List String → String
  | [] => ""
  | [cause] => "\n\nCaused by:" ++ labelled "    " cause
  | causes =>
    "\n\nCaused by:" ++ String.join (causes.mapIdx fun number cause =>
      labelled ("    " ++ toString number ++ ": ") cause)

/-- The report of the failure. -/
def report (failure : Failure) : String :=
  "Error: " ++ failure.headline ++ reportCauses failure.causes ++ "\n"

end Failure

end Phrasebook
