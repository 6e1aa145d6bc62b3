import Phrasebook.Log.Filter
import Phrasebook.Request.CommandLine
import Phrasebook.Run.Basic

/-!
# `Phrasebook.Run.Process`: a whole run, from the command line to the exit code

A process takes its words and its environment, carries out the request they
make, and ends with an exit code. Its standard error holds the events that the
filter admits, and after them the report of a failure.
-/

set_option autoImplicit false

namespace Phrasebook

/-- What the environment of a process says. -/
structure Environment where
  /-- The path of the input file, if the command line gives none. -/
  input : Option String
  /-- The filter for the log. -/
  filter : Option String

/-- What a process leaves behind. -/
structure Exit where
  code : Nat
  stdout : String
  stderr : String
  tree : FileTree

/-- The log of some events. -/
def Filter.log (filter : Filter) (events : List Event) : String :=
  String.join ((events.filter filter.admits).map Event.logLine)

/-- The exit code of a run. -/
def Failure.exitCode (failure : Option Failure) : Nat :=
  if failure.isSome then 1 else 0

/-- The end of a standard error: the report, if there is a failure. -/
def Failure.reportAny (failure : Option Failure) : String :=
  (failure.map Failure.report).getD ""

/-- Runs a process in a file tree. -/
def execute (tree : FileTree) (environment : Environment) (words : List String) :
    Exit :=
  match CommandLine.parse environment.input words with
  | .error refusal => ⟨refusal.exitCode, refusal.stdout, refusal.stderr, tree⟩
  | .ok request =>
    let outcome := request.run tree
    let filter := Filter.choose request.verbose environment.filter
    { code := Failure.exitCode outcome.failure
      stdout := outcome.stdout
      stderr := filter.log outcome.events ++ Failure.reportAny outcome.failure
      tree := outcome.tree }

end Phrasebook
