import Phrasebook.Run.Process

/-!
# `Phrasebook.Main`: the program

This module touches the world: it reads and writes files, takes the environment
and prints. What is read, written and printed is decided in
`Phrasebook.Request.respond` and in `Phrasebook.Failure.report`.
-/

set_option autoImplicit false

namespace Phrasebook.Main

/-- The fault that the system reports. -/
def fault : IO.Error → FileFault
  | .noFileOrDirectory .. => .notFound
  | .inappropriateType _ code _ => if code = 21 then .isDirectory else .notDirectory
  | error => .other (toString error)

/-- Catches the faults of the system. -/
def attempt {α : Type} (action : IO α) : IO (Except FileFault α) := do
  match ← action.toBaseIO with
  | .ok value => return .ok value
  | .error error => return .error (fault error)

/-- Does what a request comes down to. The result is the events that this
raises, and the failure if there is one. -/
def perform : Action → IO (List Event × Option Failure)
  | .print text => do
    IO.print text
    return ([], none)
  | .save path text records => do
    match ← attempt (IO.FS.writeFile path text) with
    | .ok _ => return ([.outputWritten path records], none)
    | .error fault => return ([], some (.uncreatable path fault))

/-- Carries a request out, and gives the exit code. -/
def serve (request : Request) (filter : Filter) : IO UInt32 := do
  let response := request.respond (← attempt (IO.FS.readBinFile request.input))
  IO.eprint (filter.log response.events)
  let (events, failure) ←
    match response.result with
    | .ok action => perform action
    | .error failure => pure ([], some failure)
  IO.eprint (filter.log events ++ Failure.reportAny failure)
  return (Failure.exitCode failure).toUInt32

end Phrasebook.Main

open Phrasebook in
/-- Runs the program on the words of its command line. -/
def main (words : List String) : IO UInt32 := do
  match CommandLine.parse (← IO.getEnv "TRANSTAB_INPUT") words with
  | .ok request =>
    Main.serve request (.choose request.verbose (← IO.getEnv "RUST_LOG"))
  | .error refusal =>
    IO.print refusal.stdout
    IO.eprint refusal.stderr
    return refusal.exitCode.toUInt32
