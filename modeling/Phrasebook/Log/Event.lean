import Phrasebook.Catalog.Fault
import Phrasebook.Release

/-!
# `Phrasebook.Log.Event`: what a run reports while it works

A run raises events. Each has a level, a scope, a message and named fields, and
each can be written as one line of a log.
-/

set_option autoImplicit false

namespace Phrasebook

/-- How much an event matters, the most urgent first. -/
inductive Level where
  | error
  | warn
  | info
  | debug
  | trace
deriving DecidableEq, Repr

namespace Level

/-- The level as it stands in a log. -/
def name : Level → String
  | error => "ERROR"
  | warn => "WARN"
  | info => "INFO"
  | debug => "DEBUG"
  | trace => "TRACE"

/-- The place of the level, the most urgent first. No level has place zero, so a
limit of zero admits nothing. -/
def rank : Level → Nat
  | error => 1
  | warn => 2
  | info => 3
  | debug => 4
  | trace => 5

end Level

/-- A step of a run that may be of interest. -/
inductive Event where
  /-- The input file was read: its path as given and its length. -/
  | sourceRead (path : String) (bytes : Nat)
  /-- A duplicate was found in the input file. -/
  | duplicate (warning : Warning)
  /-- The whole input file was understood. -/
  | catalogParsed (records : Nat)
  /-- The table for a lookup has no message. -/
  | tableEmpty
  /-- The table for a lookup is ready. -/
  | tableBuilt (entries : Nat)
  /-- The output file was written: its path as given. -/
  | outputWritten (path : String) (records : Nat)
deriving DecidableEq, Repr

/-- The value of a field of an event. A quoted string stands in quotes in a
log. -/
inductive FieldValue where
  | number (n : Nat)
  | plain (text : String)
  | quoted (text : String)
deriving DecidableEq, Repr

/-- The value as it stands in a log. -/
def FieldValue.render : FieldValue → String
  | .number n => toString n
  | .plain text => text
  | .quoted text => "\"" ++ text ++ "\""

namespace Event

/-- How much the event matters. -/
def level : Event → Level
  | sourceRead .. => .debug
  | duplicate _ => .warn
  | catalogParsed _ => .debug
  | tableEmpty => .warn
  | tableBuilt _ => .debug
  | outputWritten .. => .info

/-- The part of the program that the event comes from. Reading a catalog has a
scope of its own within that of the program. -/
def scope : Event → String
  | sourceRead .. => Release.name ++ "::syntax"
  | duplicate _ => Release.name ++ "::syntax"
  | catalogParsed _ => Release.name ++ "::syntax"
  | tableEmpty => Release.name
  | tableBuilt _ => Release.name
  | outputWritten .. => Release.name

/-- What happened. -/
def message : Event → String
  | sourceRead .. => "read translation source"
  | duplicate (.duplicateRecord ..) => "duplicate record is unreachable"
  | duplicate (.duplicateWording ..) => "duplicate translation is unreachable"
  | catalogParsed _ => "parsed catalog"
  | tableEmpty => "translation table is empty"
  | tableBuilt _ => "built lookup table"
  | outputWritten .. => "wrote output"

/-- The particulars of the event, in the order of a log line. -/
def fields : Event → List (String × FieldValue)
  | sourceRead path bytes => [("path", .plain path), ("bytes", .number bytes)]
  | duplicate (.duplicateRecord line id) =>
    [("line", .number line), ("id", .plain id)]
  | duplicate (.duplicateWording line id lang) =>
    [("line", .number line), ("id", .plain id), ("lang", .quoted lang)]
  | catalogParsed records => [("records", .number records)]
  | tableEmpty => []
  | tableBuilt entries => [("entries", .number entries)]
  | outputWritten path records =>
    [("path", .plain path), ("records", .number records)]

/-- The names of the fields. The message is a field too. -/
def fieldNames (event : Event) : List String :=
  "message" :: event.fields.map Prod.fst

/-- The event as a line of a log, with its line end. -/
def logLine (event : Event) : String :=
  event.level.name ++ " " ++ event.scope ++ ": " ++ event.message
    ++ String.join (event.fields.map fun (name, value) =>
      " " ++ name ++ "=" ++ value.render)
    ++ "\n"

end Event

end Phrasebook
