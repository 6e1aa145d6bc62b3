import Phrasebook.Text.Basic

/-!
# `Phrasebook.Catalog.Fault`: what a catalog can be refused or warned for

A file is refused for its first faulty line. A duplicate is no fault: it is kept
and leads to a warning, because nothing will ever reach it.
-/

set_option autoImplicit false

namespace Phrasebook

/-- Why a file is no catalog. Ids are given as they are written in the
file. -/
inductive Fault where
  /-- A header with nothing after `ID:`. -/
  | emptyId
  /-- A header while the record `id` is open. -/
  | unclosedRecord (id : String)
  /-- The end of the file while the record `id` is open. -/
  | missingTerminator (id : String)
  /-- A terminator while no record is open. -/
  | strayTerminator
  /-- A line that is neither header nor terminator while no record is open. -/
  | orphanWording
  /-- A line of fewer than three characters in a record. -/
  | shortWording
  /-- A wording with `found` in place of its colon. -/
  | missingDelimiter (found : Char)
  /-- A wording whose language code is not two ASCII letters or digits. -/
  | badLanguage (code : String)
  /-- A text with a backslash that begins no escape. -/
  | badEscape (bad : BadEscape)
deriving DecidableEq, Repr

/-- What a reader of a refused text is told. -/
def BadEscape.message (bad : BadEscape) : String :=
  match bad.found with
  | some c => "unsupported escape sequence `\\" ++ c.toString ++ "`"
  | none => "text ends with a dangling `\\`"

/-- What a reader of a refused file is told, without the line. -/
def Fault.message : Fault → String
  | .emptyId => "record header has an empty id"
  | .unclosedRecord id =>
    "new record started while `" ++ id ++ "` is still open"
  | .missingTerminator id =>
    "record `" ++ id ++ "` is never closed with `---`"
  | .strayTerminator => "`---` without an open record"
  | .orphanWording => "translation line outside of a record"
  | .shortWording =>
    "translation line is too short for a language code and delimiter"
  | .missingDelimiter found =>
    "expected `:` after the language code, found `" ++ found.toString ++ "`"
  | .badLanguage code =>
    "language code `" ++ code ++ "` must be two ASCII letters or digits"
  | .badEscape bad => bad.message

/-- A duplicate that no lookup can reach. Lines count from one, and `id` is the
written form of the message of the record. -/
inductive Warning where
  /-- A record for a message that has one already. -/
  | duplicateRecord (line : Nat) (id : String)
  /-- A wording in a language in which its record has one already. -/
  | duplicateWording (line : Nat) (id : String) (lang : String)
deriving DecidableEq, Repr

/-- A refused file: its faulty line, what is wrong there, and the warnings for
the lines before. -/
structure Rejection where
  line : Nat
  fault : Fault
  warnings : List Warning
deriving DecidableEq, Repr

/-- What a reader of a refused file is told. -/
def Rejection.message (rejection : Rejection) : String :=
  "line " ++ toString rejection.line ++ ": " ++ rejection.fault.message

end Phrasebook
