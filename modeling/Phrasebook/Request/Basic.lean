import Phrasebook.Cascade.Source

/-!
# `Phrasebook.Request.Basic`: what a user can ask for

A request names an input file and a task. The remaining fields concern the
artifact that a catalog is turned into, and no other task looks at them.
-/

set_option autoImplicit false

namespace Phrasebook

/-- What a catalog can be turned into. -/
inductive Format where
  /-- A C file with the lookup function. -/
  | c
  /-- A JSON document. -/
  | json
deriving DecidableEq, Repr

/-- What is to be done with a catalog. -/
inductive Task where
  /-- Turn it into an artifact. -/
  | generate
  /-- Look one message up. -/
  | lookup (message lang : String)
  /-- Print its summary. -/
  | check
deriving DecidableEq, Repr

/-- A complete request. The names have not been checked. -/
structure Request where
  /-- The path of the catalog. -/
  input : String
  /-- The path for the artifact. Without one, it is printed. -/
  output : Option String
  format : Format
  /-- The name of the generated function. -/
  function : String
  /-- The name of the active language in the generated function. -/
  langName : String
  activeLang : Cascade.ActiveLang
  /-- Whether the log shows details. -/
  verbose : Bool
  task : Task
deriving DecidableEq, Repr

end Phrasebook
