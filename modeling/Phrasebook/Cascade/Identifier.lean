/-!
# `Phrasebook.Cascade.Identifier`: names in generated C

A C identifier is an ASCII letter or an underscore, followed by any number of
ASCII letters, digits and underscores.
-/

set_option autoImplicit false

namespace Phrasebook

/-- Whether an identifier may begin with `c`. -/
def startsIdentifier (c : Char) : Bool :=
  c.isAlpha || c == '_'

/-- Whether `c` may stand in an identifier. -/
def continuesIdentifier (c : Char) : Bool :=
  c.isAlphanum || c == '_'

/-- Whether a name is a C identifier. -/
def isIdentifier (name : String) : Bool :=
  match name.toList with
  | [] => false
  | c :: rest => startsIdentifier c && rest.all continuesIdentifier

/-- A C identifier. -/
structure Identifier where
  name : String
  valid : isIdentifier name = true

/-- A name as an identifier, if it is one. -/
def Identifier.ofName? (name : String) : Option Identifier :=
  if h : isIdentifier name = true then some ⟨name, h⟩ else none

/-- A name that is no C identifier. -/
structure InvalidIdentifier where
  name : String
deriving DecidableEq, Repr

/-- What the user of such a name is told. -/
def InvalidIdentifier.message (invalid : InvalidIdentifier) : String :=
  "`" ++ invalid.name ++ "` is not a valid C identifier"

end Phrasebook
