/-!
# `Phrasebook.Catalog.Line`: the three kinds of lines

A line that begins with `ID:` is a header, and a line that is `---` is a
terminator. Any other line of three characters or more is a wording: two
characters of language code, a delimiter, and a text. The order matters, since a
header and a terminator are long enough for a wording too.
-/

set_option autoImplicit false

namespace Phrasebook

/-- A line of a catalog, told by its shape alone. Neither the delimiter nor
the language code has been checked. -/
inductive Line where
  | header (id : List Char)
  | terminator
  | wording (first second delimiter : Char) (text : List Char)
deriving DecidableEq, Repr

namespace Line

/-- The kind of a line, or `none` if it is too short to be one. -/
def classify? : List Char → Option Line
  | 'I' :: 'D' :: ':' :: id => some (.header id)
  | ['-', '-', '-'] => some .terminator
  | first :: second :: delimiter :: text =>
    some (.wording first second delimiter text)
  | _ => none

end Line

end Phrasebook
