import Phrasebook.Text.Basic

/-!
# `Phrasebook.Catalog.Basic`: catalogs of messages

A catalog is a list of records in the order of its file. A record holds a
message and its wordings in other languages. Nothing here forbids a second
record for a message, or a second wording in a language: such duplicates are
kept in their place, and the first of them counts.
-/

set_option autoImplicit false

namespace Phrasebook

/-- A message in one language. `lang` is the language code. -/
structure Wording where
  lang : String
  text : Text
deriving DecidableEq, Repr

/-- A message with its wordings. The message names the record, so it is called
its `id`. -/
structure Record where
  id : Text
  wordings : List Wording
deriving DecidableEq, Repr

/-- The records of a file, in its order. -/
structure Catalog where
  records : List Record
deriving DecidableEq, Repr

namespace Catalog

/-- The number of wordings in all records. -/
def wordingCount (catalog : Catalog) : Nat :=
  (catalog.records.flatMap Record.wordings).length

/-- The language code of every wording, in the order of the file. -/
def langs (catalog : Catalog) : List String :=
  catalog.records.flatMap fun record => record.wordings.map Wording.lang

end Catalog

end Phrasebook
