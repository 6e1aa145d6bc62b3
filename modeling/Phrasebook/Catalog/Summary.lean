import Phrasebook.Catalog.Basic

/-!
# `Phrasebook.Catalog.Summary`: a catalog in one line

The summary states how many records and wordings a catalog has, and lists the
languages of its wordings in order, each once.
-/

set_option autoImplicit false

namespace Phrasebook

/-- Puts a string into a sorted list, unless it is there already. -/
def insertSorted (new : String) : List String → List String
  | [] => [new]
  | head :: rest =>
    if new < head then new :: head :: rest
    else if new = head then head :: rest
    else head :: insertSorted new rest

namespace Catalog

/-- The language codes of a catalog in order, each once. -/
def languages (catalog : Catalog) : List String :=
  catalog.langs.foldr insertSorted []

/-- The summary line of a catalog. -/
def summary (catalog : Catalog) : String :=
  toString catalog.records.length ++ " records, "
    ++ toString catalog.wordingCount ++ " translations, languages: "
    ++ ", ".intercalate catalog.languages ++ "\n"

end Catalog

end Phrasebook
