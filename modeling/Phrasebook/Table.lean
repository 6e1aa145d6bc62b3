import Phrasebook.Catalog.Basic
import Std.Data.HashMap

/-!
# `Phrasebook.Table`: the lookup table

The table of a catalog answers in constant time what the generated C function
finds by comparing one message after the other. Of several records for one
message the first counts, and of several wordings in one language the first.
-/

set_option autoImplicit false

namespace Phrasebook

/-- The wordings of each message, by language. -/
structure Table where
  entries : Std.HashMap String (Std.HashMap String String)

namespace Table

/-- The first wording of each language. -/
def wordingsByLang (wordings : List Wording) : Std.HashMap String String :=
  wordings.foldl (fun known wording =>
    known.insertIfNew wording.lang wording.text.value) ∅

/-- The first record of each message. -/
def ofRecords (records : List Record) :
    Std.HashMap String (Std.HashMap String String) :=
  records.foldl (fun known record =>
    known.insertIfNew record.id.value (wordingsByLang record.wordings)) ∅

/-- The table of a catalog. -/
def ofCatalog (catalog : Catalog) : Table :=
  ⟨ofRecords catalog.records⟩

/-- The wording of a message in a language. Without one, it is the message
itself. -/
def lookup (table : Table) (message lang : String) : String :=
  match table.entries[message]? with
  | none => message
  | some wordings => wordings[lang]?.getD message

/-- The number of messages. -/
def size (table : Table) : Nat :=
  table.entries.size

/-- Whether there is no message. -/
def isEmpty (table : Table) : Bool :=
  table.entries.isEmpty

end Table

end Phrasebook
