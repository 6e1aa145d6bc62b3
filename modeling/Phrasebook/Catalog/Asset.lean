import Phrasebook.Catalog.Basic
import Phrasebook.Json.Basic

/-!
# `Phrasebook.Catalog.Asset`: a catalog as a JSON document

The document holds every record and wording in order, duplicates included, with
the values of the texts and not their written forms.
-/

set_option autoImplicit false

namespace Phrasebook

/-- A wording as a JSON object. -/
def Wording.toJson (wording : Wording) : Json :=
  .object [("lang", .string wording.lang), ("text", .string wording.text.value)]

/-- A record as a JSON object. -/
def Record.toJson (record : Record) : Json :=
  .object [("id", .string record.id.value),
    ("variants", .array (record.wordings.map Wording.toJson))]

/-- A catalog as a JSON object. -/
def Catalog.toJson (catalog : Catalog) : Json :=
  .object [("records", .array (catalog.records.map Record.toJson))]

/-- The JSON document of a catalog. -/
def Catalog.asset (catalog : Catalog) : String :=
  catalog.toJson.document

end Phrasebook
