import Phrasebook.Catalog.Basic

/-!
# `Phrasebook.Proofs.Catalog.Values`: what a catalog says

A text can be spelled in many ways, with escapes or without. The values of a
catalog leave the spellings out and keep everything else: the order, and every
duplicate. What is written from a catalog can be read back to its values at best,
so they are what two outputs are compared by.
-/

set_option autoImplicit false

namespace Phrasebook

/-- A wording as its language and the text that it stands for. -/
def Wording.values (wording : Wording) : String × String :=
  (wording.lang, wording.text.value)

/-- A record as the message that it stands for and the values of its wordings. -/
def Record.values (record : Record) : String × List (String × String) :=
  (record.id.value, record.wordings.map Wording.values)

/-- The values of the records, in order. -/
def Catalog.values (catalog : Catalog) : List (String × List (String × String)) :=
  catalog.records.map Record.values

end Phrasebook
