import Mathlib.Data.List.Basic
import Phrasebook.Proofs.Catalog.Values
import Phrasebook.Proofs.Json.Reader
import Phrasebook.Run.Basic

/-!
# `Phrasebook.Proofs.Catalog.Asset`: the JSON document says what its catalog says

The JSON document of a catalog is read back. What it holds is `valuesJson`, which
is written out from the values of the catalog: every record and wording in order,
and nothing of their spellings. So two catalogs have the same document only if
they have the same values (`valuesJson_injective`).

`Format.render_json_faithful` also tells how the document is put on lines. It ends with a line
feed, and no other control character is in it. A line feed never stands within a
string: there the reader would refuse it.
-/

set_option autoImplicit false

namespace Phrasebook

/-- The values of a wording as a JSON object. -/
def wordingJson (values : String × String) : Json :=
  .object [("lang", .string values.1), ("text", .string values.2)]

/-- The values of a record as a JSON object. -/
def recordJson (values : String × List (String × String)) : Json :=
  .object [("id", .string values.1), ("variants", .array (values.2.map wordingJson))]

/-- The values of a catalog as a JSON object. -/
def valuesJson (values : List (String × List (String × String))) : Json :=
  .object [("records", .array (values.map recordJson))]

/-- A catalog becomes JSON through its values alone. -/
theorem toJson_eq_valuesJson (catalog : Catalog) : catalog.toJson = valuesJson catalog.values := by
  have hwording : wordingJson ∘ Wording.values = Wording.toJson := rfl
  have hrecord : recordJson ∘ Record.values = Record.toJson := by
    funext record
    rw [Function.comp_apply, recordJson, Record.values, List.map_map, hwording, Record.toJson]
  rw [valuesJson, Catalog.values, List.map_map, hrecord, Catalog.toJson]

/-- The object of a wording tells its values. -/
theorem wordingJson_injective : Function.Injective wordingJson := by
  rintro ⟨lang, text⟩ ⟨lang', text'⟩ h
  simpa [wordingJson] using h

/-- The object of a record tells its values. -/
theorem recordJson_injective : Function.Injective recordJson := by
  rintro ⟨id, wordings⟩ ⟨id', wordings'⟩ h
  simp only [recordJson, Json.object.injEq, List.cons.injEq, Prod.mk.injEq, Json.string.injEq,
    Json.array.injEq, true_and, and_true] at h
  obtain ⟨rfl, hwordings⟩ := h
  rw [wordingJson_injective.list_map hwordings]

/-- A JSON object tells the values that it was made from. -/
theorem valuesJson_injective : Function.Injective valuesJson := by
  intro left right h
  simp only [valuesJson, Json.object.injEq, List.cons.injEq, Prod.mk.injEq, Json.array.injEq,
    true_and, and_true] at h
  exact recordJson_injective.list_map h

/-- The characters of the document. -/
theorem toList_render_json (options : Cascade.Options) (catalog : Catalog) :
    (Format.json.render options catalog).toList
      = Json.layout 0 (valuesJson catalog.values) ++ ['\n'] := by
  rw [← toJson_eq_valuesJson]
  exact String.toList_ofList

/-- The document is read to its end, past its line feed. -/
theorem read?_render_json (options : Cascade.Options) (catalog : Catalog) :
    Json.read? (Format.json.render options catalog).toList
      = some (valuesJson catalog.values) := by
  rw [toList_render_json]
  exact Json.read?_layout (valuesJson catalog.values) ['\n'] (by simp [Json.Reader.blanks])

/-- The JSON document that is written for a catalog, whatever the options are. It is
a JSON object and a line feed, and is read back to the values of the catalog. Its
only control characters are line feeds between the tokens. Another catalog with
the same document has the same values. -/
theorem Format.render_json_faithful (options : Cascade.Options) (catalog : Catalog) :
    (∃ body, (Format.json.render options catalog).toList = body ++ ['\n']
      ∧ body.getLast? = some '\x7d'
      ∧ Json.read? body = some (valuesJson catalog.values))
    ∧ Json.read? (Format.json.render options catalog).toList = some (valuesJson catalog.values)
    ∧ (∀ front c back, (Format.json.render options catalog).toList = front ++ c :: back →
        c.toNat < 0x20 →
        c = '\n' ∧ ∃ place frames, Json.Reader.Reads .start front (.between place frames))
    ∧ ∀ (other : Catalog) (chosen : Cascade.Options),
        Format.json.render chosen other = Format.json.render options catalog →
        other.values = catalog.values := by
  have hchars := toList_render_json options catalog
  have hbody := Json.read?_layout (valuesJson catalog.values) [] (by simp)
  rw [List.append_nil] at hbody
  have hread := read?_render_json options catalog
  refine ⟨⟨_, hchars, ?_, hbody⟩, hread, ?_, ?_⟩
  · -- The object has a member, so its closing bracket comes last, on its own line.
    rw [valuesJson, Json.layout, List.getLast?_append]
    rfl
  · intro front c back hsplit hc
    -- A control character is a line feed, and the reader meets it between two tokens.
    have hfeed : Json.OnlyLineFeeds (Format.json.render options catalog).toList := by
      simp [hchars, Json.onlyLineFeeds_layout]
    rw [hsplit] at hread hfeed
    exact ⟨hfeed c (by simp) hc, Json.exists_between_of_control hread hc⟩
  · intro other chosen hsame
    have hother := read?_render_json chosen other
    rw [hsame, hread] at hother
    exact (valuesJson_injective (Option.some.inj hother)).symm

/-- A catalog with a control character and an empty record, and another spelling of
it. -/
theorem Format.render_json_faithful_respelled :
    ∃ (options : Cascade.Options) (catalog other : Catalog),
      catalog.records = [⟨⟨"\\?\x1f", "?\x1f"⟩, [⟨"fr", ⟨"\\t", "\t"⟩⟩]⟩, ⟨⟨"a", "a"⟩, []⟩]
      ∧ other.records = [⟨⟨"?\x1f", "?\x1f"⟩, [⟨"fr", ⟨"\t", "\t"⟩⟩]⟩, ⟨⟨"a", "a"⟩, []⟩]
      ∧ Format.json.render options other = Format.json.render options catalog
      ∧ Json.read? (Format.json.render options catalog).toList
        = some (.object [("records", .array [
          .object [("id", .string "?\x1f"), ("variants", .array [
            .object [("lang", .string "fr"), ("text", .string "\t")]])],
          .object [("id", .string "a"), ("variants", .array [])]])])
      ∧ other.values = catalog.values := by
  let options : Cascade.Options := ⟨⟨"translate", by decide⟩, ⟨"lang_code", by decide⟩, .global⟩
  let catalog : Catalog := ⟨[⟨⟨"\\?\x1f", "?\x1f"⟩, [⟨"fr", ⟨"\\t", "\t"⟩⟩]⟩, ⟨⟨"a", "a"⟩, []⟩]⟩
  let other : Catalog := ⟨[⟨⟨"?\x1f", "?\x1f"⟩, [⟨"fr", ⟨"\t", "\t"⟩⟩]⟩, ⟨⟨"a", "a"⟩, []⟩]⟩
  have hjson : other.toJson = catalog.toJson := rfl
  have hsame : Format.json.render options other = Format.json.render options catalog :=
    congrArg Json.document hjson
  obtain ⟨-, hread, -, hvalues⟩ := Format.render_json_faithful options catalog
  exact ⟨options, catalog, other, rfl, rfl, hsame, hread, hvalues other options hsame⟩

end Phrasebook
