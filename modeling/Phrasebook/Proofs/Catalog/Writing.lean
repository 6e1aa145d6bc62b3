import Phrasebook.Proofs.Catalog.Completeness
import Phrasebook.Proofs.Catalog.Values
import Phrasebook.Proofs.Table
import Phrasebook.Proofs.Text.Spelling

/-!
# `Phrasebook.Proofs.Catalog.Writing`: a file for every table of messages

Messages and their wordings may hold any characters. `Catalog.ofValues` spells them
with escapes, and `writeTable` writes the lines of this catalog. The lines do not hide
a line end (`isLine_of_mem_tableLines`), so the file is cut into them again, and the
catalog is read back. Its values are those that were written, and so are the answers
of its table: `writeTable_read`.
-/

set_option autoImplicit false

namespace Phrasebook

/-! ### Catalogs with given values -/

/-- A wording with a given language and text. -/
def Wording.ofValues (values : String × String) : Wording :=
  ⟨values.1, Text.spell values.2, values.2⟩

/-- A record with a given message and given wordings. -/
def Record.ofValues (values : String × List (String × String)) : Record :=
  ⟨⟨Text.spell values.1, values.1⟩, values.2.map Wording.ofValues⟩

/-- A catalog with given messages and wordings. -/
def Catalog.ofValues (table : List (String × List (String × String))) : Catalog :=
  ⟨table.map Record.ofValues⟩

/-- A record has the values that it was made from. -/
theorem Record.values_ofValues (values : String × List (String × String)) :
    (Record.ofValues values).values = values := by
  have hwordings : (values.2.map Wording.ofValues).map Wording.values = values.2 := by
    rw [List.map_map]
    exact List.map_id _
  show (values.1, (values.2.map Wording.ofValues).map Wording.values) = values
  rw [hwordings]

/-- So has a catalog. -/
theorem Catalog.values_ofValues (table : List (String × List (String × String))) :
    (Catalog.ofValues table).values = table := by
  have hrecords : Record.values ∘ Record.ofValues = id := funext Record.values_ofValues
  rw [values, ofValues, List.map_map, hrecords, List.map_id]

/-- Any text can be spelled in a file. -/
theorem Text.wellFormed_spell (value : String) :
    Text.WellFormed ⟨Text.spell value, value⟩ where
  parsed := parse_spell value
  oneLine := lineEnd_not_mem_spell (.inl rfl) value

/-- Tables whose messages are not empty and whose languages are two letters or digits can
be written in a file. -/
theorem Catalog.wellFormed_ofValues {table : List (String × List (String × String))}
    (h : ∀ entry ∈ table, entry.1 ≠ "" ∧ ∀ wording ∈ entry.2, IsLang wording.1) :
    (Catalog.ofValues table).WellFormed := by
  intro record hrecord
  obtain ⟨entry, hentry, rfl⟩ := List.mem_map.mp hrecord
  obtain ⟨hmessage, hlangs⟩ := h entry hentry
  refine ⟨Text.spell_ne_empty hmessage, Text.wellFormed_spell entry.1, ?_⟩
  intro wording hwording
  obtain ⟨values, hvalues, rfl⟩ := List.mem_map.mp hwording
  exact ⟨hlangs values hvalues, Text.wellFormed_spell values.2⟩

/-! ### The file of a table -/

/-- The lines for a message and its wordings. -/
def entryLines (entry : String × List (String × String)) : List String :=
  ("ID:" ++ Text.spell entry.1) :: entry.2.map (fun (lang, text) => lang ++ ":" ++ Text.spell text)
    ++ ["---"]

/-- The file for a table of messages. -/
def writeTable (table : List (String × List (String × String))) : String :=
  Lines.join (table.flatMap entryLines)

/-- The lines for a message are those of its record. -/
theorem toList_entryLines (entry : String × List (String × String)) :
    (entryLines entry).map String.toList = (Record.ofValues entry).lines := by
  have hwordings : (entry.2.map fun (lang, text) => lang ++ ":" ++ Text.spell text).map
      String.toList = (entry.2.map Wording.ofValues).map Wording.line := by
    rw [List.map_map, List.map_map]
    refine List.map_congr_left fun values _ => ?_
    simp [Wording.ofValues, Wording.line]
  rw [entryLines, List.map_append, List.map_cons, hwordings, String.toList_append]
  rfl

/-- The lines for all messages are those of the catalog. -/
theorem toList_tableLines (table : List (String × List (String × String))) :
    (table.flatMap entryLines).map String.toList = (Catalog.ofValues table).lines := by
  rw [List.map_flatMap, Catalog.lines, Catalog.ofValues, List.flatMap_map]
  exact List.flatMap_congr fun entry _ => toList_entryLines entry

/-- No line ends within one of these lines. -/
theorem lineEnd_not_mem_entryLines {entry : String × List (String × String)}
    (h : ∀ wording ∈ entry.2, IsLang wording.1) {c : Char} (hc : c = '\n' ∨ c = '\r')
    {line : String} (hline : line ∈ entryLines entry) : c ∉ line.toList := by
  have hspell : ∀ value, c ∉ (Text.spell value).toList := Text.lineEnd_not_mem_spell hc
  rcases List.mem_append.mp hline with hline | hline
  · rcases List.mem_cons.mp hline with rfl | hline
    · have hmark : c ∉ "ID:".toList := by
        rcases hc with rfl | rfl <;> decide
      simp only [String.toList_append, List.mem_append, hmark, hspell, or_self, not_false_iff]
    · obtain ⟨⟨lang, text⟩, hwording, rfl⟩ := List.mem_map.mp hline
      have hlang : c ∉ lang.toList := by
        intro m
        have halphanum := (h _ hwording).alphanum c m
        revert halphanum
        rcases hc with rfl | rfl <;> decide
      have hcolon : c ∉ ":".toList := by
        rcases hc with rfl | rfl <;> decide
      simp only [String.toList_append, List.mem_append, hlang, hcolon, hspell, or_self,
        not_false_iff]
  · rw [List.mem_singleton.mp hline]
    rcases hc with rfl | rfl <;> decide

/-- Each of these lines stays one line in the file. -/
theorem isLine_of_mem_tableLines {table : List (String × List (String × String))}
    (h : ∀ entry ∈ table, ∀ wording ∈ entry.2, IsLang wording.1) :
    ∀ line ∈ table.flatMap entryLines, Lines.IsLine line := by
  intro line hline
  obtain ⟨entry, hentry, hline⟩ := List.mem_flatMap.mp hline
  refine ⟨lineEnd_not_mem_entryLines (h entry hentry) (.inl rfl) hline, ?_⟩
  intro hlast
  exact lineEnd_not_mem_entryLines (h entry hentry) (.inr rfl) hline
    (List.mem_of_getLast? hlast)

/-- A file of records alone has no blank lines. -/
theorem spaced_lines (records : List Record) :
    Spaced records (Catalog.lines ⟨records⟩) := by
  induction records with
  | nil => exact .nil
  | cons record records ih => exact .record record ih

/-- The file of a table is cut into the lines of its catalog. -/
theorem ofFile_writeTable {table : List (String × List (String × String))}
    (h : ∀ entry ∈ table, ∀ wording ∈ entry.2, IsLang wording.1) :
    Lines.ofFile (writeTable table) = (Catalog.ofValues table).lines := by
  have hmark : Lines.dropMark (writeTable table).toList = (writeTable table).toList := by
    cases table with
    | nil => rfl
    | cons entry table =>
        -- The first line is a header.
        rw [writeTable, List.flatMap_cons, entryLines, List.cons_append, List.cons_append,
          Lines.toList_join_cons, String.toList_append]
        rfl
  rw [Lines.ofFile, hmark, writeTable, Lines.split_join (isLine_of_mem_tableLines h),
    toList_tableLines]

namespace Catalog

/-- What the table of a catalog answers is told by the values of the catalog. -/
theorem lookup_eq_of_values (catalog : Catalog) (message lang : String) :
    (Table.ofCatalog catalog).lookup message lang
      = (((catalog.values.find? fun entry => entry.1 == message).bind fun entry =>
          entry.2.find? fun wording => wording.1 == lang).map Prod.snd).getD message := by
  -- To search the values by their keys is to search the records by theirs.
  have hrecord : (catalog.values.find? fun entry => entry.1 == message)
      = (catalog.recordFor? message).map Record.values := by
    rw [values, List.find?_map]
    rfl
  have hwording (record : Record) : (record.values.2.find? fun wording => wording.1 == lang)
      = (record.wordingFor? lang).map Wording.values := by
    rw [Record.values, List.find?_map]
    rfl
  rw [Table.lookup_eq_firstMatch, firstMatch, hrecord]
  cases catalog.recordFor? message with
  | none => rfl
  | some record =>
      rw [Option.map_some, Option.bind_some, hwording, Option.map_map]
      dsimp only
      cases record.wordingFor? lang with
      | none => rfl
      | some wording => rfl

/-- Every value has a spelling that is read back, holds no line end, and goes into a
literal as it is. So every table of messages can be written in a file, if no message is
empty and every language is two letters or digits. From the file exactly its values are
read, in this order, and the table of the file answers with the first of them. -/
theorem writeTable_read :
    (∀ value : String, Text.parse (Text.spell value) = .ok ⟨Text.spell value, value⟩
        ∧ '\n' ∉ (Text.spell value).toList ∧ '\r' ∉ (Text.spell value).toList
        ∧ Quote.escape (Text.spell value) = Text.spell value)
      ∧ ∀ table : List (String × List (String × String)),
        (∀ entry ∈ table, entry.1 ≠ "" ∧ ∀ wording ∈ entry.2, IsLang wording.1) →
        ∃ reading, parse (writeTable table) = .ok reading
          ∧ reading.catalog.values = table
          ∧ ∀ message lang, (Table.ofCatalog reading.catalog).lookup message lang
            = (((table.find? fun entry => entry.1 == message).bind fun entry =>
                entry.2.find? fun wording => wording.1 == lang).map Prod.snd).getD message := by
  constructor
  · intro value
    exact ⟨Text.parse_spell value, Text.lineEnd_not_mem_spell (.inl rfl) value,
      Text.lineEnd_not_mem_spell (.inr rfl) value, Text.escape_spell value⟩
  · intro table h
    have hspaced : Spaced (ofValues table).records (Lines.ofFile (writeTable table)) := by
      rw [ofFile_writeTable fun entry hentry => (h entry hentry).2]
      exact spaced_lines _
    obtain ⟨warnings, hparse⟩ := parse_of_spaced (wellFormed_ofValues h) hspaced
    refine ⟨_, hparse, values_ofValues table, ?_⟩
    intro message lang
    rw [lookup_eq_of_values, values_ofValues]

/-- A message and a text with line ends in them, a text that looks like a terminator, and
duplicates. -/
theorem writeTable_read_lineEnds :
    ∃ table reading,
      table = [("a\n\"", [("fr", "---\r"), ("fr", "x")]), ("a\n\"", [("de", "y")])]
        ∧ writeTable table = "ID:a\\n\\\"\nfr:---\\r\nfr:x\n---\nID:a\\n\\\"\nde:y\n---\n"
        ∧ parse (writeTable table) = .ok reading ∧ reading.catalog.values = table
        ∧ (Table.ofCatalog reading.catalog).lookup "a\n\"" "fr" = "---\r"
        ∧ (Table.ofCatalog reading.catalog).lookup "a\n\"" "de" = "a\n\"" := by
  have hfr : IsLang "fr" := ⟨rfl, by simp [Char.isAlphanum], by decide⟩
  have hde : IsLang "de" := ⟨rfl, by simp [Char.isAlphanum], by decide⟩
  have hentries : ∀ entry ∈ [("a\n\"", [("fr", "---\r"), ("fr", "x")]), ("a\n\"", [("de", "y")])],
      entry.1 ≠ "" ∧ ∀ wording ∈ entry.2, IsLang wording.1 := by
    simp only [List.forall_mem_cons]
    exact ⟨⟨by decide, hfr, hfr, by simp⟩, ⟨by decide, hde, by simp⟩, by simp⟩
  obtain ⟨reading, hparse, hvalues, hlookup⟩ := writeTable_read.2 _ hentries
  exact ⟨_, reading, rfl, rfl, hparse, hvalues, (hlookup _ _).trans rfl, (hlookup _ _).trans rfl⟩

end Catalog

end Phrasebook
