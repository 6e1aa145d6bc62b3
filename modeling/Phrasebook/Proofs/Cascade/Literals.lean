import Mathlib.Algebra.GroupWithZero.Nat
import Mathlib.Data.List.Basic
import Phrasebook.Proofs.C.Quoted
import Phrasebook.Proofs.Cascade.Program
import Phrasebook.Proofs.Catalog.Soundness
import Phrasebook.Proofs.Catalog.Values

/-!
# `Phrasebook.Proofs.Cascade.Literals`: the generated file says what its catalog says

The literals of the generated file are searched for without reading it as C. They
stand for the values of the catalog: each record gives its message, the language
and the text of each wording, and its message again. This includes the records
and wordings that no call can reach.

* `says_fileLines`: the literals of the file, found line by line.
* `isLine_of_mem_fileLines`: each line that is written is a line of the file.
* `values_of_program_eq`: two files with the same text have the same values. The
  literals alone would not show it, since they do not tell where a record ends.
  The file read as C does.

`source_literals` puts these together.
-/

set_option autoImplicit false

namespace Phrasebook

/-- Every character of an identifier may stand in one. -/
theorem Identifier.continues (x : Identifier) {c : Char} (h : c ∈ x.name.toList) :
    continuesIdentifier c := by
  have hvalid := x.valid
  unfold isIdentifier at hvalid
  cases hname : x.name.toList with
  | nil => rw [hname] at hvalid; cases hvalid
  | cons first rest =>
      rw [hname] at hvalid h
      obtain ⟨hfirst, hrest⟩ := Bool.and_eq_true_iff.mp hvalid
      rcases List.mem_cons.mp h with rfl | h
      · rcases Bool.or_eq_true_iff.mp hfirst with hfirst | hfirst
        · simp [continuesIdentifier, Char.isAlphanum, hfirst]
        · simp [continuesIdentifier, hfirst]
      · exact List.all_eq_true.mp hrest c h

/-- So no quote is in an identifier. -/
theorem Identifier.quote_not_mem (x : Identifier) : '"' ∉ x.name.toList :=
  fun m => absurd (x.continues m) (by decide)

/-- Nor is a line end. -/
theorem Identifier.newline_not_mem (x : Identifier) : '\n' ∉ x.name.toList :=
  fun m => absurd (x.continues m) (by decide)

namespace Cascade

open C (Says Stmt)
open Lines (IsLine)

/-! ### The literals of the file -/

/-- What the literals for a wording stand for. -/
def wordingLiterals (wording : Wording) : List String :=
  [wording.lang, wording.text.value]

/-- What the literals for a record stand for. -/
def recordLiterals (record : Record) : List String :=
  record.id.value :: record.wordings.flatMap wordingLiterals ++ [record.id.value]

/-- The literal for a text that can stand in a file. -/
theorem says_text {text : Text} (h : text.WellFormed) :
    Says (Quote.literal text.source).toList [text.value] :=
  C.says_literal (Text.decodes_of_parse h.parsed) h.oneLine

/-- The literal for a language code. -/
theorem says_lang {lang : String} (h : IsLang lang) :
    Says (Quote.literal lang).toList [lang] := by
  have hnewline : '\n' ∉ lang.toList := fun m => absurd (h.alphanum _ m) (by decide)
  exact C.says_literal (decodes_alphanum h.alphanum) hnewline

/-- `SaysLines lines values`: the literals of `lines` stand for `values`. -/
def SaysLines (lines : List String) (values : List String) : Prop :=
  Says (Lines.join lines).toList values

/-- What lines say in their order, they say together. -/
theorem SaysLines.append {front back : List String} {fronts backs : List String}
    (hf : SaysLines front fronts) (hb : SaysLines back backs) :
    SaysLines (front ++ back) (fronts ++ backs) := by
  rw [SaysLines, Lines.toList_join_append]
  exact Says.append hf hb

/-- The end of a line says nothing. -/
theorem saysLines_singleton {line : String} {values : List String}
    (h : Says line.toList values) : SaysLines [line] values := by
  have hend : Says ['\n'] [] := C.says_plain (by decide)
  -- The line end stands behind the line, so its part is appended.
  have hboth := h.append hend
  rw [List.append_nil] at hboth
  rw [SaysLines, Lines.toList_join_cons]
  exact hboth

/-- What is said for each part of a list is said for the list. -/
theorem saysLines_flatMap {α : Type} {xs : List α} {lines values : α → List String}
    (h : ∀ x ∈ xs, SaysLines (lines x) (values x)) :
    SaysLines (xs.flatMap lines) (xs.flatMap values) := by
  induction xs with
  | nil => exact C.says_plain (by simp [Lines.join])
  | cons x xs ih =>
      exact (h x List.mem_cons_self).append (ih fun y hy => h y (List.mem_cons_of_mem _ hy))

/-- Lines without quotes say nothing. -/
theorem saysLines_plain {lines : List String} (h : ∀ line ∈ lines, '"' ∉ line.toList) :
    SaysLines lines [] := by
  induction lines with
  | nil => exact C.says_plain (by simp [Lines.join])
  | cons line lines ih =>
      have hline := saysLines_singleton (C.says_plain (h line List.mem_cons_self))
      exact hline.append (ih fun l m => h l (List.mem_cons_of_mem _ m))

/-- The language of a wording, and behind it the text. -/
theorem says_wordingLine (options : Options) {wording : Wording} (h : wording.WellFormed) :
    SaysLines [wordingLine options wording] (wordingLiterals wording) := by
  have hname := options.langName.quote_not_mem
  have hcond : Says ("        if (strcmp(" ++ options.langName.name ++ ", ").toList [] :=
    C.says_plain (by simp [hname])
  have hreturn : Says ") == 0) return ".toList [] := C.says_plain (by decide)
  have hend : Says ";".toList [] := C.says_plain (by decide)
  have hline : (wordingLine options wording).toList
      = ("        if (strcmp(" ++ options.langName.name ++ ", ").toList
        ++ ((Quote.literal wording.lang).toList ++ (") == 0) return ".toList
        ++ ((Quote.literal wording.text.source).toList ++ ";".toList))) := by
    -- The line has its own quotes around the language code.
    unfold wordingLine
    simp only [literal_lang h.lang, String.toList_append, List.append_assoc]
    rfl
  refine saysLines_singleton ?_
  rw [hline]
  exact hcond.append <| (says_lang h.lang).append <| hreturn.append <|
    (says_text h.text).append hend

/-- A line with one literal, between texts without quotes. -/
theorem says_around {id : Text} (h : id.WellFormed) (before after : String)
    (hb : '"' ∉ before.toList) (ha : '"' ∉ after.toList) :
    SaysLines [before ++ Quote.literal id.source ++ after] [id.value] := by
  refine saysLines_singleton ?_
  rw [String.toList_append, String.toList_append, List.append_assoc]
  exact (C.says_plain hb).append ((says_text h).append (C.says_plain ha))

/-- A record says its message, its wordings and its message again. -/
theorem says_recordLines (options : Options) {record : Record} (h : record.WellFormed) :
    SaysLines (recordLines options record) (recordLiterals record) := by
  have hcond := says_around h.id "    if (strcmp(msg, " ") == 0) \x7b" (by decide) (by decide)
  have hwordings : SaysLines (record.wordings.map (wordingLine options))
      (record.wordings.flatMap wordingLiterals) := by
    rw [List.map_eq_flatMap]
    exact saysLines_flatMap fun wording hw => says_wordingLine options (h.wordings wording hw)
  have hreturn := says_around h.id "        return " ";" (by decide) (by decide)
  have hclose : SaysLines ["    \x7d"] [] := saysLines_plain (by decide)
  have hall := hcond.append (hwordings.append (hreturn.append hclose))
  -- The lines are taken apart into the portions that have been read.
  have hlines : recordLines options record
      = ["    if (strcmp(msg, " ++ Quote.literal record.id.source ++ ") == 0) \x7b"]
        ++ (record.wordings.map (wordingLine options)
          ++ (["        return " ++ Quote.literal record.id.source ++ ";"] ++ ["    \x7d"])) := by
    simp [recordLines]
  rw [hlines]
  exact hall

/-- The lines before the function have no quotes. -/
theorem quote_not_mem_preamble (options : Options) :
    ∀ line ∈ preamble options, '"' ∉ line.toList := by
  have hname := options.langName.quote_not_mem
  unfold preamble
  cases options.activeLang with
  | global => simp [hname, Release.title, Release.name, Release.version]
  | parameter => simp [Release.title, Release.name, Release.version]

/-- Nor does the line that declares the function. -/
theorem quote_not_mem_signature (options : Options) : '"' ∉ (signature options).toList := by
  have hname := options.langName.quote_not_mem
  have hfunction := options.function.quote_not_mem
  unfold signature
  cases options.activeLang with
  | global => simp [hfunction]
  | parameter => simp [hfunction, hname]

/-- All literals of the file belong to its records. -/
theorem says_fileLines (options : Options) {catalog : Catalog} (h : catalog.WellFormed) :
    SaysLines (fileLines options catalog) (catalog.records.flatMap recordLiterals) := by
  have hfront : SaysLines (preamble options ++ [signature options, "\x7b"]) [] := by
    refine saysLines_plain fun line m => ?_
    simp only [List.mem_append, List.mem_cons, List.not_mem_nil, or_false] at m
    rcases m with m | rfl | rfl
    · exact quote_not_mem_preamble options line m
    · exact quote_not_mem_signature options
    · decide
  have hrecords := saysLines_flatMap fun record hr => says_recordLines options (h record hr)
  have hback : SaysLines ["    return msg;", "\x7d"] [] := saysLines_plain (by decide)
  have hall := (hfront.append hrecords).append hback
  rwa [List.nil_append, List.append_nil] at hall

/-! ### The lines of the file -/

/-- A literal stands on one line if its source does. -/
theorem newline_not_mem_literal {source : String} (h : '\n' ∉ source.toList) :
    '\n' ∉ (Quote.literal source).toList := by
  have hbody : '\n' ∉ Quote.protect false source.toList :=
    fun m => h (C.mem_of_mem_protect (by decide) m)
  simp [Quote.literal, Quote.escape, hbody]

/-- What stands before the function is made of lines. -/
theorem isLine_of_mem_preamble (options : Options) :
    ∀ line ∈ preamble options, IsLine line := by
  have hfixed : ∀ line ∈ ["// " ++ Release.title, "#include <string.h>", ""], IsLine line := by
    intro line m
    simp only [List.mem_cons, List.not_mem_nil, or_false] at m
    rcases m with rfl | rfl | rfl <;> exact ⟨by decide, by decide⟩
  intro line m
  unfold preamble at m
  cases hmode : options.activeLang with
  | parameter =>
      rw [hmode, List.append_nil] at m
      exact hfixed line m
  | global =>
      rw [hmode] at m
      rcases List.mem_append.mp m with m | m
      · exact hfixed line m
      · simp only [List.mem_cons, List.not_mem_nil, or_false] at m
        rcases m with rfl | rfl
        · have hname := options.langName.newline_not_mem
          exact IsLine.append (by simp [hname]) ⟨by decide, by decide⟩ (by decide)
        · exact ⟨by decide, by decide⟩

/-- The declaration of the function is one line, since names are identifiers. -/
theorem isLine_signature (options : Options) : IsLine (signature options) := by
  have hfunction := options.function.newline_not_mem
  have hname := options.langName.newline_not_mem
  unfold signature
  -- A name stands before the last characters in both cases, and a line is told from its
  -- end.
  cases options.activeLang with
  | global =>
      have hend : IsLine ")" := ⟨by decide, by decide⟩
      exact IsLine.append (by simp [hfunction]) hend (by simp)
  | parameter =>
      have hend : IsLine (", const char *" ++ options.langName.name ++ ")") :=
        IsLine.append (by simp [hname]) ⟨by decide, by decide⟩ (by decide)
      exact IsLine.append (by simp [hfunction]) hend (by simp)

/-- Neither a wording nor its language code can break its line. -/
theorem isLine_wordingLine (options : Options) {wording : Wording} (h : wording.WellFormed) :
    IsLine (wordingLine options wording) := by
  have hname := options.langName.newline_not_mem
  have hlang : '\n' ∉ wording.lang.toList := fun m => absurd (h.lang.alphanum _ m) (by decide)
  have htext := newline_not_mem_literal h.text.oneLine
  exact IsLine.append (by simp [hname, hlang, htext]) ⟨by decide, by decide⟩ (by decide)

/-- Each line of a record is one, whatever its texts hold. -/
theorem isLine_of_mem_recordLines (options : Options) {record : Record} (h : record.WellFormed) :
    ∀ line ∈ recordLines options record, IsLine line := by
  have hid := newline_not_mem_literal h.id.oneLine
  intro line m
  simp only [recordLines, List.mem_append, List.mem_cons, List.not_mem_nil, or_false,
    List.mem_map] at m
  rcases m with (rfl | ⟨wording, hw, rfl⟩) | rfl | rfl
  · exact IsLine.append (by simp [hid]) ⟨by decide, by decide⟩ (by decide)
  · exact isLine_wordingLine options (h.wordings wording hw)
  · exact IsLine.append (by simp [hid]) ⟨by decide, by decide⟩ (by decide)
  · exact ⟨by decide, by decide⟩

/-- What is written on a line is a line. -/
theorem isLine_of_mem_fileLines (options : Options) {catalog : Catalog} (h : catalog.WellFormed) :
    ∀ line ∈ fileLines options catalog, IsLine line := by
  intro line m
  simp only [fileLines, List.mem_append, List.mem_cons, List.not_mem_nil, or_false,
    List.mem_flatMap] at m
  rcases m with ((m | rfl | rfl) | ⟨record, hr, m⟩) | rfl | rfl
  · exact isLine_of_mem_preamble options line m
  · exact isLine_signature options
  · exact ⟨by decide, by decide⟩
  · exact isLine_of_mem_recordLines options (h record hr) line m
  · exact ⟨by decide, by decide⟩
  · exact ⟨by decide, by decide⟩

/-- The number of lines that every file has. -/
def fixedLines : ActiveLang → Nat
  | .global => 9
  | .parameter => 7

/-- Each record has three lines of its own and one for each wording. -/
theorem length_fileLines (options : Options) (catalog : Catalog) :
    (fileLines options catalog).length
      = fixedLines options.activeLang
        + (catalog.records.map fun record => 3 + record.wordings.length).sum := by
  have hrecord : ∀ record : Record,
      (recordLines options record).length = 3 + record.wordings.length := by
    intro record
    simp only [recordLines, List.length_append, List.length_cons, List.length_nil,
      List.length_map]
    omega
  have hfixed : (preamble options).length + 4 = fixedLines options.activeLang := by
    unfold preamble
    cases options.activeLang <;> rfl
  simp only [fileLines, List.length_append, List.length_flatMap, hrecord, List.length_cons,
    List.length_nil]
  omega

/-! ### The values of the file -/

/-- The statement for a record, made from its values. -/
def valuesStmt (options : Options) (values : String × List (String × String)) : Stmt :=
  .onEqual (.name messageName) (.literal values.1)
    (.block (values.2.map (fun (lang, text) =>
        .onEqual (.name options.langName) (.literal lang) (.ret (.literal text)))
      ++ [.ret (.literal values.1)]))

/-- The statement for a record is made from its values alone. -/
theorem valuesStmt_values (options : Options) (record : Record) :
    valuesStmt options record.values = recordStmt options record := by
  simp [valuesStmt, Record.values, Wording.values, recordStmt, recordBlock, wordingStmt]

/-- The statement for a record tells its values. -/
theorem valuesStmt_injective (options : Options) : Function.Injective (valuesStmt options) := by
  intro left right h
  simp only [valuesStmt, Stmt.onEqual.injEq, C.Expr.literal.injEq, Stmt.block.injEq] at h
  obtain ⟨-, hid, hblock⟩ := h
  rw [hid] at hblock
  -- The wordings stand before the last statement of the block, one statement for each.
  have hinjective : Function.Injective fun (lang, text) =>
      Stmt.onEqual (.name options.langName) (.literal lang) (.ret (.literal text)) := by
    rintro ⟨lang, text⟩ ⟨other, wording⟩ h
    simpa using h
  have hwordings := hinjective.list_map (List.append_cancel_right hblock)
  exact Prod.ext hid hwordings

/-- A program tells the values of its catalog. -/
theorem values_of_program_eq {options : Options} {catalog other : Catalog}
    (h : program options catalog = program options other) : catalog.values = other.values := by
  have hbody : bodyStmts options catalog = bodyStmts options other := by
    simp only [program, C.Program.mk.injEq] at h
    have hitem := List.append_cancel_left h
    simp only [List.cons.injEq, C.Item.function.injEq, and_true] at hitem
    exact congrArg C.Function.body hitem
  -- The statements of the function are those of the records and one more.
  have hstmts : ∀ c : Catalog,
      c.records.map (recordStmt options) = c.values.map (valuesStmt options) := by
    intro c
    rw [Catalog.values, List.map_map]
    exact List.map_congr_left fun record _ => (valuesStmt_values options record).symm
  have hrecords := List.append_cancel_right hbody
  rw [hstmts, hstmts] at hrecords
  exact (valuesStmt_injective options).list_map hrecords

/-- The generated file for an accepted source, read back. Its literals, searched for
from its start, all decode, and stand for the values of the catalog, each record
with its message at both ends. None goes over a line end, so the lines are those
that were written. If another accepted source gives the same file, it has the
same values. -/
theorem source_literals {text : String} {reading : Reading} (h : Catalog.parse text = .ok reading)
    (options : Options) :
    (∃ bodies, C.literals? (source options reading.catalog).toList = some bodies
      ∧ bodies.map C.bodyValue = (reading.catalog.records.flatMap recordLiterals).map .ok
      ∧ ∀ body ∈ bodies, '\n' ∉ body)
    ∧ Lines.split (source options reading.catalog).toList
        = (fileLines options reading.catalog).map String.toList
    ∧ (fileLines options reading.catalog).length
        = fixedLines options.activeLang
          + (reading.catalog.records.map fun record => 3 + record.wordings.length).sum
    ∧ ∀ (other : String) (second : Reading), Catalog.parse other = .ok second →
        source options second.catalog = source options reading.catalog →
        second.catalog.values = reading.catalog.values := by
  have hwell := Catalog.wellFormed_of_parse h
  refine ⟨(says_fileLines options hwell).exists_literals,
    Lines.split_join (isLine_of_mem_fileLines options hwell), length_fileLines options _, ?_⟩
  intro other second hother hsource
  -- The same file is read as C to one program, and this has the values of both catalogs.
  have hread := read_source options hwell
  rw [← hsource, read_source options (Catalog.wellFormed_of_parse hother)] at hread
  exact values_of_program_eq (Option.some.inj hread)

/-- Two spellings of a quote and a backslash give the same file. The second record
is in it, though no call reaches it. -/
theorem source_literals_respelled :
    ∃ (options : Options) (reading second : Reading),
      Catalog.parse "ID:\"\\\\\nfr:a\rb\n---\nID:\"\\\\\n---\n" = .ok reading
      ∧ Catalog.parse "ID:\\\"\\\\\nfr:a\rb\n---\nID:\"\\\\\n---\n" = .ok second
      ∧ source options second.catalog = source options reading.catalog
      ∧ (∃ bodies, C.literals? (source options reading.catalog).toList = some bodies
        ∧ bodies.map C.bodyValue
          = (["\"\\", "fr", "a\rb", "\"\\", "\"\\", "\"\\"] : List String).map .ok)
      ∧ (Lines.split (source options reading.catalog).toList).length = 16
      ∧ second.catalog.values = reading.catalog.values := by
  let options : Options := ⟨⟨"translate", by decide⟩, ⟨"lang_code", by decide⟩, .global⟩
  let id : Text := ⟨"\"\\\\", "\"\\"⟩
  let respelled : Text := ⟨"\\\"\\\\", "\"\\"⟩
  let wordings : List Wording := [⟨"fr", ⟨"a\rb", "a\rb"⟩⟩]
  have hparse : Catalog.parse "ID:\"\\\\\nfr:a\rb\n---\nID:\"\\\\\n---\n"
      = .ok ⟨⟨[⟨id, wordings⟩, ⟨id, []⟩]⟩, [.duplicateRecord 4 id.source]⟩ := rfl
  have hother : Catalog.parse "ID:\\\"\\\\\nfr:a\rb\n---\nID:\"\\\\\n---\n"
      = .ok ⟨⟨[⟨respelled, wordings⟩, ⟨id, []⟩]⟩, [.duplicateRecord 4 id.source]⟩ := rfl
  -- The two spellings differ by a backslash that the writer adds.
  have hescape : Quote.escape "\\\"\\\\" = Quote.escape "\"\\\\" := rfl
  have hquote : Quote.literal respelled.source = Quote.literal id.source := by
    show Quote.literal "\\\"\\\\" = Quote.literal "\"\\\\"
    rw [Quote.literal, hescape, Quote.literal]
  have hsource : source options ⟨[⟨respelled, wordings⟩, ⟨id, []⟩]⟩
      = source options ⟨[⟨id, wordings⟩, ⟨id, []⟩]⟩ := by
    simp only [source, fileLines, List.flatMap_cons, recordLines, hquote]
  obtain ⟨⟨bodies, hbodies, hvalues, -⟩, hlines, hlength, hsame⟩ :=
    source_literals hparse options
  refine ⟨options, _, _, hparse, hother, hsource, ⟨bodies, hbodies, hvalues⟩, ?_,
    hsame _ _ hother hsource⟩
  rw [hlines, List.length_map, hlength]
  rfl

end Cascade

end Phrasebook
