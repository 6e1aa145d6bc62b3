import Phrasebook.Cascade.Source
import Phrasebook.Proofs.C.Syntax
import Phrasebook.Proofs.Cascade.Quote
import Phrasebook.Proofs.Catalog.Written

/-!
# `Phrasebook.Proofs.Cascade.Program`: the generated file as a C program

`Cascade.program` is the program that the generated file is meant to be, with
literals that stand for the decoded texts of the catalog. `read_source` shows
that the file is read as this program, for every catalog that can be written in a
file.

The file is read line by line. `Lexes lines ts` tells that `lines` are read as the
tokens `ts`, and is proved for each kind of line from its pieces: fixed text, a
name of the options, or a literal.
-/

set_option autoImplicit false

namespace Phrasebook.Cascade

open C (Stmt Token Scan)

/-! ### The program -/

/-- The parameter that holds the message. -/
def messageName : Identifier := ⟨"msg", by decide⟩

/-- The statement for a wording. -/
def wordingStmt (options : Options) (wording : Wording) : Stmt :=
  .onEqual (.name options.langName) (.literal wording.lang) (.ret (.literal wording.text.value))

/-- The block for a record, which returns in any case. -/
def recordBlock (options : Options) (record : Record) : Stmt :=
  .block (record.wordings.map (wordingStmt options) ++ [.ret (.literal record.id.value)])

/-- The statement for a record. -/
def recordStmt (options : Options) (record : Record) : Stmt :=
  .onEqual (.name messageName) (.literal record.id.value) (recordBlock options record)

/-- The body of the function. -/
def bodyStmts (options : Options) (catalog : Catalog) : List Stmt :=
  catalog.records.map (recordStmt options) ++ [.ret (.name messageName)]

/-- The variables that the file declares. -/
def globals (options : Options) : List Identifier :=
  match options.activeLang with
  | .global => [options.langName]
  | .parameter => []

/-- The parameters behind the message. -/
def parameters (options : Options) : List Identifier :=
  match options.activeLang with
  | .global => []
  | .parameter => [options.langName]

/-- The generated function. -/
def function (options : Options) (catalog : Catalog) : C.Function where
  name := options.function
  first := messageName
  others := parameters options
  body := bodyStmts options catalog

/-- The generated file. -/
def program (options : Options) (catalog : Catalog) : C.Program :=
  ⟨.directive "include <string.h>" :: (globals options).map .global
    ++ [.function (function options catalog)]⟩

/-! ### Lines -/

/-- `Lexes lines ts`: at the beginning of a line, `lines` are read as `ts`. -/
def Lexes (lines : List String) (ts : List Token) : Prop :=
  Scan.run (.between true) (Lines.join lines).toList = some (.between true, ts)

/-- Lines that are read one after the other give their tokens in this order. -/
theorem Lexes.append {front back : List String} {ts us : List Token} (hf : Lexes front ts)
    (hb : Lexes back us) : Lexes (front ++ back) (ts ++ us) := by
  rw [Lexes, Lines.toList_join_append]
  exact Scan.run_append hf hb

/-- One line is read from its characters and a line feed. -/
theorem lexes_singleton {line : String} {ts : List Token}
    (h : Scan.run (.between true) (line.toList ++ ['\n']) = some (.between true, ts)) :
    Lexes [line] ts := by
  rw [Lexes, Lines.toList_join_cons]
  exact h

/-- Portions of lines, each read by itself, are read in a row. -/
theorem lexes_flatMap {α : Type} {xs : List α} {lines : α → List String} {ts : α → List Token}
    (h : ∀ x ∈ xs, Lexes (lines x) (ts x)) : Lexes (xs.flatMap lines) (xs.flatMap ts) := by
  induction xs with
  | nil => rfl
  | cons x xs ih =>
      exact (h x List.mem_cons_self).append (ih fun y hy => h y (List.mem_cons_of_mem _ hy))

/-! ### Literals -/

/-- The literal of a text stands for its value. -/
theorem run_text {text : Text} (h : text.WellFormed) (fresh : Bool) :
    Scan.run (.between fresh) (Quote.literal text.source).toList
      = some (.between false, [.literal text.value]) :=
  Scan.run_literal (Text.decodes_of_parse h.parsed) h.oneLine fresh

/-- A text of letters and digits stands for itself. -/
theorem decodes_alphanum {chars : List Char} (h : ∀ c ∈ chars, c.isAlphanum) :
    Escape.Decodes chars chars :=
  Escape.decodes_self fun m => absurd (h _ m) (by decide)

/-- The quotes around a language code are all that its literal needs. -/
theorem literal_lang {lang : String} (h : IsLang lang) :
    Quote.literal lang = "\"" ++ lang ++ "\"" := by
  have hquote : '"' ∉ lang.toList := fun m => absurd (h.alphanum _ m) (by decide)
  rw [Quote.literal, Quote.escape, Quote.protect_eq_self hquote, String.ofList_toList]

/-- The literal of a language code stands for the code. -/
theorem run_lang {lang : String} (h : IsLang lang) (fresh : Bool) :
    Scan.run (.between fresh) (Quote.literal lang).toList
      = some (.between false, [.literal lang]) := by
  have hnewline : '\n' ∉ lang.toList := fun m => absurd (h.alphanum _ m) (by decide)
  exact Scan.run_literal (decodes_alphanum h.alphanum) hnewline fresh

/-! ### The lines of a record -/

/-- The line of a wording compares the language and returns the text. -/
theorem lexes_wordingLine (options : Options) {wording : Wording} (h : wording.WellFormed) :
    Lexes [wordingLine options wording] (wordingStmt options wording).tokens := by
  have hcond : Scan.run (.between true) "        if (strcmp(".toList
      = some (.between false, [.word "if", .mark '(', .word "strcmp", .mark '(']) := rfl
  -- A name is read together with the mark that ends it.
  have hname : Scan.run (.between false) (options.langName.name.toList ++ [','])
      = some (.between false, [.word options.langName.name, .mark ',']) :=
    Scan.run_identifier_mark false options.langName (by decide)
  have hblank : Scan.run (.between false) [' '] = some (.between false, []) := rfl
  have hreturn : Scan.run (.between false) ") == 0) return ".toList
      = some (.between false,
          [.mark ')', .equal, .word "0", .mark ')', .word "return"]) := rfl
  have hend : Scan.run (.between false) [';', '\n'] = some (.between true, [.mark ';']) := rfl
  have hline : (wordingLine options wording).toList ++ ['\n']
      = "        if (strcmp(".toList ++ ((options.langName.name.toList ++ [','])
          ++ ([' '] ++ ((Quote.literal wording.lang).toList ++ (") == 0) return ".toList
          ++ ((Quote.literal wording.text.source).toList ++ [';', '\n']))))) := by
    -- The line has its own quotes around the language code.
    unfold wordingLine
    simp only [literal_lang h.lang, String.toList_append, List.append_assoc]
    rfl
  -- Each piece leaves the scanner between two tokens, where the next one begins.
  have hrun := Scan.run_append hcond <| Scan.run_append hname <| Scan.run_append hblank <|
    Scan.run_append (run_lang h.lang false) <| Scan.run_append hreturn <|
    Scan.run_append (run_text h.text false) hend
  rw [← hline] at hrun
  exact lexes_singleton hrun

/-- The line that compares the message with an id. -/
theorem lexes_condition {id : Text} (h : id.WellFormed) :
    Lexes ["    if (strcmp(msg, " ++ Quote.literal id.source ++ ") == 0) \x7b"]
      [.word "if", .mark '(', .word "strcmp", .mark '(', .word "msg", .mark ',',
        .literal id.value, .mark ')', .equal, .word "0", .mark ')', .mark '\x7b'] := by
  have hbefore : Scan.run (.between true) "    if (strcmp(msg, ".toList
      = some (.between false, [.word "if", .mark '(', .word "strcmp", .mark '(',
          .word "msg", .mark ',']) := rfl
  have hafter : Scan.run (.between false) (") == 0) \x7b".toList ++ ['\n'])
      = some (.between true,
          [.mark ')', .equal, .word "0", .mark ')', .mark '\x7b']) := rfl
  have hrun := Scan.run_append hbefore (Scan.run_append (run_text h false) hafter)
  refine lexes_singleton ?_
  rw [String.toList_append, String.toList_append, List.append_assoc, List.append_assoc]
  exact hrun

/-- The line that returns an id. -/
theorem lexes_return {id : Text} (h : id.WellFormed) :
    Lexes ["        return " ++ Quote.literal id.source ++ ";"]
      [.word "return", .literal id.value, .mark ';'] := by
  have hbefore : Scan.run (.between true) "        return ".toList
      = some (.between false, [.word "return"]) := rfl
  have hafter : Scan.run (.between false) (";".toList ++ ['\n'])
      = some (.between true, [.mark ';']) := rfl
  have hrun := Scan.run_append hbefore (Scan.run_append (run_text h false) hafter)
  refine lexes_singleton ?_
  rw [String.toList_append, String.toList_append, List.append_assoc, List.append_assoc]
  exact hrun

/-- The lines of a record are its statement. -/
theorem lexes_recordLines (options : Options) {record : Record} (h : record.WellFormed) :
    Lexes (recordLines options record) (recordStmt options record).tokens := by
  have hwordings : Lexes (record.wordings.map (wordingLine options))
      ((record.wordings.map (wordingStmt options)).flatMap Stmt.tokens) := by
    rw [List.map_eq_flatMap, List.flatMap_map]
    exact lexes_flatMap fun wording hw => lexes_wordingLine options (h.wordings wording hw)
  have hclose : Lexes ["    \x7d"] [.mark '\x7d'] := lexes_singleton rfl
  have hall := (lexes_condition h.id).append <| hwordings.append <|
    (lexes_return h.id).append hclose
  -- Without its type the list of tokens would be elaborated anew at every `++`.
  have htokens : (recordStmt options record).tokens
      = ([.word "if", .mark '(', .word "strcmp", .mark '(', .word "msg", .mark ',',
          .literal record.id.value, .mark ')', .equal, .word "0", .mark ')',
          .mark '\x7b'] : List C.Token)
        ++ ((record.wordings.map (wordingStmt options)).flatMap Stmt.tokens
          ++ (([.word "return", .literal record.id.value, .mark ';'] : List C.Token)
            ++ ([.mark '\x7d'] : List C.Token))) := by
    rw [recordStmt, Stmt.tokens, recordBlock, Stmt.tokens, Stmt.listTokens_append]
    rfl
  have hlines : recordLines options record
      = ["    if (strcmp(msg, " ++ Quote.literal record.id.source ++ ") == 0) \x7b"]
        ++ (record.wordings.map (wordingLine options)
          ++ (["        return " ++ Quote.literal record.id.source ++ ";"] ++ ["    \x7d"])) := by
    unfold recordLines
    rw [List.append_assoc]
    rfl
  rw [htokens, hlines]
  exact hall

/-! ### The file -/

/-- The declaration of a variable, and the empty line behind it. -/
theorem lexes_declaration (x : Identifier) :
    Lexes ["const char *" ++ x.name ++ ";", ""] (C.Item.global x).tokens := by
  have htype : Scan.run (.between true) "const char *".toList
      = some (.between false, [.word "const", .word "char", .mark '*']) := rfl
  -- The name could go on with a letter, so it is read with the mark behind it.
  have hname := Scan.run_identifier_mark false x (c := ';') (by decide)
  have hend : Scan.run (.between false) ['\n'] = some (.between true, []) := rfl
  have hrun := Scan.run_append htype (Scan.run_append hname hend)
  rw [List.append_assoc] at hrun
  have hline : Lexes ["const char *" ++ x.name ++ ";"] (C.Item.global x).tokens := by
    refine lexes_singleton ?_
    rw [String.toList_append, String.toList_append, List.append_assoc, List.append_assoc]
    exact hrun
  have hempty : Lexes [""] [] := lexes_singleton rfl
  exact hline.append hempty

/-- The lines before the function include a header, and declare the language if it is a
global variable. -/
theorem lexes_preamble (options : Options) :
    Lexes (preamble options)
      (.directive "include <string.h>"
        :: ((globals options).map C.Item.global).flatMap C.Item.tokens) := by
  have hfixed : Lexes ["// " ++ Release.title, "#include <string.h>", ""]
      [.directive "include <string.h>"] := rfl
  unfold preamble globals
  cases options.activeLang with
  | global => exact hfixed.append (lexes_declaration options.langName)
  | parameter => exact hfixed

/-- The line of the function declares its parameters, and the language behind the
message if it is one of them. -/
theorem lexes_signature (options : Options) :
    Lexes [signature options]
      (C.declarator options.function ++ .mark '('
        :: (C.declarator messageName ++ C.paramTokens (parameters options))) := by
  have htype : Scan.run (.between true) "const char *".toList
      = some (.between false, [.word "const", .word "char", .mark '*']) := rfl
  have hname := Scan.run_identifier_mark false options.function (c := '(') (by decide)
  refine lexes_singleton ?_
  unfold signature parameters
  -- Up to the message both ways to declare the function are the same.
  cases options.activeLang with
  | global =>
      have hfirst : Scan.run (.between false) "const char *msg)\n".toList
          = some (.between true,
              [.word "const", .word "char", .mark '*', .word "msg", .mark ')']) := rfl
      have hrun := Scan.run_append htype (Scan.run_append hname hfirst)
      simp only [List.append_assoc] at hrun
      simp only [String.toList_append, List.append_assoc]
      exact hrun
  | parameter =>
      have hfirst : Scan.run (.between false) "const char *msg, const char *".toList
          = some (.between false,
              [.word "const", .word "char", .mark '*', .word "msg", .mark ',',
                .word "const", .word "char", .mark '*']) := rfl
      have hlang := Scan.run_identifier_mark false options.langName (c := ')') (by decide)
      have hend : Scan.run (.between false) ['\n'] = some (.between true, []) := rfl
      have hrun := Scan.run_append htype <| Scan.run_append hname <|
        Scan.run_append hfirst <| Scan.run_append hlang hend
      simp only [List.append_assoc] at hrun
      simp only [String.toList_append, List.append_assoc]
      exact hrun

/-- The lines of the file are the program. -/
theorem lexes_fileLines (options : Options) {catalog : Catalog} (h : catalog.WellFormed) :
    Lexes (fileLines options catalog) (program options catalog).tokens := by
  have hopen : Lexes ["\x7b"] [.mark '\x7b'] := lexes_singleton rfl
  have hrecords : Lexes (catalog.records.flatMap (recordLines options))
      ((catalog.records.map (recordStmt options)).flatMap Stmt.tokens) := by
    rw [List.flatMap_map]
    exact lexes_flatMap fun record hr => lexes_recordLines options (h record hr)
  have hlast : Lexes ["    return msg;", "\x7d"]
      [.word "return", .word "msg", .mark ';', .mark '\x7d'] := rfl
  have hall := (lexes_preamble options).append <| (lexes_signature options).append <|
    hopen.append <| hrecords.append hlast
  have hbody : Stmt.listTokens (bodyStmts options catalog)
      = (catalog.records.map (recordStmt options)).flatMap Stmt.tokens
        ++ ([.word "return", .word "msg", .mark ';', .mark '\x7d'] : List C.Token) := by
    rw [bodyStmts, Stmt.listTokens_append]
    rfl
  -- The tokens and the lines are cut at the same places.
  have htokens : (program options catalog).tokens
      = (.directive "include <string.h>"
          :: ((globals options).map C.Item.global).flatMap C.Item.tokens)
        ++ ((C.declarator options.function ++ .mark '('
            :: (C.declarator messageName ++ C.paramTokens (parameters options)))
          ++ ([.mark '\x7b'] ++ Stmt.listTokens (bodyStmts options catalog))) := by
    rw [C.Program.tokens, program, List.flatMap_append, List.flatMap_cons]
    simp [C.Item.tokens, C.Function.tailTokens, function]
  have hlines : fileLines options catalog
      = preamble options ++ ([signature options] ++ (["\x7b"]
        ++ (catalog.records.flatMap (recordLines options) ++ ["    return msg;", "\x7d"]))) := by
    unfold fileLines
    simp
  rw [htokens, hlines, hbody]
  exact hall

/-- The generated file is read as the program. -/
theorem read_source (options : Options) {catalog : Catalog} (h : catalog.WellFormed) :
    C.Program.read? (source options catalog) = some (program options catalog) := by
  have htokens : C.tokens? (source options catalog).toList
      = some (program options catalog).tokens := by
    rw [C.tokens?, source, lexes_fileLines options h]
  rw [C.Program.read?, htokens]
  exact C.Program.ofTokens?_tokens _

end Phrasebook.Cascade
