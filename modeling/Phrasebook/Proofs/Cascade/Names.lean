import Phrasebook.Proofs.C.Scope
import Phrasebook.Proofs.Cascade.Agreement

/-!
# `Phrasebook.Proofs.Cascade.Names`: names that get in each other's way

The names for a generated file are checked one by one: each has to be an identifier.
The file has two names of its own besides, `msg` for the message and `strcmp` from the
header, and nothing keeps the others from being the same.

* `source_wellNamed_iff`: the generated file gives its names the meaning they should
  have, whatever the catalog, exactly when the names keep apart (`Options.Apart`).
* `answer?_of_msg`: with a variable called `msg` the language is never looked at. The
  function compares the message with the language codes.

What else a compiler may refuse is left out here: a keyword as a name, or another
function of the header.
-/

set_option autoImplicit false

namespace Phrasebook.Cascade

open C (Distinct Entity Stmt)

variable {options : Options}

/-- The names for a generated file keep out of the way of its other names and of each
other. A parameter may have the name of the function. -/
structure Options.Apart (options : Options) : Prop where
  function_ne : options.function.name ≠ "strcmp"
  lang_ne_strcmp : options.langName.name ≠ "strcmp"
  lang_ne_msg : options.langName.name ≠ "msg"
  lang_ne_function : options.activeLang = .global →
    options.langName.name ≠ options.function.name

/-- What holds the language. -/
def language : ActiveLang → Entity
  | .global => .global
  | .parameter => .parameter 1

/-! ### The names of the generated program -/

/-- What the file declares, that of the header first. -/
theorem declared_program (options : Options) (catalog : Catalog) :
    (program options catalog).declared
      = ("strcmp", .comparison)
        :: ((globals options).map fun x => (x.name, .global))
        ++ [(options.function.name, .function)] := by
  rw [C.Program.declared, program, globals]
  cases options.activeLang with
  | global => rfl
  | parameter => rfl

/-- What the parameters of the function declare. -/
theorem declared_function (options : Options) (catalog : Catalog) :
    (function options catalog).declared
      = ("msg", .parameter 0)
        :: (parameters options).map fun x => (x.name, .parameter 1) := by
  rw [C.Function.declared, params_function, parameters]
  cases options.activeLang with
  | global => rfl
  | parameter => rfl

/-- The comparisons within a record test the language. -/
theorem tested_recordBlock (options : Options) (record : Record) :
    (recordBlock options record).tested
      = record.wordings.map fun _ => .name options.langName := by
  rw [recordBlock, Stmt.tested, Stmt.testedList_append]
  induction record.wordings with
  | nil => rfl
  | cons wording wordings ih =>
      rw [List.map_cons, List.map_cons, ← ih]
      rfl

/-- All nested comparisons of the file test the language. -/
theorem nested_function (options : Options) (catalog : Catalog) :
    Stmt.nestedList (function options catalog).body
      = catalog.records.flatMap fun record =>
          record.wordings.map fun _ => .name options.langName := by
  show Stmt.nestedList (bodyStmts options catalog) = _
  rw [bodyStmts, Stmt.nestedList_append]
  -- Each record is a comparison of the message, and its wordings are compared within it.
  induction catalog.records with
  | nil => rfl
  | cons record records ih =>
      rw [List.flatMap_cons, ← ih, ← tested_recordBlock, ← List.append_assoc]
      rfl

/-- Every nested comparison tests the name of the language. -/
theorem eq_of_mem_nested {catalog : Catalog} {tested : C.Expr}
    (h : tested ∈ Stmt.nestedList (function options catalog).body) :
    tested = .name options.langName := by
  rw [nested_function] at h
  obtain ⟨record, -, hrecord⟩ := List.mem_flatMap.mp h
  obtain ⟨wording, -, rfl⟩ := List.mem_map.mp hrecord
  rfl

/-! ### What the names stand for -/

/-- The file declares each name once, unless a name of the options is taken. -/
theorem distinct_program (options : Options) (catalog : Catalog) :
    Distinct (program options catalog).declared
      ↔ options.function.name ≠ "strcmp" ∧ (options.activeLang = .global →
        options.langName.name ≠ "strcmp"
        ∧ options.langName.name ≠ options.function.name) := by
  rw [declared_program, globals, Distinct]
  cases options.activeLang with
  | global =>
      show ["strcmp", options.langName.name, options.function.name].Nodup ↔ _
      grind
  | parameter =>
      show ["strcmp", options.function.name].Nodup ↔ _
      grind

/-- The function declares each parameter once, unless the language is called like the
message. -/
theorem distinct_function (options : Options) (catalog : Catalog) :
    Distinct (function options catalog).declared
      ↔ (options.activeLang = .parameter → options.langName.name ≠ "msg") := by
  rw [declared_function, parameters, Distinct]
  cases options.activeLang with
  | global =>
      show ["msg"].Nodup ↔ _
      grind
  | parameter =>
      show ["msg", options.langName.name].Nodup ↔ _
      grind

/-- Only a parameter can hide the function of the header. -/
theorem entity?_strcmp (options : Options) (catalog : Catalog) :
    (program options catalog).entity? (function options catalog) "strcmp"
        = some .comparison
      ↔ (options.activeLang = .parameter → options.langName.name ≠ "strcmp") := by
  rw [C.Program.entity?, declared_function, declared_program, parameters]
  cases options.activeLang with
  | global =>
      have hglobal : ActiveLang.global = .parameter → options.langName.name ≠ "strcmp" := by
        intro h
        cases h
      exact iff_of_true rfl hglobal
  | parameter =>
      by_cases hstrcmp : options.langName.name = "strcmp"
      · simp [List.lookup_cons, hstrcmp]
      · have hother : ("strcmp" == options.langName.name) = false :=
          beq_eq_false_iff_ne.mpr (Ne.symm hstrcmp)
        simp [List.lookup_cons, hstrcmp, hother]

/-- The name of the language stands for the language, unless `msg` hides it or the
header comes first. -/
theorem entity?_langName (options : Options) (catalog : Catalog) :
    (program options catalog).entity? (function options catalog) options.langName.name
        = some (language options.activeLang)
      ↔ options.langName.name ≠ "msg"
        ∧ (options.activeLang = .global → options.langName.name ≠ "strcmp") := by
  rw [C.Program.entity?, declared_function, declared_program, globals, parameters]
  -- The parameters are asked first, and `msg` is the first of them.
  by_cases hmsg : options.langName.name = "msg"
  · cases options.activeLang with
    | global => simp [List.lookup_cons, hmsg, language]
    | parameter => simp [List.lookup_cons, hmsg, language]
  · have hparam : (options.langName.name == "msg") = false := beq_eq_false_iff_ne.mpr hmsg
    cases options.activeLang with
    | parameter => simp [List.lookup_cons, hmsg, hparam, language]
    | global =>
        by_cases hstrcmp : options.langName.name = "strcmp"
        · simp [List.lookup_cons, hstrcmp, language]
        · have hfile : (options.langName.name == "strcmp") = false :=
            beq_eq_false_iff_ne.mpr hstrcmp
          simp [List.lookup_cons, hmsg, hstrcmp, hparam, hfile, language]

/-! ### Names that keep apart -/

/-- Names that keep apart have one meaning each. -/
theorem wellNamed_of_apart (h : options.Apart) (catalog : Catalog) :
    (program options catalog).WellNamed (language options.activeLang) := by
  obtain ⟨hfunction, hstrcmp, hmsg, hlang⟩ := h
  -- The file has one function.
  have hsingle : ∀ f ∈ (program options catalog).functions, f = function options catalog := by
    rw [functions_program]
    exact fun f hf => List.mem_singleton.mp hf
  constructor
  case file =>
    exact (distinct_program options catalog).mpr ⟨hfunction, fun hmode => ⟨hstrcmp, hlang hmode⟩⟩
  case params =>
    intro f hf
    rw [hsingle f hf]
    exact (distinct_function options catalog).mpr fun _ => hmsg
  case comparison =>
    intro f hf
    rw [hsingle f hf]
    exact (entity?_strcmp options catalog).mpr fun _ => hstrcmp
  case nested =>
    intro f hf tested htested
    rw [hsingle f hf] at htested ⊢
    exact ⟨options.langName, eq_of_mem_nested htested,
      (entity?_langName options catalog).mpr ⟨hmsg, fun _ => hstrcmp⟩⟩

/-- No weaker condition will do, once the catalog has a wording. -/
theorem apart_of_wellNamed {catalog : Catalog}
    (h : (program options catalog).WellNamed (language options.activeLang))
    (hwording : C.Expr.name options.langName
      ∈ Stmt.nestedList (function options catalog).body) : options.Apart := by
  have hmem : function options catalog ∈ (program options catalog).functions := by
    rw [functions_program]
    exact List.mem_singleton_self _
  obtain ⟨hfunction, hglobal⟩ := (distinct_program options catalog).mp h.file
  have hstrcmp := (entity?_strcmp options catalog).mp (h.comparison _ hmem)
  obtain ⟨x, hx, hentity⟩ := h.nested _ hmem _ hwording
  obtain rfl : options.langName = x := by injection hx
  obtain ⟨hmsg, -⟩ := (entity?_langName options catalog).mp hentity
  refine ⟨hfunction, ?_, hmsg, fun hmode => (hglobal hmode).2⟩
  -- A variable called `strcmp` is declared twice, a parameter hides the function.
  cases hmode : options.activeLang with
  | global => exact (hglobal hmode).1
  | parameter => exact hstrcmp hmode

/-- The generated files of all sources that are accepted give their names one meaning
each and answer as the tables do, exactly when the names of the options keep apart. -/
theorem source_wellNamed_iff (options : Options) :
    (∀ (text : String) (reading : Reading), Catalog.parse text = .ok reading →
        ∃ program, C.Program.read? (source options reading.catalog) = some program
          ∧ program.WellNamed (language options.activeLang)
          ∧ ∀ message lang, answer? options program message lang
              = some ((Table.ofCatalog reading.catalog).lookup message lang))
      ↔ options.Apart := by
  constructor
  · -- One record with one wording gives all the names away.
    intro h
    have hparse : Catalog.parse "ID:A\nfr:B\n---\n" = .ok _ := rfl
    obtain ⟨read, hread, hnames, -⟩ := h _ _ hparse
    rw [read_source options (Catalog.wellFormed_of_parse hparse)] at hread
    obtain rfl := Option.some.inj hread
    refine apart_of_wellNamed hnames ?_
    rw [nested_function]
    exact List.mem_singleton_self _
  · intro h text reading hparse
    have hread := read_source options (Catalog.wellFormed_of_parse hparse)
    refine ⟨_, hread, wellNamed_of_apart h reading.catalog, fun message lang => ?_⟩
    rw [answer?_program h.lang_ne_msg, Table.lookup_eq_firstMatch]

/-! ### A variable called `msg` -/

/-- The parameter `msg` hides a variable of this name, so every call answers as if the
message were the language. -/
theorem answer?_of_msg {message lang : String} (hmode : options.activeLang = .global)
    (hname : options.langName.name = "msg") (catalog : Catalog) :
    answer? options (program options catalog) message lang
      = some (catalog.firstMatch message message) := by
  have hparams : (function options catalog).params = ["msg"] := by
    rw [params_function, parameters, hmode]
    rfl
  have hmsg : (program options catalog).scope [(options.langName.name, lang)]
      (function options catalog) [message] "msg" = some message := by
    simp [C.Program.scope, hparams]
  rw [answer?, hmode]
  refine call?_program ?_ hmsg ?_
  · rw [hparams]
    rfl
  · rw [hname] at hmsg ⊢
    exact hmsg

/-- `msg` is accepted as the name of the variable, and the wording is not found. -/
theorem answer?_of_msg_unfound :
    ∃ (options : Options) (reading : Reading) (program : C.Program),
      Options.ofNames "translate" "msg" .global = .ok options
      ∧ Catalog.parse "ID:A\nfr:B\n---\n" = .ok reading
      ∧ C.Program.read? (source options reading.catalog) = some program
      ∧ ¬ program.WellNamed (language options.activeLang)
      ∧ answer? options program "A" "fr" = some "A"
      ∧ (Table.ofCatalog reading.catalog).lookup "A" "fr" = "B" := by
  let options : Options := ⟨⟨"translate", by decide⟩, ⟨"msg", by decide⟩, .global⟩
  have hparse : Catalog.parse "ID:A\nfr:B\n---\n" = .ok _ := rfl
  have hread := read_source options (Catalog.wellFormed_of_parse hparse)
  refine ⟨options, _, _, rfl, hparse, hread, fun hnames => ?_, ?_, ?_⟩
  · have hapart : options.Apart := apart_of_wellNamed hnames (by
      rw [nested_function]
      exact List.mem_singleton_self _)
    exact hapart.lang_ne_msg rfl
  · rw [answer?_of_msg rfl rfl]
    rfl
  · rw [Table.lookup_eq_firstMatch]
    rfl

end Phrasebook.Cascade
