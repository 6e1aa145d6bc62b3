import Phrasebook.Catalog.Reader
import Phrasebook.Proofs.C.Semantics
import Phrasebook.Proofs.Cascade.Program
import Phrasebook.Proofs.Catalog.Soundness
import Phrasebook.Proofs.Table

/-!
# `Phrasebook.Proofs.Cascade.Agreement`: the C function and the table agree

A message is looked up in two ways: by the generated C function, which compares
literals one after the other, and by the table, which hashes decoded texts. They
give the same answer, for every catalog that a file can hold.

Both are compared with `Catalog.firstMatch`:

* `execList_bodyStmts`: the body of the function returns the first match. A
  cascade of comparisons runs the branch of the first that holds
  (`C.Stmt.execList_onEqual`), and this serves records and wordings alike.
* `Table.lookup_eq_firstMatch`: so does the table.

`source_agrees` starts from the text of the generated file, so it also says that
the file can be read as C, that its function can be called, and that it returns.
-/

set_option autoImplicit false

namespace Phrasebook

namespace C

/-- A cascade of comparisons runs the branch of the first that holds, or else
what comes behind it. Induction on the cascade: a comparison that fails passes on
to the rest. A branch that passed would go on as well, so `hb` is needed. -/
theorem Stmt.execList_onEqual {α : Type} {scope : Scope} {left : Expr} {v : String}
    (hl : left.value? scope = some v) (key : α → String) (body : α → Stmt) {xs : List α}
    (hb : ∀ x ∈ xs, (body x).exec scope ≠ some .passed) (rest : List Stmt) :
    execList scope (xs.map (fun x => .onEqual left (.literal (key x)) (body x)) ++ rest)
      = match xs.find? fun x => key x == v with
        | some x => (body x).exec scope
        | none => execList scope rest := by
  induction xs with
  | nil => rfl
  | cons x xs ih =>
      have hexec : (Stmt.onEqual left (.literal (key x)) (body x)).exec scope
          = if v = key x then (body x).exec scope else some .passed := by
        rw [exec, hl]
        rfl
      rw [List.map_cons, List.cons_append, execList, hexec, List.find?_cons]
      by_cases hv : v = key x
      · have hkey : (key x == v) = true := beq_iff_eq.mpr hv.symm
        have hbody := hb x List.mem_cons_self
        rw [if_pos hv, hkey]
        -- The branch ends the cascade, whether it returns or has no meaning.
        cases hout : (body x).exec scope with
        | none => exact hout.symm
        | some outcome =>
            cases outcome with
            | returned value => exact hout.symm
            | passed => exact absurd hout hbody
      · have hkey : (key x == v) = false := beq_eq_false_iff_ne.mpr (Ne.symm hv)
        rw [if_neg hv, hkey]
        exact ih fun y hy => hb y (List.mem_cons_of_mem _ hy)

end C

namespace Cascade

open C (Outcome Scope Stmt)

variable {options : Options} {scope : Scope} {message lang : String}

/-! ### The body of the function -/

/-- What the statement of a record returns for its message. -/
def recordAnswer (record : Record) (lang : String) : String :=
  match record.wordingFor? lang with
  | none => record.id.value
  | some wording => wording.text.value

/-- The block for a record returns its wording, or else its own text. -/
theorem exec_recordBlock (hlang : scope options.langName.name = some lang) (record : Record) :
    (recordBlock options record).exec scope = some (.returned (recordAnswer record lang)) := by
  have hleft : (C.Expr.name options.langName).value? scope = some lang := hlang
  have hreturn : ∀ wording ∈ record.wordings,
      (Stmt.ret (.literal wording.text.value)).exec scope ≠ some .passed :=
    fun _ _ => nofun
  have hcascade := Stmt.execList_onEqual hleft Wording.lang _ hreturn
    [.ret (.literal record.id.value)]
  rw [recordBlock, Stmt.exec, recordAnswer, Record.wordingFor?]
  refine hcascade.trans ?_
  cases record.wordings.find? fun wording => wording.lang == lang with
  | none => rfl
  | some wording => rfl

/-- The body of the function returns the first match, wherever it finds the
language. -/
theorem execList_bodyStmts (hmsg : scope messageName.name = some message)
    (hlang : scope options.langName.name = some lang) (catalog : Catalog) :
    Stmt.execList scope (bodyStmts options catalog)
      = some (.returned (catalog.firstMatch message lang)) := by
  have hleft : (C.Expr.name messageName).value? scope = some message := hmsg
  have hreturn : ∀ record ∈ catalog.records,
      (recordBlock options record).exec scope ≠ some .passed := by
    intro record _
    rw [exec_recordBlock hlang]
    nofun
  have hcascade := Stmt.execList_onEqual hleft (fun record : Record => record.id.value) _
    hreturn [.ret (.name messageName)]
  rw [Catalog.firstMatch, Catalog.recordFor?]
  refine hcascade.trans ?_
  cases hfind : catalog.records.find? fun record => record.id.value == message with
  | none =>
      show Stmt.execList scope [.ret (.name messageName)] = some (.returned message)
      rw [Stmt.execList, Stmt.exec, C.Expr.value?, hmsg]
      rfl
  | some record =>
      -- The record was found by its id, so without a wording the function
      -- returns the message itself.
      have hfound := List.find?_some hfind
      have hid : record.id.value = message := eq_of_beq hfound
      show (recordBlock options record).exec scope
        = some (.returned (match record.wordingFor? lang with
          | none => message
          | some wording => wording.text.value))
      rw [exec_recordBlock hlang, recordAnswer, hid]

/-! ### Calls -/

/-- What the function of a generated file answers. The language is either in the
variable that the file declares, or passed behind the message. -/
def answer? (options : Options) (program : C.Program) (message lang : String) : Option String :=
  match options.activeLang with
  | .global => program.call? [(options.langName.name, lang)] options.function.name [message]
  | .parameter => program.call? [] options.function.name [message, lang]

/-- The generated file has one function. -/
theorem functions_program (options : Options) (catalog : Catalog) :
    (program options catalog).functions = [function options catalog] := by
  unfold C.Program.functions program globals
  cases options.activeLang <;> rfl

/-- The message comes first. -/
theorem params_function (options : Options) (catalog : Catalog) :
    (function options catalog).params = "msg" :: (parameters options).map Identifier.name :=
  rfl

/-- A call runs the body of the function, once it is known what the names stand
for. -/
theorem call?_program {store : List (String × String)} {args : List String} {catalog : Catalog}
    (hargs : (function options catalog).params.length = args.length)
    (hmsg : (program options catalog).scope store (function options catalog) args
      messageName.name = some message)
    (hlang : (program options catalog).scope store (function options catalog) args
      options.langName.name = some lang) :
    (program options catalog).call? store options.function.name args
      = some (catalog.firstMatch message lang) := by
  have hdirective : "include <string.h>" ∈ (program options catalog).directives := by
    simp [C.Program.directives, program]
  have hfind : (program options catalog).functions.find?
        (fun f => f.name.name == options.function.name)
      = some (function options catalog) := by
    simp [functions_program, function]
  rw [C.Program.call?, hfind]
  show (if _ then _ else _) = _
  rw [if_pos ⟨hdirective, hargs⟩]
  show (Stmt.execList _ (bodyStmts options catalog)).bind _ = _
  rw [execList_bodyStmts hmsg hlang]
  rfl

/-- A call finds the message in `msg`, and the language under its name, unless
that is `msg` too. -/
theorem answer?_program (h : options.langName.name ≠ "msg") (catalog : Catalog) :
    answer? options (program options catalog) message lang
      = some (catalog.firstMatch message lang) := by
  have hother : (options.langName.name == "msg") = false := beq_eq_false_iff_ne.mpr h
  unfold answer?
  cases hmode : options.activeLang with
  | global =>
      have hparams : (function options catalog).params = ["msg"] := by
        rw [params_function, parameters, hmode]
        rfl
      have hglobals : (program options catalog).globals = [options.langName.name] := by
        simp [C.Program.globals, program, globals, hmode]
      apply call?_program
      · rw [hparams]
        rfl
      · simp [C.Program.scope, hparams, messageName]
      · simp [C.Program.scope, hparams, hglobals, List.lookup_cons, hother]
  | parameter =>
      have hparams : (function options catalog).params = ["msg", options.langName.name] := by
        rw [params_function, parameters, hmode]
        rfl
      apply call?_program
      · rw [hparams]
        rfl
      · simp [C.Program.scope, hparams, messageName]
      · simp [C.Program.scope, hparams, List.lookup_cons, hother]

/-! ### The file and the table -/

/-- The generated file, read and run as C, answers every call as the table of its
catalog does. The file is the one for a source that was accepted, and the
language has any name but that of the message. -/
theorem source_agrees {text : String} {reading : Reading} (h : Catalog.parse text = .ok reading)
    (options : Options) (hlang : options.langName.name ≠ "msg") (message lang : String) :
    ((C.Program.read? (source options reading.catalog)).bind fun program =>
        answer? options program message lang)
      = some ((Table.ofCatalog reading.catalog).lookup message lang) := by
  rw [read_source options (Catalog.wellFormed_of_parse h), Option.bind_some,
    answer?_program hlang, Table.lookup_eq_firstMatch]

/-- A message with bare quotes, and a second record that spells it with escapes:
the first record counts. -/
theorem source_agrees_respelled :
    ∃ (reading : Reading) (options : Options),
      Catalog.parse "ID:\"it's\"\nfr:\"\\?\"\n---\nID:\\\"it\\'s\\\"\nfr:x\n---\n" = .ok reading
      ∧ options.langName.name ≠ "msg"
      ∧ ((C.Program.read? (source options reading.catalog)).bind fun program =>
          answer? options program "\"it's\"" "fr") = some "\"?\"" := by
  let options : Options := ⟨⟨"translate", by decide⟩, ⟨"lang_code", by decide⟩, .global⟩
  have hparse : Catalog.parse
      "ID:\"it's\"\nfr:\"\\?\"\n---\nID:\\\"it\\'s\\\"\nfr:x\n---\n" = .ok _ := rfl
  have hname : options.langName.name ≠ "msg" := by decide
  refine ⟨_, options, hparse, hname, ?_⟩
  rw [source_agrees hparse options hname, Table.lookup_eq_firstMatch]
  rfl

end Cascade

end Phrasebook
