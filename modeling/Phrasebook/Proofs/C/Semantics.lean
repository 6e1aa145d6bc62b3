import Phrasebook.Proofs.C.Syntax

/-!
# `Phrasebook.Proofs.C.Semantics`: running a C program

The last stage of reading C runs a function of a program. The statements run in
order until one of them returns. `strcmp` tells whether two strings are equal,
once the file includes `string.h`. A name stands for a parameter of the function,
or else for a variable of the file, so a parameter hides a variable of the same
name.

Whatever has no meaning here has none at all: a name that nothing declares, a
call with the wrong number of arguments, a function that ends without `return`.
-/

set_option autoImplicit false

namespace Phrasebook.C

/-- What names stand for. -/
abbrev Scope := String → Option String

/-- How a statement ends. -/
inductive Outcome where
  | returned (value : String)
  | passed
deriving DecidableEq, Repr

def Expr.value? (scope : Scope) : Expr → Option String
  | .name x => scope x.name
  | .literal value => some value

mutual

/-- Runs a statement. -/
def Stmt.exec (scope : Scope) : Stmt → Option Outcome
  | .ret value => (value.value? scope).map .returned
  | .onEqual left right body => do
    let l ← left.value? scope
    let r ← right.value? scope
    if l = r then body.exec scope else some .passed
  | .block body => Stmt.execList scope body

/-- Runs statements in order, up to the first that returns. -/
def Stmt.execList (scope : Scope) : List Stmt → Option Outcome
  | [] => some .passed
  | s :: rest =>
    match s.exec scope with
    | some .passed => Stmt.execList scope rest
    | outcome => outcome

end

def Function.params (f : Function) : List String :=
  (f.first :: f.others).map Identifier.name

namespace Program

def directives (program : Program) : List String :=
  program.items.filterMap fun
    | .directive line => some line
    | _ => none

/-- The variables that a file declares. -/
def globals (program : Program) : List String :=
  program.items.filterMap fun
    | .global x => some x.name
    | _ => none

def functions (program : Program) : List Function :=
  program.items.filterMap fun
    | .function f => some f
    | _ => none

/-- What names stand for within a call. `store` is what the variables of the file
hold. -/
def scope (program : Program) (store : List (String × String)) (f : Function)
    (args : List String) : Scope := fun name =>
  ((f.params.zip args).lookup name).or
    (if name ∈ program.globals then store.lookup name else none)

/-- The string that a call of a function returns. -/
def call? (program : Program) (store : List (String × String)) (name : String)
    (args : List String) : Option String := do
  let f ← program.functions.find? fun f => f.name.name == name
  if "include <string.h>" ∈ program.directives ∧ f.params.length = args.length then
    match ← Stmt.execList (program.scope store f args) f.body with
    | .returned value => some value
    | .passed => none
  else
    none

end Program

end Phrasebook.C
