import Phrasebook.Proofs.C.Semantics

/-!
# `Phrasebook.Proofs.C.Scope`: what the names of a C program are declared as

A name is declared in the file or in the parameter list of a function. The header
`string.h` declares `strcmp` in the file that includes it; what else it declares is
left out. Within a function, a parameter hides what the file declares under the same
name.

`Program.WellNamed` asks three things of a program. No scope declares a name twice,
every comparison calls the `strcmp` of the header, and the comparisons within other
comparisons test what they are meant to test. Only the last can be seen from the
answers of a program: a compiler refuses the rest.
-/

set_option autoImplicit false

namespace Phrasebook.C

/-- What a name is declared as. -/
inductive Entity where
  /-- The function of the header that compares strings. -/
  | comparison
  /-- A variable of the file. -/
  | global
  /-- A function of the file. -/
  | function
  /-- A parameter, counted from zero. -/
  | parameter (position : Nat)
deriving DecidableEq, Repr

/-! ### Declarations -/

/-- What an item declares in its file. -/
def Item.declared : Item → List (String × Entity)
  | .directive line => if line = "include <string.h>" then [("strcmp", .comparison)] else []
  | .global x => [(x.name, .global)]
  | .function f => [(f.name.name, .function)]

/-- The scope of a file. -/
def Program.declared (program : Program) : List (String × Entity) :=
  program.items.flatMap Item.declared

/-- The scope of a function. -/
def Function.declared (f : Function) : List (String × Entity) :=
  f.params.mapIdx fun position name => (name, .parameter position)

/-- What a name stands for within a function of a program. -/
def Program.entity? (program : Program) (f : Function) (name : String) : Option Entity :=
  (f.declared.lookup name).or (program.declared.lookup name)

/-- No name is declared twice. -/
def Distinct (scope : List (String × Entity)) : Prop :=
  (scope.map Prod.fst).Nodup

/-! ### Comparisons -/

mutual

/-- What the comparisons in a statement test. -/
def Stmt.tested : Stmt → List Expr
  | .ret _ => []
  | .onEqual left _ body => left :: body.tested
  | .block body => Stmt.testedList body

def Stmt.testedList : List Stmt → List Expr
  | [] => []
  | s :: rest => s.tested ++ Stmt.testedList rest

end

mutual

/-- What the comparisons test that stand within another comparison. -/
def Stmt.nested : Stmt → List Expr
  | .ret _ => []
  | .onEqual _ _ body => body.tested
  | .block body => Stmt.nestedList body

def Stmt.nestedList : List Stmt → List Expr
  | [] => []
  | s :: rest => s.nested ++ Stmt.nestedList rest

end

/-- The names of a program have one meaning each, `strcmp` has its own, and the nested
comparisons of every function test `subject`. -/
structure Program.WellNamed (program : Program) (subject : Entity) : Prop where
  file : Distinct program.declared
  params : ∀ f ∈ program.functions, Distinct f.declared
  comparison : ∀ f ∈ program.functions, program.entity? f "strcmp" = some .comparison
  nested : ∀ f ∈ program.functions, ∀ tested ∈ Stmt.nestedList f.body,
    ∃ x, tested = .name x ∧ program.entity? f x.name = some subject

/-- Statements in a row test what each portion of them tests. -/
theorem Stmt.testedList_append (front back : List Stmt) :
    Stmt.testedList (front ++ back) = Stmt.testedList front ++ Stmt.testedList back := by
  induction front with
  | nil => rfl
  | cons s front ih => rw [List.cons_append, testedList, testedList, ih, List.append_assoc]

/-- The same for what is tested within other comparisons. -/
theorem Stmt.nestedList_append (front back : List Stmt) :
    Stmt.nestedList (front ++ back) = Stmt.nestedList front ++ Stmt.nestedList back := by
  induction front with
  | nil => rfl
  | cons s front ih => rw [List.cons_append, nestedList, nestedList, ih, List.append_assoc]

end Phrasebook.C
