import Phrasebook.Proofs.C.Lexer

/-!
# `Phrasebook.Proofs.C.Syntax`: the grammar of a C file

The second stage of reading C turns tokens into a program. The programs are those
that the generated file needs: variables and functions that hold strings, and in
a function `return`, blocks, and `if` on the equality of two strings.

A name may stand wherever the grammar asks for one, keywords included, so the
reader takes some files that a compiler refuses. It takes no file in two ways:
`Program.tokens` writes a program, and `Program.ofTokens?_tokens` shows that the
reader gives it back.

The reader counts down a bound on the depth of the text. The number of tokens is
bound enough.
-/

set_option autoImplicit false

namespace Phrasebook.C

/-! ### Programs -/

/-- A string: what a name stands for, or a literal. -/
inductive Expr where
  | name (x : Identifier)
  | literal (value : String)

/-- A statement. The condition of `onEqual` is `strcmp(left, right) == 0`. -/
inductive Stmt where
  | ret (value : Expr)
  | onEqual (left right : Expr) (body : Stmt)
  | block (body : List Stmt)

/-- A function of at least one string. -/
structure Function where
  name : Identifier
  first : Identifier
  others : List Identifier
  body : List Stmt

/-- What stands in a file outside of functions. -/
inductive Item where
  | directive (line : String)
  | global (name : Identifier)
  | function (f : Function)

/-- The items of a file, in order. -/
structure Program where
  items : List Item

/-! ### Writing -/

def Expr.tokens : Expr → List Token
  | .name x => [.word x.name]
  | .literal value => [.literal value]

mutual

def Stmt.tokens : Stmt → List Token
  | .ret value => .word "return" :: value.tokens ++ [.mark ';']
  | .onEqual left right body =>
    [.word "if", .mark '(', .word "strcmp", .mark '('] ++ left.tokens ++ [.mark ',']
      ++ right.tokens ++ [.mark ')', .equal, .word "0", .mark ')'] ++ body.tokens
  | .block body => .mark '\x7b' :: Stmt.listTokens body

/-- Statements, and the brace that ends them. -/
def Stmt.listTokens : List Stmt → List Token
  | [] => [.mark '\x7d']
  | s :: rest => s.tokens ++ Stmt.listTokens rest

end

/-- The declaration of a string. -/
def declarator (x : Identifier) : List Token :=
  [.word "const", .word "char", .mark '*', .word x.name]

/-- Further parameters of a function, and the parenthesis that ends them. -/
def paramTokens : List Identifier → List Token
  | [] => [.mark ')']
  | x :: rest => .mark ',' :: declarator x ++ paramTokens rest

/-- A function after its name and the opening parenthesis. -/
def Function.tailTokens (f : Function) : List Token :=
  declarator f.first ++ (paramTokens f.others ++ .mark '\x7b' :: Stmt.listTokens f.body)

def Item.tokens : Item → List Token
  | .directive line => [.directive line]
  | .global name => declarator name ++ [.mark ';']
  | .function f => declarator f.name ++ .mark '(' :: f.tailTokens

def Program.tokens (program : Program) : List Token :=
  program.items.flatMap Item.tokens

/-! ### Reading -/

/-- What is left after some tokens that have to come next. -/
def expect : List Token → List Token → Option (List Token)
  | [], input => some input
  | t :: ts, s :: input => if t = s then expect ts input else none
  | _ :: _, [] => none

/-- A string comes next. -/
def Expr.read : List Token → Option (Expr × List Token)
  | .word x :: rest => (Identifier.ofName? x).map fun x => (.name x, rest)
  | .literal value :: rest => some (.literal value, rest)
  | _ => none

/-- A declaration of a string comes next. -/
def readDeclarator (input : List Token) : Option (Identifier × List Token) := do
  match ← expect [.word "const", .word "char", .mark '*'] input with
  | .word x :: rest => (Identifier.ofName? x).map fun x => (x, rest)
  | _ => none

mutual

/-- A statement comes next. -/
def Stmt.read : Nat → List Token → Option (Stmt × List Token)
  | _ + 1, .word "return" :: rest => do
    let (value, rest) ← Expr.read rest
    let rest ← expect [.mark ';'] rest
    some (.ret value, rest)
  | depth + 1, .word "if" :: rest => do
    let rest ← expect [.mark '(', .word "strcmp", .mark '('] rest
    let (left, rest) ← Expr.read rest
    let rest ← expect [.mark ','] rest
    let (right, rest) ← Expr.read rest
    let rest ← expect [.mark ')', .equal, .word "0", .mark ')'] rest
    let (body, rest) ← Stmt.read depth rest
    some (.onEqual left right body, rest)
  | depth + 1, .mark '\x7b' :: rest => do
    let (body, rest) ← Stmt.readList depth rest
    some (.block body, rest)
  | _, _ => none

/-- Statements up to a closing brace come next. -/
def Stmt.readList : Nat → List Token → Option (List Stmt × List Token)
  | _ + 1, .mark '\x7d' :: rest => some ([], rest)
  | depth + 1, input => do
    let (first, rest) ← Stmt.read depth input
    let (others, rest) ← Stmt.readList depth rest
    some (first :: others, rest)
  | 0, _ => none

end

/-- Further parameters come next. -/
def readParams : Nat → List Token → Option (List Identifier × List Token)
  | _ + 1, .mark ')' :: rest => some ([], rest)
  | depth + 1, .mark ',' :: rest => do
    let (x, rest) ← readDeclarator rest
    let (others, rest) ← readParams depth rest
    some (x :: others, rest)
  | _, _ => none

/-- A function comes next, of which the name has been read. -/
def Function.readTail (name : Identifier) (depth : Nat) (input : List Token) :
    Option (Function × List Token) := do
  let (first, rest) ← readDeclarator input
  let (others, rest) ← readParams depth rest
  let rest ← expect [.mark '\x7b'] rest
  let (body, rest) ← Stmt.readList depth rest
  some (⟨name, first, others, body⟩, rest)

/-- Items, up to the end of the tokens. -/
def Item.readAll : Nat → List Token → Option (List Item)
  | _ + 1, [] => some []
  | depth + 1, .directive line :: rest => do
    let others ← Item.readAll depth rest
    some (.directive line :: others)
  | depth + 1, input => do
    let (name, rest) ← readDeclarator input
    match rest with
    | .mark ';' :: rest =>
      let others ← Item.readAll depth rest
      some (.global name :: others)
    | .mark '(' :: rest =>
      let (f, rest) ← Function.readTail name depth rest
      let others ← Item.readAll depth rest
      some (.function f :: others)
    | _ => none
  | 0, _ => none

/-- The program with some tokens. -/
def Program.ofTokens? (tokens : List Token) : Option Program :=
  (Item.readAll (tokens.length + 1) tokens).map Program.mk

/-- The program that is written in a file. -/
def Program.read? (text : String) : Option Program :=
  (tokens? text.toList).bind Program.ofTokens?

/-! ### Reading what was written -/

/-- The name of an identifier makes this identifier again. -/
theorem ofName?_name (x : Identifier) : Identifier.ofName? x.name = some x := by
  rw [Identifier.ofName?, dif_pos x.valid]

/-- A string that was written is read back. -/
theorem Expr.read_tokens (e : Expr) (rest : List Token) :
    Expr.read (e.tokens ++ rest) = some (e, rest) := by
  cases e with
  | name x =>
      show (Identifier.ofName? x.name).map _ = _
      rw [ofName?_name]
      rfl
  | literal value => rfl

/-- The declaration of a string is read back as its name. -/
theorem readDeclarator_declarator (x : Identifier) (rest : List Token) :
    readDeclarator (declarator x ++ rest) = some (x, rest) := by
  show (Identifier.ofName? x.name).map _ = _
  rw [ofName?_name]
  rfl

/-- Every statement has a token, so the depth goes down along a list. -/
theorem Stmt.tokens_length_pos (s : Stmt) : 0 < s.tokens.length := by
  cases s <;> simp [Stmt.tokens]

/-- So has every list of statements, if only its brace. -/
theorem Stmt.listTokens_length_pos (ss : List Stmt) : 0 < (Stmt.listTokens ss).length := by
  cases ss with
  | nil => simp [Stmt.listTokens]
  | cons s rest =>
      have hs := s.tokens_length_pos
      rw [Stmt.listTokens, List.length_append]
      omega

/-- Statements in a row are written one after the other, with one brace behind them all. -/
theorem Stmt.listTokens_append (front back : List Stmt) :
    Stmt.listTokens (front ++ back) = front.flatMap Stmt.tokens ++ Stmt.listTokens back := by
  induction front with
  | nil => rfl
  | cons s front ih =>
      rw [List.cons_append, Stmt.listTokens, ih, List.flatMap_cons, List.append_assoc]

/-- No statement begins with the brace that ends a list. -/
theorem Stmt.readList_cons (s : Stmt) (depth : Nat) (rest : List Token) :
    Stmt.readList (depth + 1) (s.tokens ++ rest)
      = (Stmt.read depth (s.tokens ++ rest)).bind fun (s, rest) =>
          (Stmt.readList depth rest).bind fun (others, rest) => some (s :: others, rest) := by
  cases s <;> rfl

mutual

/-- A statement that was written is read back, whatever comes after it. -/
theorem Stmt.read_tokens (s : Stmt) {depth : Nat} (h : s.tokens.length ≤ depth)
    (rest : List Token) : Stmt.read depth (s.tokens ++ rest) = some (s, rest) := by
  match s, depth with
  -- Every statement has a token, so some depth is left.
  | s, 0 =>
      have hs := s.tokens_length_pos
      omega
  | .ret value, depth + 1 =>
      rw [Stmt.tokens, List.cons_append, List.cons_append, List.append_assoc, Stmt.read,
        Expr.read_tokens]
      rfl
  | .onEqual left right body, depth + 1 =>
      have hbody : body.tokens.length ≤ depth := by
        simp only [Stmt.tokens, List.length_append, List.length_cons] at h
        omega
      simp only [Stmt.tokens, List.append_assoc, List.cons_append, List.nil_append]
      rw [Stmt.read]
      simp only [expect, if_pos, Option.bind_eq_bind, Option.bind_some, Expr.read_tokens,
        Stmt.read_tokens body hbody]
  | .block body, depth + 1 =>
      have hbody : (Stmt.listTokens body).length ≤ depth := by
        simp only [Stmt.tokens, List.length_cons] at h
        omega
      rw [Stmt.tokens, List.cons_append, Stmt.read, Stmt.readList_tokens body hbody]
      rfl

/-- Statements that were written are read back, and their brace is taken. -/
theorem Stmt.readList_tokens (ss : List Stmt) {depth : Nat}
    (h : (Stmt.listTokens ss).length ≤ depth) (rest : List Token) :
    Stmt.readList depth (Stmt.listTokens ss ++ rest) = some (ss, rest) := by
  match ss, depth with
  | ss, 0 =>
      have hss := Stmt.listTokens_length_pos ss
      omega
  | [], depth + 1 => rfl
  | s :: others, depth + 1 =>
      -- Both parts are read one level down. Each leaves the other a token at
      -- least, so each is shorter than the whole.
      have hs := s.tokens_length_pos
      have hothers := Stmt.listTokens_length_pos others
      rw [Stmt.listTokens, List.length_append] at h
      have hlist : Stmt.readList depth (Stmt.listTokens others ++ rest) = some (others, rest) :=
        Stmt.readList_tokens others (by omega) rest
      rw [Stmt.listTokens, List.append_assoc, Stmt.readList_cons,
        Stmt.read_tokens s (by omega)]
      show (Stmt.readList depth (Stmt.listTokens others ++ rest)).bind _ = _
      rw [hlist]
      rfl

end

/-- Parameters that were written are read back, and their parenthesis is taken. -/
theorem readParams_tokens (xs : List Identifier) {depth : Nat}
    (h : (paramTokens xs).length ≤ depth) (rest : List Token) :
    readParams depth (paramTokens xs ++ rest) = some (xs, rest) := by
  -- Each parameter takes one level of the depth, and has more tokens than one.
  induction xs generalizing depth with
  | nil =>
      cases depth with
      | zero => simp [paramTokens] at h
      | succ depth => rfl
  | cons x xs ih =>
      cases depth with
      | zero => simp [paramTokens] at h
      | succ depth =>
          have hxs : (paramTokens xs).length ≤ depth := by
            simp only [paramTokens, List.length_append, List.length_cons] at h
            omega
          rw [paramTokens, List.cons_append, List.cons_append, List.append_assoc, readParams,
            readDeclarator_declarator]
          show (readParams depth (paramTokens xs ++ rest)).bind _ = _
          rw [ih hxs]
          rfl

/-- A function that was written is read back from behind its name. -/
theorem Function.readTail_tokens (f : Function) {depth : Nat} (h : f.tailTokens.length ≤ depth)
    (rest : List Token) :
    Function.readTail f.name depth (f.tailTokens ++ rest) = some (f, rest) := by
  rw [Function.tailTokens, List.length_append, List.length_append, List.length_cons] at h
  -- Parameters and body are parts of the function, so the depth is enough for each.
  have hparams : ∀ more, readParams depth (paramTokens f.others ++ more) = some (f.others, more) :=
    readParams_tokens f.others (by omega)
  have hbody : Stmt.readList depth (Stmt.listTokens f.body ++ rest) = some (f.body, rest) :=
    Stmt.readList_tokens f.body (by omega) rest
  rw [Function.tailTokens, List.append_assoc, List.append_assoc, Function.readTail,
    readDeclarator_declarator]
  show (readParams depth (paramTokens f.others
    ++ .mark '\x7b' :: (Stmt.listTokens f.body ++ rest))).bind _ = _
  rw [hparams]
  show (Stmt.readList depth (Stmt.listTokens f.body ++ rest)).bind _ = _
  rw [hbody]
  rfl

/-- Items that were written are read back. -/
theorem Item.readAll_tokens (items : List Item) {depth : Nat}
    (h : (items.flatMap Item.tokens).length < depth) :
    Item.readAll depth (items.flatMap Item.tokens) = some items := by
  -- An item is read at one level of the depth, and the others below it. There are more
  -- levels than tokens, so one is left for the end.
  induction items generalizing depth with
  | nil =>
      cases depth with
      | zero => omega
      | succ depth => rfl
  | cons item items ih =>
      cases depth with
      | zero => omega
      | succ depth =>
          rw [List.flatMap_cons, List.length_append] at h
          rw [List.flatMap_cons]
          -- A variable and a function begin alike, up to the mark behind the name.
          cases item with
          | directive line =>
              have hitems : Item.readAll depth (items.flatMap Item.tokens) = some items :=
                ih (by simp only [Item.tokens, List.length_cons] at h; omega)
              show (Item.readAll depth (items.flatMap Item.tokens)).bind _ = _
              rw [hitems]
              rfl
          | global x =>
              have hitems : Item.readAll depth (items.flatMap Item.tokens) = some items :=
                ih (by simp only [Item.tokens, declarator, List.length_append,
                  List.length_cons] at h; omega)
              rw [Item.tokens, List.append_assoc]
              show (readDeclarator (declarator x ++ .mark ';' :: items.flatMap Item.tokens)).bind _
                = _
              rw [readDeclarator_declarator]
              show (Item.readAll depth (items.flatMap Item.tokens)).bind _ = _
              rw [hitems]
              rfl
          | function f =>
              simp only [Item.tokens, declarator, List.length_append, List.length_cons] at h
              have hitems : Item.readAll depth (items.flatMap Item.tokens) = some items :=
                ih (by omega)
              rw [Item.tokens, List.append_assoc]
              show (readDeclarator (declarator f.name
                ++ .mark '(' :: (f.tailTokens ++ items.flatMap Item.tokens))).bind _ = _
              rw [readDeclarator_declarator]
              show (Function.readTail f.name depth
                (f.tailTokens ++ items.flatMap Item.tokens)).bind _ = _
              rw [f.readTail_tokens (by omega)]
              show (Item.readAll depth (items.flatMap Item.tokens)).bind _ = _
              rw [hitems]
              rfl

/-- A program that was written is read back. -/
theorem Program.ofTokens?_tokens (program : Program) :
    Program.ofTokens? program.tokens = some program := by
  rw [Program.ofTokens?, Program.tokens, Item.readAll_tokens program.items (Nat.lt_succ_self _)]
  rfl

end Phrasebook.C
