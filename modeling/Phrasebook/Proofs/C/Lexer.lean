import Phrasebook.Cascade.Identifier
import Phrasebook.Text.Escape

/-!
# `Phrasebook.Proofs.C.Lexer`: the words of a C file

The generated file is read as C. The first stage is an automaton that takes the
file character by character and gives out tokens. It knows what the generated
file needs of C:

- A string literal ends at the first quote that no backslash takes, and stands
  for its body with the escapes decoded. It cannot go over a line end.
- A comment and a directive end with their line. Only a line feed ends a line.
- A backslash outside of literals is refused, since one at the end of a line
  would join the line with the next. A word right before a literal is refused,
  since it would be a prefix of the literal.

Whatever else a C file may hold is refused too, so the automaton reads less than
C. `run_append` lets a file be read piece by piece.
-/

set_option autoImplicit false

namespace Phrasebook.C

/-- A token of a C file. A literal is given by the text that it stands for. -/
inductive Token where
  | word (name : String)
  | literal (value : String)
  | mark (c : Char)
  | equal
  | directive (line : String)
deriving DecidableEq, Repr

/-- What the automaton is in the middle of. Characters are held latest first. -/
inductive Scan where
  /-- Nothing. `fresh` tells whether the line has no token yet. -/
  | between (fresh : Bool)
  | word (chars : List Char)
  | literal (body : List Char)
  /-- A literal, behind a backslash that takes the next character. -/
  | taking (body : List Char)
  /-- Behind one of the two characters of `==`. -/
  | equal
  /-- Behind one of the two slashes that begin a comment. -/
  | slash
  | comment
  | directive (chars : List Char)
deriving DecidableEq, Repr

namespace Scan

/-- The characters that are tokens of their own. -/
def marks : List Char := ['(', ')', '\x7b', '\x7d', ';', ',', '*']

/-- A character that does not belong to the token before it. -/
def start (fresh : Bool) (c : Char) : Option (Scan × List Token) :=
  if c = '\n' then some (between true, [])
  else if c = ' ' then some (between fresh, [])
  else if continuesIdentifier c then some (word [c], [])
  else if c = '"' then some (literal [], [])
  else if c = '=' then some (equal, [])
  else if c = '/' then some (slash, [])
  else if c = '#' && fresh then some (directive [], [])
  else if marks.contains c then some (between false, [.mark c])
  else none

/-- The token of a literal that has been closed. -/
def closeLiteral (body : List Char) : Option (Scan × List Token) :=
  match Escape.decode body.reverse with
  | .ok value => some (between false, [.literal (.ofList value)])
  | .error _ => none

/-- One more character, with the tokens that it completes. -/
def step : Scan → Char → Option (Scan × List Token)
  | between fresh, c => start fresh c
  | word chars, c =>
    if continuesIdentifier c then some (word (c :: chars), [])
    else if c = '"' then none
    else (start false c).map fun (s, ts) => (s, .word (.ofList chars.reverse) :: ts)
  | literal body, c =>
    if c = '"' then closeLiteral body
    else if c = '\\' then some (taking body, [])
    else if c = '\n' then none
    else some (literal (c :: body), [])
  | taking body, c =>
    if c = '\n' then none else some (literal (c :: '\\' :: body), [])
  | equal, c => if c = '=' then some (between false, [.equal]) else none
  | slash, c => if c = '/' then some (comment, []) else none
  | comment, c =>
    if c = '\n' then some (between true, [])
    else if c = '\\' then none
    else some (comment, [])
  | directive chars, c =>
    if c = '\n' then some (between true, [.directive (.ofList chars.reverse)])
    else if c = '\\' then none
    else some (directive (c :: chars), [])

/-- Some more characters. -/
def run : Scan → List Char → Option (Scan × List Token)
  | s, [] => some (s, [])
  | s, c :: rest =>
    match step s c with
    | none => none
    | some (next, ts) => (run next rest).map fun (last, us) => (last, ts ++ us)

/-- A file can be read in two portions. -/
theorem run_append {s m last : Scan} {front back : List Char} {ts us : List Token}
    (hfront : run s front = some (m, ts)) (hback : run m back = some (last, us)) :
    run s (front ++ back) = some (last, ts ++ us) := by
  -- By induction on the first portion, for the state and the tokens that are left of it.
  induction front generalizing s ts with
  | nil =>
      cases hfront
      exact hback
  | cons c front ih =>
      rw [run] at hfront
      rw [List.cons_append, run]
      cases hstep : step s c with
      | none => rw [hstep] at hfront; cases hfront
      | some result =>
          obtain ⟨next, vs⟩ := result
          rw [hstep] at hfront
          -- `vs` comes from `c` and `ws` from the rest of the first portion.
          obtain ⟨⟨m', ws⟩, hrest, heq⟩ := Option.map_eq_some_iff.mp hfront
          cases heq
          show (run next (front ++ back)).map _ = _
          rw [ih hrest, Option.map_some, List.append_assoc]

/-- The characters of a word stay together. -/
theorem run_word {chars name : List Char} (h : name.all continuesIdentifier) :
    run (word chars) name = some (word (name.reverse ++ chars), []) := by
  induction name generalizing chars with
  | nil => rfl
  | cons c name ih =>
      obtain ⟨hc, hname⟩ := Bool.and_eq_true_iff.mp (List.all_cons ▸ h)
      have hstep : step (word chars) c = some (word (c :: chars), []) := by
        rw [step, if_pos hc]
      rw [run, hstep]
      show (run (word (c :: chars)) name).map _ = _
      rw [ih hname, List.reverse_cons, List.append_assoc]
      rfl

/-- An identifier is read as one word. -/
theorem run_identifier (fresh : Bool) (x : Identifier) :
    run (between fresh) x.name.toList = some (word x.name.toList.reverse, []) := by
  have hvalid := x.valid
  unfold isIdentifier at hvalid
  cases hname : x.name.toList with
  | nil => rw [hname] at hvalid; cases hvalid
  | cons c rest =>
      rw [hname] at hvalid
      obtain ⟨hc, hrest⟩ := Bool.and_eq_true_iff.mp hvalid
      have hword : continuesIdentifier c := by
        rcases Bool.or_eq_true_iff.mp hc with hc | hc
        · simp [continuesIdentifier, Char.isAlphanum, hc]
        · simp [continuesIdentifier, hc]
      -- `start` asks for a line end and a blank before it asks for a word.
      have hnewline : c ≠ '\n' := by rintro rfl; revert hc; decide
      have hblank : c ≠ ' ' := by rintro rfl; revert hc; decide
      have hstep : step (between fresh) c = some (word [c], []) := by
        rw [step, start, if_neg hnewline, if_neg hblank, if_pos hword]
      rw [run, hstep]
      show (run (word [c]) rest).map _ = _
      rw [run_word hrest, List.reverse_cons]
      rfl

/-- A mark ends the word before it. -/
theorem run_identifier_mark (fresh : Bool) (x : Identifier) {c : Char} (hc : c ∈ marks) :
    run (between fresh) (x.name.toList ++ [c]) = some (between false, [.word x.name, .mark c]) := by
  have hmark : ∀ chars, run (word chars) [c]
      = some (between false, [.word (.ofList chars.reverse), .mark c]) := by
    intro chars
    simp only [marks, List.mem_cons, List.not_mem_nil, or_false] at hc
    rcases hc with rfl | rfl | rfl | rfl | rfl | rfl | rfl <;> rfl
  have happend := run_append (run_identifier fresh x) (hmark _)
  rwa [List.reverse_reverse, String.ofList_toList] at happend

end Scan

/-- The tokens of a file, if it ends with a line end. -/
def tokens? (text : List Char) : Option (List Token) :=
  match Scan.run (.between true) text with
  | some (.between true, ts) => some ts
  | _ => none

example : tokens? "// x\n#y\nif (a_1 == \"\\\"\\n\")\n".toList
    = some [.directive "y", .word "if", .mark '(', .word "a_1", .equal, .literal "\"\n",
      .mark ')'] := by
  rfl

end Phrasebook.C
