import Phrasebook.Text.Alphanumeric

/-!
# `Phrasebook.Log.Pattern`: which patterns are regular expressions

A pattern is read from left to right, and a `State` keeps what matters for the
rest of it: how many groups and character classes are open, and what the next
character can be. The pattern is well formed if every character has a place and
nothing is left open at the end (`isWellFormed`).

Groups may have names or flags. A class may hold ranges, further classes and
operations on them. A pattern is used without tables of characters, so that an
escape for a kind of characters, a word boundary and the flag for letters of
either case are refused. So are references back and looks around. A brace opens
a count, and as a pattern stands within braces itself no count can be closed.
-/

set_option autoImplicit false

namespace Phrasebook.Pattern

/-- Where a single character, plain or escaped, can stand. -/
inductive Place where
  /-- Outside of classes. -/
  | outside
  /-- In a class. -/
  | member
  /-- In a class, behind a character and a hyphen. -/
  | upperEnd (low : Char)
deriving DecidableEq, Repr

/-- What the next character can be. -/
inductive Expectation where
  /-- Any part of a pattern. `repeatable` tells whether the part in front of it
  can be repeated. -/
  | part (repeatable : Bool)
  /-- The letter of an escape. -/
  | escape (place : Place)
  /-- A hexadecimal digit, of which `left` more come after it. -/
  | digit (place : Place) (left value : Nat)
  /-- What follows an opening parenthesis. -/
  | groupStart
  /-- What follows an opening parenthesis and a question mark. -/
  | groupKind
  /-- The angle bracket in front of a name. -/
  | nameMark
  /-- A character of the name of a group. `name` is what it has so far, the last
  character first. -/
  | name (name : List Char)
  /-- A flag. `flags` are those in front of it, the last one first. -/
  | flag (flags : List Char)
  /-- What follows an opening bracket. -/
  | classStart
  /-- The same, after the mark of a complement. -/
  | classBody
  /-- The same, after a hyphen in the first place. -/
  | classHyphens
  /-- A member of a class. -/
  | member
  /-- A hyphen that makes a range with the character `low`, or a member.
  `escaped` tells how `low` was written. -/
  | afterMember (low : Char) (escaped : Bool)
  /-- The upper end of a range from `low`. -/
  | upperEnd (low : Char)
deriving DecidableEq, Repr

/-- How far a pattern has been read. -/
structure State where
  /-- How many groups are open. -/
  groups : Nat
  /-- How many classes are open, one within the other. -/
  classes : Nat
  /-- The names of groups, each the last character first. -/
  names : List (List Char)
  next : Expectation
deriving DecidableEq, Repr

/-- Before the first character. -/
def State.start : State := ⟨0, 0, [], .part false⟩

/-- The character that an escape with this letter stands for. -/
def escapedChar? (letter : Char) : Option Char :=
  match letter with
  | 'a' => some '\x07'
  | 'f' => some '\x0c'
  | 'n' => some '\n'
  | 'r' => some '\r'
  | 't' => some '\t'
  | 'v' => some '\x0b'
  | c => if c.toNat < 128 && !c.isAlphanum && c != '<' && c != '>' then some c else none

/-- How many hexadecimal digits an escape with this letter has. -/
def digitCount? (letter : Char) : Option Nat :=
  match letter with
  | 'x' => some 2
  | 'u' => some 4
  | 'U' => some 8
  | _ => none

/-- The value of a hexadecimal digit. -/
def digitValue? (c : Char) : Option Nat :=
  if c.isDigit then some (c.toNat - '0'.toNat)
  else if 'a' ≤ c && c ≤ 'f' then some (c.toNat - 'a'.toNat + 10)
  else if 'A' ≤ c && c ≤ 'F' then some (c.toNat - 'A'.toNat + 10)
  else none

/-- The flags of a group. The hyphen takes back those that follow it. -/
def isFlag (c : Char) : Bool := "imsURux-".toList.contains c

/-- Whether `c` can stand in the name of a group, behind `name`. A name does not
begin with a digit. -/
def isNameChar (name : List Char) (c : Char) : Bool :=
  if name.isEmpty then
    c == '_' || (Alphanumeric.isAlphanumeric c && !c.isDigit)
  else
    c == '_' || c == '.' || c == '[' || c == ']' || Alphanumeric.isAlphanumeric c

namespace State

/-- Goes on with another expectation. -/
def expect (state : State) (next : Expectation) : State := { state with next }

/-- Takes a single character. -/
def single (state : State) (place : Place) (c : Char) (escaped : Bool) :
    Option State :=
  match place with
  | .outside => some (state.expect (.part true))
  | .member => some (state.expect (.afterMember c escaped))
  | .upperEnd low => if low ≤ c then some (state.expect .member) else none

/-- Takes the letter of an escape. An assertion about the ends of the text is no
single character, and has no place in a class. -/
def escape (state : State) (place : Place) (letter : Char) : Option State :=
  match digitCount? letter with
  | some count => some (state.expect (.digit place (count - 1) 0))
  | none =>
    if place = .outside && (letter == 'A' || letter == 'z') then
      some (state.expect (.part true))
    else (escapedChar? letter).bind (state.single place · true)

/-- Takes a hexadecimal digit. The last one completes a character. -/
def digit (state : State) (place : Place) (left value : Nat) (c : Char) :
    Option State := do
  let value := 16 * value + (← digitValue? c)
  match left with
  | left + 1 => some (state.expect (.digit place left value))
  | 0 =>
    if value.isValidChar then state.single place (.ofNat value) true else none

/-- Takes a part that stands outside of classes, or its first character. -/
def part (state : State) (repeatable : Bool) (c : Char) : Option State :=
  match c with
  | '(' => some { state with groups := state.groups + 1, next := .groupStart }
  | ')' =>
    match state.groups with
    | 0 => none
    | groups + 1 => some { state with groups, next := .part true }
  | '|' => some (state.expect (.part false))
  | '[' => some { state with classes := 1, next := .classStart }
  | '*' => if repeatable then some (state.expect (.part true)) else none
  | '+' => if repeatable then some (state.expect (.part true)) else none
  | '?' => if repeatable then some (state.expect (.part true)) else none
  | '{' => none
  | '\\' => some (state.expect (.escape .outside))
  | c => state.single .outside c false

/-- Takes a character behind the question mark of a group. -/
def groupKind (state : State) (c : Char) : Option State :=
  match c with
  | ':' => some (state.expect (.part false))
  | 'P' => some (state.expect .nameMark)
  | '<' => some (state.expect (.name []))
  | c => if isFlag c then some (state.expect (.flag [c])) else none

/-- Takes a character of a name, or its end. No two groups have one name. -/
def name (state : State) (name : List Char) (c : Char) : Option State :=
  if isNameChar name c then some (state.expect (.name (c :: name)))
  else if c = '>' && !name.isEmpty && !state.names.contains name then
    some { state with names := name :: state.names, next := .part false }
  else none

/-- Whether these flags, the last one first, are complete and can be had. -/
def accepts (flags : List Char) : Bool :=
  flags.head? != some '-'
    && (!flags.contains 'i' || (flags.dropWhile (· != 'i')).contains '-')

/-- Takes a flag, or the end of the flags. A colon begins the group for which
they count. Without it there is no group, and nothing that could be repeated. -/
def flag (state : State) (flags : List Char) (c : Char) : Option State :=
  if c = ':' && accepts flags then some (state.expect (.part false))
  else if c = ')' && accepts flags then
    some { state with groups := state.groups - 1, next := .part false }
  else if isFlag c && !flags.contains c then
    some (state.expect (.flag (c :: flags)))
  else none

/-- Takes a member of a class, or its first character, or the end of the
class. -/
def member (state : State) (c : Char) : Option State :=
  match c with
  | '[' => some { state with classes := state.classes + 1, next := .classStart }
  | ']' =>
    let classes := state.classes - 1
    some { state with
      classes, next := if classes = 0 then .part true else .member }
  | '\\' => some (state.expect (.escape .member))
  | c => state.single .member c false

/-- Takes the first character of a class, behind the mark of a complement. A
closing bracket is a member there. -/
def classBody (state : State) (c : Char) : Option State :=
  match c with
  | '-' => some (state.expect .classHyphens)
  | ']' => some (state.expect .member)
  | c => state.member c

/-- Takes what follows a member of a class. Two hyphens, ampersands or tildes are
an operation, and the second class begins behind them. -/
def afterMember (state : State) (low : Char) (escaped : Bool) (c : Char) :
    Option State :=
  if c = low && !escaped && (c == '-' || c == '&' || c == '~') then
    some (state.expect .member)
  else if c = '-' then some (state.expect (.upperEnd low))
  else state.member c

/-- Takes the upper end of a range. -/
def upperEnd (state : State) (low c : Char) : Option State :=
  match c with
  | ']' => state.member ']'
  | '-' => some (state.expect .member)
  | '\\' => some (state.expect (.escape (.upperEnd low)))
  | c => state.single (.upperEnd low) c false

/-- Takes the next character. -/
def step (state : State) (c : Char) : Option State :=
  match state.next with
  | .part repeatable => state.part repeatable c
  | .escape place => state.escape place c
  | .digit place left value => state.digit place left value c
  | .groupStart =>
    if c = '?' then some (state.expect .groupKind) else state.part false c
  | .groupKind => state.groupKind c
  | .nameMark => if c = '<' then some (state.expect (.name [])) else none
  | .name name => state.name name c
  | .flag flags => state.flag flags c
  | .classStart =>
    if c = '^' then some (state.expect .classBody) else state.classBody c
  | .classBody => state.classBody c
  | .classHyphens =>
    if c = '-' then some (state.expect .classHyphens) else state.member c
  | .member => state.member c
  | .afterMember low escaped => state.afterMember low escaped c
  | .upperEnd low => state.upperEnd low c

/-- Whether a pattern can end here. -/
def isComplete (state : State) : Bool :=
  state.groups == 0
    && match state.next with
      | .part _ => true
      | _ => false

end State

/-- Whether a pattern is a regular expression. -/
def isWellFormed (pattern : List Char) : Bool :=
  (pattern.foldlM State.step .start).any State.isComplete

example : ["", "f.*", "^a|b$", "(a)*?", "(?P<x>a)(?<y>)", "(?s-m:.)", "[^]a-z-]",
    "[a&&[^b]]", "[[:alpha:]]", "\\.\\x41", "a]"].all (isWellFormed ·.toList) := by
  decide +kernel
example : ["*", "(", "a)", "(?)", "(?=a)", "[", "[]", "[z-a]", "[a", "\\", "\\d",
    "\\1", "a\x7b2", "(?i)", "|+"].any (isWellFormed ·.toList) = false := by
  decide

end Phrasebook.Pattern
