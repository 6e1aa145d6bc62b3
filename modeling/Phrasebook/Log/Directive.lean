import Phrasebook.Log.Condition
import Phrasebook.Log.Event
import Phrasebook.Text.Blank

/-!
# `Phrasebook.Log.Directive`: a limit for some of the events

A directive sets a limit for the events that it applies to. It is written as a
level, as a target, or as both with an equals sign between them, and a target
alone admits every level. Behind the target, or instead of it, brackets can ask
for a span and, in braces, for a field: `target[span{field}]=level`.

A level is given by its name in any case, or by its place from 0 to 5.
-/

set_option autoImplicit false

namespace Phrasebook

/-- A limit for the events that meet some conditions: the highest rank of a level
that is shown. -/
structure Directive where
  /-- What the scope of the event begins with. -/
  target : String
  /-- The span that the event is raised in. -/
  span : Option String
  /-- A field that the event has. -/
  field : Option FieldCondition
  limit : Nat
deriving DecidableEq, Repr

namespace Directive

/-- The directive that asks for nothing but a target. -/
def forTarget (target : String) (limit : Nat) : Directive :=
  ⟨target, none, none, limit⟩

/-- Whether the directive applies to an event. No event is raised in a span, and
only a span is asked for the values of its fields. -/
def applies (directive : Directive) (event : Event) : Bool :=
  directive.span.isNone
    && directive.target.toList.isPrefixOf event.scope.toList
    && directive.field.all fun field =>
      field.value.isNone && event.fieldNames.contains field.name

/-- Whether a field gives way to another one. To ask for no field gives way to
everything, and of two names the smaller one gives way. -/
def fieldYields (field other : Option FieldCondition) : Bool :=
  match field, other with
  | none, _ => true
  | some _, none => false
  | some field, some other => decide (field.name ≤ other.name)

/-- Whether the directive gives way to a later one that applies to the same
event. The longer target decides, and then the field. -/
def yields (directive later : Directive) : Bool :=
  directive.target.length < later.target.length
    || (directive.target.length == later.target.length
      && fieldYields directive.field later.field)

/-! ### Levels -/

/-- A number from 0 to 5 as a limit. It may have a plus sign and zeros in
front. -/
def limitNumber? (written : List Char) : Option Nat :=
  let digits := if written.head? = some '+' then written.tail else written
  let number := digits.foldl (fun n c => 10 * n + (c.toNat - '0'.toNat)) 0
  if !digits.isEmpty && digits.all Char.isDigit && number ≤ Level.trace.rank then
    some number
  else none

/-- The limit with a name. -/
def limitName? (name : String) : Option Nat :=
  match name with
  | "off" => some 0
  | "error" => some Level.error.rank
  | "warn" => some Level.warn.rank
  | "info" => some Level.info.rank
  | "debug" => some Level.debug.rank
  | "trace" => some Level.trace.rank
  | _ => none

/-- The limit that a written level sets. -/
def limit? (written : List Char) : Option Nat :=
  (limitNumber? written).or (limitName? (.ofList (written.map Char.toLower)))

/-- The limit that is written behind an equals sign. To write nothing admits every
level. -/
def assigned? (written : List Char) : Option Nat :=
  if written.isEmpty then some Level.trace.rank else limit? written

/-! ### Written directives

Blanks at the ends of a directive do not count where it is cut into parts. But
the cuts are then made at the same distances from the beginning of the directive
with its blanks. So blanks in front shift every part, and blanks behind belong to
a part that goes on to the end. -/

/-- A character that tells where to cut, and the character at the same distance
in the directive with its blanks. -/
structure Cell where
  guide : Char
  char : Char
deriving DecidableEq, Repr

/-- The text of some cells. -/
def Cell.text (cells : List Cell) : List Char := cells.map Cell.char

/-- Whether a directive can begin with `c`. -/
def isStart (c : Char) : Bool :=
  c == '[' || c == '-' || c == ':' || c == '_' || Alphanumeric.isAlphanumeric c

/-- The limit at the end of a directive: none is written, or there is an equals
sign in front of it. `overhang` is what stands behind the last cell. -/
def readLimit (overhang : List Char) : List Cell → Option Nat
  | [] => some Level.trace.rank
  | mark :: level =>
    if mark.guide = '=' then assigned? (Cell.text level ++ overhang) else none

/-- The directive with a target, from what follows its opening bracket. A span
without a name is one as well, unless a field follows. -/
def readBrackets (target : String) (overhang : List Char) (cells : List Cell) :
    Option Directive :=
  let inSpan (cell : Cell) : Bool := cell.guide != ']' && cell.guide != '{'
  let span := String.ofList (Cell.text (cells.takeWhile inSpan))
  match cells.dropWhile inSpan with
  | [] => none
  | mark :: rest =>
    if mark.guide = ']' then do
      return ⟨target, some span, none, ← readLimit overhang rest⟩
    else
      let field := Cell.text (rest.takeWhile (·.guide != '}'))
      match rest.dropWhile (·.guide != '}') with
      | _ :: close :: rest =>
        if close.guide = ']' && !field.isEmpty then do
          let span := if span.isEmpty then none else some span
          let condition ← FieldCondition.parse? field
          return ⟨target, span, some condition, ← readLimit overhang rest⟩
        else none
      | _ => none

/-- A directive that is neither assigned a level nor has brackets: a level, or
else a target. -/
def ofWord (word : List Char) : Directive :=
  match limit? word with
  | some limit => forTarget "" limit
  | none => forTarget (.ofList word) Level.trace.rank

/-- A written directive. -/
def parse? (written : List Char) : Option Directive :=
  let body := Blank.trim written
  let overhang := written.drop body.length
  let inTarget (cell : Cell) : Bool := cell.guide != '=' && cell.guide != '['
  let cells := List.zipWith Cell.mk body written
  let target := String.ofList (Cell.text (cells.takeWhile inTarget))
  if !body.head?.any isStart then none
  else
    match cells.dropWhile inTarget with
    | [] => some (ofWord written)
    | mark :: rest =>
      if mark.guide = '[' then readBrackets target overhang rest
      else (readLimit overhang (mark :: rest)).map (forTarget target)

example : parse? "Debug".toList = some (forTarget "" 4) := by rfl
example : parse? "debug ".toList = some (forTarget "debug " 5) := by rfl
example : parse? "a::b=+03".toList = some (forTarget "a::b" 3) := by rfl
example : parse? "a=info ".toList = none := by rfl
example : parse? "a[b{c=.*}]=2".toList
    = some ⟨"a", some "b", some ⟨"c", some ".*"⟩, 2⟩ := by
  rfl
example : parse? "[]".toList = some ⟨"", some "", none, 5⟩ := by rfl
example : parse? "[{a}] ".toList = some ⟨"", none, some ⟨"a", none⟩, 5⟩ := by rfl

end Directive

end Phrasebook
