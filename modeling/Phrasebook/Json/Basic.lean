/-!
# `Phrasebook.Json.Basic`: JSON documents

The documents of this library hold strings, arrays and objects. They are laid out
with two spaces of indentation, one item or member a line. An empty array or
object is written in one piece.

In a string, a quote, a backslash and the control characters below U+0020 are
escaped, by a letter where JSON has one and by four hexadecimal digits elsewhere.
Every other character stands for itself.
-/

set_option autoImplicit false

namespace Phrasebook

/-- A JSON value. The members of an object are in order. -/
inductive Json where
  | string (text : String)
  | array (items : List Json)
  | object (members : List (String × Json))

namespace Json

/-- A hexadecimal digit, in lower case. -/
def hexDigit (n : Nat) : Char :=
  if n < 10 then Char.ofNat (n + 48) else Char.ofNat (n + 87)

/-- A character within a string. -/
def escapeChar (c : Char) : List Char :=
  match c with
  | '"' => ['\\', '"']
  | '\\' => ['\\', '\\']
  | '\x08' => ['\\', 'b']
  | '\t' => ['\\', 't']
  | '\n' => ['\\', 'n']
  | '\x0c' => ['\\', 'f']
  | '\r' => ['\\', 'r']
  | c =>
    if c.toNat < 0x20 then
      ['\\', 'u', '0', '0', hexDigit (c.toNat / 16), hexDigit (c.toNat % 16)]
    else
      [c]

/-- A string with its quotes. -/
def quoted (text : String) : List Char :=
  '"' :: text.toList.flatMap escapeChar ++ ['"']

/-- A line end with the indentation of the next line. -/
def lineBreak (depth : Nat) : List Char :=
  '\n' :: List.replicate (2 * depth) ' '

mutual

/-- A value whose first line is indented `depth` times. -/
def layout (depth : Nat) : Json → List Char
  | .string text => quoted text
  | .array [] => ['[', ']']
  | .array (item :: items) =>
    '[' :: lineBreak (depth + 1) ++ layout (depth + 1) item
      ++ layoutItems (depth + 1) items ++ lineBreak depth ++ [']']
  | .object [] => ['\x7b', '\x7d']
  | .object ((key, value) :: members) =>
    '\x7b' :: lineBreak (depth + 1) ++ quoted key ++ [':', ' ']
      ++ layout (depth + 1) value
      ++ layoutMembers (depth + 1) members ++ lineBreak depth ++ ['\x7d']

/-- The items of an array after its first. -/
def layoutItems (depth : Nat) : List Json → List Char
  | [] => []
  | item :: items =>
    ',' :: lineBreak depth ++ layout depth item ++ layoutItems depth items

/-- The members of an object after its first. -/
def layoutMembers (depth : Nat) : List (String × Json) → List Char
  | [] => []
  | (key, value) :: members =>
    ',' :: lineBreak depth ++ quoted key ++ [':', ' '] ++ layout depth value
      ++ layoutMembers depth members

end

/-- A document: a value and a line end. -/
def document (value : Json) : String :=
  .ofList (layout 0 value ++ ['\n'])

example :
    (Json.object [("a", .array [.string "x\n", .array []])]).document
      = "\x7b\n  \"a\": [\n    \"x\\n\",\n    []\n  ]\n\x7d\n" := by rfl
example : quoted "\x1f\x7f" = "\"\\u001f\x7f\"".toList := by rfl

end Json

end Phrasebook
