/-!
# `Phrasebook.Text.Lines`: the lines of a file

A line feed ends a line, and one carriage return right before it belongs to the
line end. No other character ends a line. What follows the last line feed is a
line of its own unless it is empty, and it keeps a carriage return at its end.
-/

set_option autoImplicit false

namespace Phrasebook.Lines

/-- The byte-order mark, which a file may begin with. -/
def byteOrderMark : Char := '\ufeff'

/-- A file without the one byte-order mark that it may begin with. -/
def dropMark : List Char → List Char
  | [] => []
  | c :: rest => if c = byteOrderMark then rest else c :: rest

/-- Puts a character in front of the first line. -/
def consFirst (c : Char) : List (List Char) → List (List Char)
  | [] => [[c]]
  | line :: lines => (c :: line) :: lines

/-- The lines of a file, without their ends. -/
def split : List Char → List (List Char)
  | [] => []
  | '\n' :: rest => [] :: split rest
  | '\r' :: '\n' :: rest => [] :: split rest
  | c :: rest => consFirst c (split rest)

/-- The text with some lines, each ended by a line feed. -/
def join (lines : List String) : String :=
  String.join (lines.map (· ++ "\n"))

example : split "a\r\nb\n\nc".toList = ["a", "b", "", "c"].map String.toList := by
  decide
example : split "a\r\r\nb\r".toList = ["a\r", "b\r"].map String.toList := by decide
example : split "\n".toList = [[]] := by decide

end Phrasebook.Lines
