import Phrasebook.Text.Escape

/-!
# `Phrasebook.Text.Fragment`: a written text in fragments

A written text is read in fragments, from left to right. A fragment is a run of
characters up to the next backslash, or an escape. Fragments are read for as long
as one begins, and then the text has to be at its end.

If it is not, the place where reading stopped is known as a number of bytes from
the start. The text is cut there again to see what stands at the place.

- `Fragment.first?` reads one fragment, `Fragment.readAll` as many as there are.
- `fromByte?` cuts a text at a byte.
-/

set_option autoImplicit false

namespace Phrasebook

/-- A part of a written text that is read in one go. -/
inductive Fragment where
  /-- Characters that stand for themselves. -/
  | run (chars : List Char)
  /-- The character that an escape names. -/
  | escape (c : Char)
deriving DecidableEq, Repr

namespace Fragment

/-- The characters that a fragment stands for. -/
def value : Fragment → List Char
  | run chars => chars
  | escape c => [c]

/-- The longest run at the start of a text, and what is behind it. A run has at
least one character. -/
def run? (text : List Char) : Option (Fragment × List Char) :=
  let chars := text.takeWhile (· != '\\')
  if chars.isEmpty then none else some (run chars, text.dropWhile (· != '\\'))

/-- The escape at the start of a text, and what is behind it. -/
def escape? : List Char → Option (Fragment × List Char)
  | '\\' :: letter :: rest => (Escape.named? letter).map fun c => (escape c, rest)
  | _ => none

/-- The fragment at the start of a text, and what is behind it. Where no run
begins, the text is tried from the same place again. -/
def first? (text : List Char) : Option (Fragment × List Char) :=
  run? text <|> escape? text

/-- Reads at most `fuel` fragments. `read` holds those that were read before, the
latest first. The result is all of them in order, and what is left. -/
def readUpTo : Nat → List Fragment → List Char → List Fragment × List Char
  | 0, read, text => (read.reverse, text)
  | fuel + 1, read, text =>
    match first? text with
    | none => (read.reverse, text)
    | some (fragment, rest) => readUpTo fuel (fragment :: read) rest

/-- Reads fragments for as long as one begins. Every fragment takes at least one
character, so there are no more fragments than characters. -/
def readAll (text : List Char) : List Fragment × List Char :=
  readUpTo text.length [] text

example : readAll "é\\na\\d".toList = ([run ['é'], escape '\n', run ['a']], ['\\', 'd']) := by
  rfl

end Fragment

/-- The number of bytes that a text has in UTF-8. -/
def byteLength : List Char → Nat
  | [] => 0
  | c :: rest => c.utf8Size + byteLength rest

/-- The text from a byte on. No text begins within a character or behind the
end. -/
def fromByte? : Nat → List Char → Option (List Char)
  | 0, text => some text
  | _ + 1, [] => none
  | offset + 1, c :: rest =>
    if c.utf8Size ≤ offset + 1 then fromByte? (offset + 1 - c.utf8Size) rest else none

example : fromByte? 2 "éa".toList = some ['a'] ∧ fromByte? 1 "éa".toList = none := by decide

end Phrasebook
