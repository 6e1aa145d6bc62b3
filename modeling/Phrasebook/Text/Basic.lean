import Phrasebook.Text.Fragment

/-!
# `Phrasebook.Text.Basic`: texts

A `Text` keeps what was written beside what it stands for. The generated C
function is made from the written form, the table and the JSON document from the
value.
-/

set_option autoImplicit false

namespace Phrasebook

/-- A text as it is written, with escapes, and the text that it stands for. -/
structure Text where
  source : String
  value : String
deriving DecidableEq, Repr

namespace Text

/-- The byte at which reading a text stopped, if `rest` is left of it. -/
def stopByte (source rest : List Char) : Nat :=
  byteLength source - byteLength rest

/-- The text written as `source`. It is refused if something is left behind its
fragments. This begins with a backslash, and the character that is found is the one
behind it. -/
def parse (source : String) : Except BadEscape Text :=
  match Fragment.readAll source.toList with
  | (fragments, []) => .ok ⟨source, .ofList (fragments.flatMap Fragment.value)⟩
  | (_, rest) =>
    let place := fromByte? (stopByte source.toList rest) source.toList
    .error ⟨place.bind fun behind => behind[1]?⟩

/-- A text keeps its source as it was written. -/
theorem source_of_parse {source : String} {text : Text}
    (h : parse source = .ok text) : text.source = source := by
  unfold parse at h
  split at h
  · cases h
    rfl
  · cases h

example : parse "é\\\\" = .ok ⟨"é\\\\", "é\\"⟩ := by rfl
example : parse "é\\é" = .error ⟨some 'é'⟩ := by rfl

end Text

end Phrasebook
