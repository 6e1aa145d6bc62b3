/-!
# `Phrasebook.Text.Escape`: escapes in written text

A text is written as the body of a C string literal. A backslash and one of
eleven characters name a single character. Every other character stands for
itself.

- `Escape.named?` is the table of the eleven escapes.
- `Escape.decode` is the rule for reading a written text character by character,
  from left to right. It refuses the text at the first backslash that begins no
  escape.
- `Escape.encode` writes any text so that `decode` gives it back.
-/

set_option autoImplicit false

namespace Phrasebook

/-- A backslash that begins no escape. `found` is the character after it, or
`none` if the text ends with the backslash. -/
structure BadEscape where
  found : Option Char
deriving DecidableEq, Repr

namespace Escape

/-- The character that a backslash followed by `letter` names. -/
def named? (letter : Char) : Option Char :=
  match letter with
  | 'n' => some '\n'
  | 'r' => some '\r'
  | 't' => some '\t'
  | 'a' => some '\x07'
  | 'b' => some '\x08'
  | 'f' => some '\x0c'
  | 'v' => some '\x0b'
  | '\\' => some '\\'
  | '"' => some '"'
  | '\'' => some '\''
  | '?' => some '?'
  | _ => none

/-- The letter that names `c` after a backslash, for the eleven characters that
have one. -/
def letter? (c : Char) : Option Char :=
  match c with
  | '\n' => some 'n'
  | '\r' => some 'r'
  | '\t' => some 't'
  | '\x07' => some 'a'
  | '\x08' => some 'b'
  | '\x0c' => some 'f'
  | '\x0b' => some 'v'
  | '\\' => some '\\'
  | '"' => some '"'
  | '\'' => some '\''
  | '?' => some '?'
  | _ => none

/-- The text that a written text stands for. -/
def decode : List Char → Except BadEscape (List Char)
  | [] => .ok []
  | '\\' :: [] => .error ⟨none⟩
  | '\\' :: letter :: rest =>
    match named? letter with
    | some c => (decode rest).map (c :: ·)
    | none => .error ⟨some letter⟩
  | c :: rest => (decode rest).map (c :: ·)

/-- One character, written as its escape if it has one. -/
def encodeChar (c : Char) : List Char :=
  match letter? c with
  | some letter => ['\\', letter]
  | none => [c]

/-- A written form of a text, with an escape wherever there is one. -/
def encode (text : List Char) : List Char :=
  text.flatMap encodeChar

/-! ### The two tables agree -/

/-- A letter of the table is read back as the character it was chosen for. -/
theorem named?_letter? {c letter : Char} (h : letter? c = some letter) :
    named? letter = some c := by
  unfold letter? at h
  split at h <;> first | (cases h; rfl) | simp at h

/-- A backslash always has a letter, so `encode` never copies one. -/
theorem letter?_backslash : letter? '\\' = some '\\' := rfl

/-- `decode` undoes `encode`, also in front of more text. -/
theorem decode_encode_append (text rest : List Char) :
    decode (encode text ++ rest) = (decode rest).map (text ++ ·) := by
  induction text with
  | nil =>
    rw [show encode [] ++ rest = rest from rfl]
    cases decode rest <;> rfl
  | cons c text ih =>
    have step : encode (c :: text) ++ rest
        = encodeChar c ++ (encode text ++ rest) := by
      simp [encode]
    rw [step, encodeChar]
    cases hc : letter? c with
    | some letter =>
      simp only [List.cons_append, List.nil_append, decode,
        named?_letter? hc, ih]
      cases decode rest <;> rfl
    | none =>
      have hne : c ≠ '\\' := by
        rintro rfl
        simp [letter?_backslash] at hc
      simp only [List.cons_append, List.nil_append]
      rw [decode.eq_4 _ _ (by simp [hne]) (by simp [hne]), ih]
      cases decode rest <;> rfl

/-- Every text has a written form that decodes to it. -/
theorem decode_encode (text : List Char) : decode (encode text) = .ok text := by
  simpa [decode, Except.map] using decode_encode_append text []

end Escape

end Phrasebook
