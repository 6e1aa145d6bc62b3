import Phrasebook.Proofs.Cascade.Quote

/-!
# `Phrasebook.Proofs.Text.Spelling`: a spelling for every value

Any text can be the value of a source. `Text.spell` writes it with an escape wherever
there is one. What it writes is read back (`parse_spell`), stands on one line
(`lineEnd_not_mem_spell`), and needs nothing more in a literal (`escape_spell`).
-/

set_option autoImplicit false

namespace Phrasebook

namespace Escape

/-- A text is encoded character by character. -/
theorem encode_cons (c : Char) (text : List Char) :
    encode (c :: text) = encodeChar c ++ encode text := by
  rw [encode, List.flatMap_cons, ← encode]

/-- A character that has an escape is not written as itself. So it does not occur,
unless an escape is written with it. -/
theorem not_mem_encode {c letter : Char} (escaped : letter? c = some letter)
    (backslash : c ≠ '\\') (unnamed : named? c = none) (text : List Char) :
    c ∉ encode text := by
  intro h
  obtain ⟨d, -, hd⟩ := List.mem_flatMap.mp h
  rw [encodeChar] at hd
  cases hletter : letter? d with
  | some other =>
      -- `c` would be the letter of an escape, or its backslash.
      rw [hletter] at hd
      simp only [List.mem_cons, List.not_mem_nil, or_false] at hd
      rcases hd with rfl | rfl
      · exact backslash rfl
      · rw [named?_letter? hletter] at unnamed
        cases unnamed
  | none =>
      rw [hletter] at hd
      obtain rfl := List.mem_singleton.mp hd
      rw [escaped] at hletter
      cases hletter

/-- Something is written for every character. -/
theorem encode_ne_nil {text : List Char} (h : text ≠ []) : encode text ≠ [] := by
  obtain ⟨c, rest, rfl⟩ := List.exists_cons_of_ne_nil h
  rw [encode_cons, encodeChar]
  cases letter? c <;> simp

end Escape

/-- In what is encoded every quote has its backslash. -/
theorem Quote.protect_encode (text : List Char) :
    protect false (Escape.encode text) = Escape.encode text := by
  -- Each character is written with or without an escape, and neither is a bare quote.
  induction text with
  | nil => rfl
  | cons c text ih =>
      rw [Escape.encode_cons, Escape.encodeChar]
      cases hletter : Escape.letter? c with
      | some letter =>
          show protect false ('\\' :: letter :: Escape.encode text) = _
          rw [protect_escape, ih]
          rfl
      | none =>
          -- Backslashes and quotes have an escape, so `c` is neither.
          have hbackslash : c ≠ '\\' := by
            rintro rfl
            cases hletter
          have hquote : c ≠ '"' := by
            rintro rfl
            cases hletter
          show protect false (c :: Escape.encode text) = _
          rw [protect_plain hbackslash hquote, ih]
          rfl

namespace Text

/-- A source for a value, with an escape wherever there is one. -/
def spell (value : String) : String :=
  .ofList (Escape.encode value.toList)

/-- The characters of a spelling. -/
theorem toList_spell (value : String) : (spell value).toList = Escape.encode value.toList := by
  rw [spell, String.toList_ofList]

/-- A value is read back from its spelling. -/
theorem parse_spell (value : String) : parse (spell value) = .ok ⟨spell value, value⟩ := by
  rw [parse_eq_decode, toList_spell, Escape.decode_encode]
  show Except.ok (Text.mk _ (.ofList value.toList)) = _
  rw [String.ofList_toList]

/-- No line ends within a spelling. -/
theorem lineEnd_not_mem_spell {c : Char} (h : c = '\n' ∨ c = '\r') (value : String) :
    c ∉ (spell value).toList := by
  rw [toList_spell]
  rcases h with rfl | rfl
  · exact Escape.not_mem_encode rfl (by decide) rfl _
  · exact Escape.not_mem_encode rfl (by decide) rfl _

/-- A spelling is the body of a literal as it is. -/
theorem escape_spell (value : String) : Quote.escape (spell value) = spell value := by
  rw [Quote.escape, toList_spell, Quote.protect_encode]
  rfl

/-- Only the empty value has an empty spelling. -/
theorem spell_ne_empty {value : String} (h : value ≠ "") : spell value ≠ "" := by
  have hvalue : value.toList ≠ [] := by simpa using h
  intro hspell
  have hnil := congrArg String.toList hspell
  rw [toList_spell] at hnil
  exact Escape.encode_ne_nil hvalue hnil

end Text

end Phrasebook
