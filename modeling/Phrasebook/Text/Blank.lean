/-!
# `Phrasebook.Text.Blank`: blank characters

The blank characters are those that Unicode calls white space: some controls, the
space, and the spaces and line ends of other scripts.
-/

set_option autoImplicit false

namespace Phrasebook.Blank

/-- Whether `c` is a blank. -/
def isBlank (c : Char) : Bool :=
  ('\x09' ≤ c && c ≤ '\x0d') || c == ' ' || c == '\x85' || c == '\xa0'
    || c == '\u1680' || ('\u2000' ≤ c && c ≤ '\u200a') || c == '\u2028'
    || c == '\u2029' || c == '\u202f' || c == '\u205f' || c == '\u3000'

/-- A text without the blanks at its two ends. -/
def trim (text : List Char) : List Char :=
  ((text.dropWhile isBlank).reverse.dropWhile isBlank).reverse

/-- A text that has no blank at its ends is left as it is. -/
theorem trim_eq_self {text : List Char}
    (first : ∀ c ∈ text.head?, isBlank c = false)
    (last : ∀ c ∈ text.getLast?, isBlank c = false) : trim text = text := by
  have front : text.dropWhile isBlank = text := by
    cases text with
    | nil => rfl
    | cons c rest => simp [first c (by simp)]
  have back : text.reverse.dropWhile isBlank = text.reverse := by
    cases hr : text.reverse with
    | nil => rfl
    | cons c rest =>
      have : text.getLast? = some c := by
        rw [← List.head?_reverse, hr]; rfl
      simp [last c (by simp [this])]
  rw [trim, front, back, List.reverse_reverse]

example : trim " \u3000a b\n".toList = "a b".toList := by decide

end Phrasebook.Blank
