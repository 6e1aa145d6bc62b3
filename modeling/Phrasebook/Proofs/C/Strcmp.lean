import Mathlib.Data.List.TakeWhile

/-!
# `Phrasebook.Proofs.C.Strcmp`: strings that end at a null character

In memory a string of C is a row of characters with a null character behind it.
`strcmp` walks along two of them. It stops at the first place where they differ, or
else at a null character, so it never sees what stands behind one within a literal.

`strcmp_eq_iff` says which strings it takes for equal: those that are the same up to
their first null characters. So two strings without any are told apart
(`strcmp_eq_iff_of_not_mem`), and a string with one is taken for its own beginning
(`strcmp_upToNull`).

The characters are compared as a whole. In UTF-8 the null character is the only one with
a null byte, and equal characters have equal bytes.
-/

set_option autoImplicit false

namespace Phrasebook.C

/-- The character that ends a string in memory. -/
def null : Char := '\x00'

/-- The order of two strings with a null character behind each of them. -/
def strcmp : List Char → List Char → Ordering
  | [], [] => .eq
  | [], d :: _ => if d = null then .eq else .lt
  | c :: _, [] => if c = null then .eq else .gt
  | c :: left, d :: right =>
    if c = d then
      if c = null then .eq else strcmp left right
    else compare c d

/-- What can be seen of a string. -/
def upToNull (text : List Char) : List Char := text.takeWhile (· ≠ null)

/-- Nothing can be seen of the empty string. -/
@[simp] theorem upToNull_nil : upToNull [] = [] := rfl

/-- Nothing can be seen behind a null character. -/
@[simp] theorem upToNull_null (rest : List Char) : upToNull (null :: rest) = [] := by
  simp [upToNull]

/-- Any other character can be seen. -/
@[simp] theorem upToNull_cons {c : Char} (h : c ≠ null) (rest : List Char) :
    upToNull (c :: rest) = c :: upToNull rest := by
  simp [upToNull, h]

/-- A string without a null character can be seen as a whole. -/
theorem upToNull_eq_self {text : List Char} (h : null ∉ text) : upToNull text = text := by
  rw [upToNull, List.takeWhile_eq_self_iff]
  intro c hc
  have hne : c ≠ null := fun e => h (e ▸ hc)
  exact decide_eq_true hne

/-- What can be seen has no null character. -/
theorem null_not_mem_upToNull (text : List Char) : null ∉ upToNull text := by
  intro h
  have hne : decide (null ≠ null) = true :=
    List.mem_takeWhile_imp (p := fun c => decide (c ≠ null)) h
  exact of_decide_eq_true hne rfl

/-- Two strings are taken for equal if they are the same up to their first null
characters. Induction on both, as the comparison goes. -/
theorem strcmp_eq_iff (left right : List Char) :
    strcmp left right = .eq ↔ upToNull left = upToNull right := by
  fun_induction strcmp left right with
  | case1 => simp
  | case2 => simp
  | case3 d _ hd => simp [hd]
  | case4 => simp
  | case5 c _ hc => simp [hc]
  | case6 left right => simp
  | case7 c left right hc ih =>
      rw [upToNull_cons hc, upToNull_cons hc, ih]
      simp
  | case8 c left d right hne =>
      -- The first place where they differ, so one of the two is not null.
      have hcompare : compare c d ≠ .eq := fun h => hne (Std.LawfulEqOrd.eq_of_compare h)
      have hseen : upToNull (c :: left) ≠ upToNull (d :: right) := by
        by_cases hc : c = null
        · have hd : d ≠ null := fun e => hne (hc.trans e.symm)
          rw [hc, upToNull_null, upToNull_cons hd]
          exact (List.cons_ne_nil _ _).symm
        · rw [upToNull_cons hc]
          by_cases hd : d = null
          · rw [hd, upToNull_null]
            exact List.cons_ne_nil _ _
          · rw [upToNull_cons hd]
            intro h
            exact hne (List.cons.inj h).1
      exact iff_of_false hcompare hseen

/-- Strings without null characters are told apart. -/
theorem strcmp_eq_iff_of_not_mem {left right : List Char} (hleft : null ∉ left)
    (hright : null ∉ right) : strcmp left right = .eq ↔ left = right := by
  rw [strcmp_eq_iff, upToNull_eq_self hleft, upToNull_eq_self hright]

/-- A string is taken for its own beginning. -/
theorem strcmp_upToNull (text : List Char) : strcmp (upToNull text) text = .eq := by
  rw [strcmp_eq_iff, upToNull_eq_self (null_not_mem_upToNull text)]

end Phrasebook.C
