import Mathlib.Data.List.Sort
import Phrasebook.Catalog.Summary

/-!
# `Phrasebook.Proofs.Catalog.Summary`: the languages in a summary

`insertSorted` keeps a list strictly increasing and adds one element to it at most.
So the languages of a catalog are in order, each of them once
(`pairwise_languages`), and they are the languages of its wordings
(`mem_languages`). Two such lists with the same members are the same:
`languages_congr`.

`Summary.read?` takes a summary line apart again. It gets back what the line was made
from, as long as every language has two characters (`Summary.read?_line`).
-/

set_option autoImplicit false

namespace Phrasebook

/-- A string that is put in is there, and nothing else is new. -/
theorem mem_insertSorted {lang new : String} {langs : List String} :
    lang ∈ insertSorted new langs ↔ lang = new ∨ lang ∈ langs := by
  induction langs with
  | nil => simp [insertSorted]
  | cons head rest ih =>
      rw [insertSorted]
      split
      · exact List.mem_cons
      · split
        · -- It is there already, as the head.
          rename_i hhead
          rw [hhead, List.mem_cons]
          exact ⟨.inr, fun h => h.elim .inl id⟩
        · rw [List.mem_cons, ih, List.mem_cons]
          exact or_left_comm

/-- A list in order stays in order, and no string comes twice. -/
theorem pairwise_insertSorted {new : String} {langs : List String}
    (h : langs.Pairwise (· < ·)) : (insertSorted new langs).Pairwise (· < ·) := by
  induction langs with
  | nil => exact List.pairwise_singleton _ _
  | cons head rest ih =>
      obtain ⟨hhead, hrest⟩ := List.pairwise_cons.mp h
      rw [insertSorted]
      split
      · rename_i hnew
        refine List.pairwise_cons.mpr ⟨?_, h⟩
        intro lang hlang
        rcases List.mem_cons.mp hlang with rfl | hlang
        · exact hnew
        · exact String.lt_trans hnew (hhead lang hlang)
      · rename_i hnew
        split
        · exact h
        · rename_i hne
          -- Strings are ordered one way or the other, and this one is neither less nor the
          -- same.
          have hlt : head < new := by
            by_contra hle
            exact hne (String.le_antisymm (String.not_lt.mp hle) (String.not_lt.mp hnew))
          refine List.pairwise_cons.mpr ⟨?_, ih hrest⟩
          intro lang hlang
          rcases mem_insertSorted.mp hlang with rfl | hlang
          · exact hlt
          · exact hhead lang hlang

namespace Catalog

/-- The languages of a catalog are those of its wordings. -/
theorem mem_languages {catalog : Catalog} {lang : String} :
    lang ∈ catalog.languages ↔ lang ∈ catalog.langs := by
  rw [languages]
  induction catalog.langs with
  | nil => rfl
  | cons head rest ih => rw [List.foldr_cons, mem_insertSorted, ih, List.mem_cons]

/-- The languages of a catalog are in order, and none comes twice. -/
theorem pairwise_languages (catalog : Catalog) : catalog.languages.Pairwise (· < ·) := by
  rw [languages]
  induction catalog.langs with
  | nil => exact .nil
  | cons head rest ih => exact pairwise_insertSorted ih

/-- Neither the order of the wordings nor their number in each language makes a
difference to the languages. -/
theorem languages_congr {catalog other : Catalog}
    (h : ∀ lang, lang ∈ catalog.langs ↔ lang ∈ other.langs) :
    catalog.languages = other.languages := by
  refine (pairwise_languages catalog).eq_of_mem_iff (pairwise_languages other) ?_
  intro lang
  rw [mem_languages, mem_languages, h]

end Catalog

/-! ### Reading a summary line -/

/-- What a summary line states. -/
structure Summary where
  records : Nat
  wordings : Nat
  languages : List String
deriving DecidableEq, Repr

namespace Summary

/-- The line that states a summary. -/
def line (s : Summary) : String :=
  toString s.records ++ " records, " ++ toString s.wordings ++ " translations, languages: "
    ++ ", ".intercalate s.languages ++ "\n"

/-- A number in decimal digits, and what stands behind it. -/
def readNumber? (text : List Char) : Option (Nat × List Char) :=
  let digits := text.takeWhile Char.isDigit
  if digits.isEmpty then none
  else some (Nat.ofDigitChars 10 digits 0, text.dropWhile Char.isDigit)

/-- The languages behind another one, up to the end of the line. -/
def readFurther? : List Char → Option (List String)
  | ['\n'] => some []
  | ',' :: ' ' :: first :: second :: rest =>
    (readFurther? rest).map (.ofList [first, second] :: ·)
  | _ => none

/-- All languages, up to the end of the line. -/
def readLanguages? : List Char → Option (List String)
  | ['\n'] => some []
  | first :: second :: rest => (readFurther? rest).map (.ofList [first, second] :: ·)
  | _ => none

/-- What a line states, if it is a summary line. -/
def read? (line : String) : Option Summary := do
  let (records, rest) ← readNumber? line.toList
  let (wordings, rest) ← readNumber? (← rest.dropPrefix? " records, ".toList)
  let languages ← readLanguages? (← rest.dropPrefix? " translations, languages: ".toList)
  return ⟨records, wordings, languages⟩

/-- A number ends at the first character that is no digit. -/
theorem readNumber?_toString (n : Nat) {words : List Char} {mark : Char}
    (hwords : words.head? = some mark) (hmark : mark.isDigit = false) (rest : List Char) :
    readNumber? ((toString n).toList ++ (words ++ rest)) = some (n, words ++ rest) := by
  obtain ⟨others, rfl⟩ := List.head?_eq_some_iff.mp hwords
  have hdigits : (toString n).toList = Nat.toDigits 10 n := Nat.toList_repr
  have hall : ∀ c ∈ Nat.toDigits 10 n, c.isDigit = true := by
    intro c hc
    exact Nat.isDigit_of_mem_toDigits (by omega) (by omega) hc
  have hvalue : Nat.ofDigitChars 10 (Nat.toDigits 10 n) 0 = n :=
    Nat.ofDigitChars_toDigits (by omega) (by omega)
  -- All digits are taken, and the mark behind them stops the reader.
  rw [hdigits, readNumber?, List.takeWhile_append_of_pos hall, List.dropWhile_append_of_pos hall]
  simp [hmark, hvalue, Nat.toDigits_ne_nil]

/-- Fixed words are dropped from the front of a text. -/
theorem dropPrefix?_append (words rest : List Char) :
    (words ++ rest).dropPrefix? words = some rest :=
  List.dropPrefix?_eq_some_iff.mpr ⟨words, rfl, beq_self_eq_true words⟩

/-- Languages with a comma in front of each are read to the end of the line. -/
theorem readFurther?_flatMap {languages : List String}
    (h : ∀ lang ∈ languages, lang.toList.length = 2) :
    readFurther? ((languages.flatMap fun lang => ',' :: ' ' :: lang.toList) ++ ['\n'])
      = some languages := by
  induction languages with
  | nil => rfl
  | cons lang languages ih =>
      obtain ⟨first, second, hlang⟩ := List.length_eq_two.mp (h lang List.mem_cons_self)
      have hrest := ih fun other hother => h other (List.mem_cons_of_mem _ hother)
      have htext : String.ofList [first, second] = lang := by rw [← hlang, String.ofList_toList]
      simp only [List.flatMap_cons, hlang, List.cons_append, List.nil_append, readFurther?, hrest,
        Option.map_some, htext]

/-- Behind the first of some joined strings, each comes with its separator. -/
theorem toList_intercalate_cons (mark first : String) (others : List String) :
    (mark.intercalate (first :: others)).toList
      = first.toList ++ others.flatMap fun other => mark.toList ++ other.toList := by
  rw [String.toList_intercalate]
  -- By induction on the others, where the next one takes the place of `first`.
  induction others generalizing first with
  | nil => simp
  | cons other others ih =>
      have hrest := ih other
      rw [List.map_cons] at hrest
      rw [List.map_cons, List.map_cons, List.intercalate_cons_cons, hrest, List.flatMap_cons]
      simp only [List.append_assoc]

/-- The list of languages is read back, empty or not. -/
theorem readLanguages?_intercalate {languages : List String}
    (h : ∀ lang ∈ languages, lang.toList.length = 2) :
    readLanguages? ((", ".intercalate languages).toList ++ ['\n']) = some languages := by
  cases languages with
  | nil => rfl
  | cons lang others =>
      obtain ⟨first, second, hlang⟩ := List.length_eq_two.mp (h lang List.mem_cons_self)
      have hrest := readFurther?_flatMap fun other hother => h other (List.mem_cons_of_mem _ hother)
      have htext : String.ofList [first, second] = lang := by rw [← hlang, String.ofList_toList]
      have hmarks : ", ".toList = [',', ' '] := rfl
      rw [toList_intercalate_cons, hlang, hmarks, List.append_assoc]
      simp only [List.cons_append, List.nil_append, readLanguages?, hrest, Option.map_some, htext]

/-- A summary line is read as what it states. -/
theorem read?_line {s : Summary} (h : ∀ lang ∈ s.languages, lang.toList.length = 2) :
    read? s.line = some s := by
  have hline : s.line.toList = (toString s.records).toList ++ (" records, ".toList
      ++ ((toString s.wordings).toList ++ (" translations, languages: ".toList
        ++ ((", ".intercalate s.languages).toList ++ ['\n'])))) := by
    simp only [line, String.toList_append, List.append_assoc]
    rfl
  have hrecords : ∀ rest, readNumber? ((toString s.records).toList ++ (" records, ".toList ++ rest))
      = some (s.records, " records, ".toList ++ rest) :=
    readNumber?_toString s.records rfl rfl
  have hwordings : ∀ rest, readNumber? ((toString s.wordings).toList
        ++ (" translations, languages: ".toList ++ rest))
      = some (s.wordings, " translations, languages: ".toList ++ rest) :=
    readNumber?_toString s.wordings rfl rfl
  simp only [read?, hline, hrecords, hwordings, dropPrefix?_append, readLanguages?_intercalate h,
    Option.bind_eq_bind, Option.bind_some]
  rfl

end Summary

/-- The summary of a catalog states what the catalog has. -/
theorem Catalog.summary_eq (catalog : Catalog) :
    catalog.summary = Summary.line ⟨catalog.records.length, catalog.wordingCount,
      catalog.languages⟩ :=
  rfl

end Phrasebook
