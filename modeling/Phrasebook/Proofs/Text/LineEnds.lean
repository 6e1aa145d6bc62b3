import Phrasebook.Proofs.Text.Lines

/-!
# `Phrasebook.Proofs.Text.LineEnds`: files with the same lines

A file can be written in other ways and have the same lines. It has them with a mark in
front (`ofFile_mark`), and with a carriage return in front of every line feed
(`ofFile_withReturns`), unless one of its lines would lose a carriage return of its own.
Empty lines between two files are lines by themselves: `ofFile_append_emptyLines`.
-/

set_option autoImplicit false

namespace Phrasebook.Lines

/-! ### The mark -/

/-- A mark is no part of a line. -/
theorem ofFile_mark {source : String} (h : source.toList.head? ≠ some byteOrderMark) :
    ofFile ("\ufeff" ++ source) = ofFile source := by
  rw [ofFile, ofFile, dropMark_of_head?_ne h, String.toList_append]
  rfl

/-! ### Line ends -/

/-- A file in which every line feed has a carriage return in front of it. -/
def withReturns (text : List Char) : List Char :=
  text.flatMap fun c => if c = '\n' then ['\r', '\n'] else [c]

/-- A line feed gets its carriage return. -/
theorem withReturns_newline (rest : List Char) :
    withReturns ('\n' :: rest) = '\r' :: '\n' :: withReturns rest := rfl

/-- Any other character stays as it is. -/
theorem withReturns_cons {c : Char} (hc : c ≠ '\n') (rest : List Char) :
    withReturns (c :: rest) = c :: withReturns rest := by
  rw [withReturns, List.flatMap_cons, if_neg hc]
  rfl

/-- No line feed comes first. -/
theorem head?_withReturns_ne (text : List Char) : (withReturns text).head? ≠ some '\n' := by
  cases text with
  | nil => simp [withReturns]
  | cons c rest =>
      by_cases hc : c = '\n'
      · rw [hc, withReturns_newline, List.head?_cons]
        decide
      · rw [withReturns_cons hc, List.head?_cons]
        exact fun e => hc (Option.some.inj e)

/-- The lines are the same, unless a line ended with a carriage return before. -/
theorem split_withReturns {text : List Char} (h : ¬ ['\r', '\n'] <:+: text) :
    split (withReturns text) = split text := by
  -- By induction on the text. At a line feed both files end a line, and the return in
  -- front of it belongs to the line end.
  induction text with
  | nil => rfl
  | cons c rest ih =>
      have hrest : ¬ ['\r', '\n'] <:+: rest := fun hpart =>
        h (hpart.trans (List.suffix_cons c rest).isInfix)
      by_cases hc : c = '\n'
      · rw [hc, withReturns_newline, split_return_newline, split_newline, ih hrest]
      · -- Neither in the file nor in the new one does a line feed follow `c` as a return.
        have hreturn : c = '\r' → rest.head? ≠ some '\n' := by
          rintro rfl hhead
          obtain ⟨others, rfl⟩ := List.head?_eq_some_iff.mp hhead
          exact h ⟨[], others, rfl⟩
        rw [withReturns_cons hc, split_cons hc fun _ => head?_withReturns_ne rest,
          split_cons hc hreturn, ih hrest]

/-- The mark is no line feed, so it can be dropped before or after. -/
theorem dropMark_withReturns (text : List Char) :
    dropMark (withReturns text) = withReturns (dropMark text) := by
  cases text with
  | nil => rfl
  | cons c rest =>
      -- Only a mark in front is dropped, and no return is added before it.
      by_cases hc : c = '\n'
      · rw [hc]
        rfl
      · rw [withReturns_cons hc, dropMark, dropMark]
        split
        · rfl
        · rw [withReturns_cons hc]

/-- A carriage return in front of every line feed leaves the lines of a file alone. -/
theorem ofFile_withReturns {source : String} (h : ¬ ['\r', '\n'] <:+: source.toList) :
    ofFile (.ofList (withReturns source.toList)) = ofFile source := by
  -- Without its mark a file has no line end that it did not have with it.
  have hdrop : ¬ ['\r', '\n'] <:+: dropMark source.toList := by
    intro hpart
    cases hs : source.toList with
    | nil => rw [hs] at hpart; exact absurd hpart (by decide)
    | cons c rest =>
        rw [hs] at h hpart
        rw [dropMark] at hpart
        split at hpart
        · exact h (hpart.trans (List.suffix_cons c rest).isInfix)
        · exact h hpart
  rw [ofFile, String.toList_ofList, dropMark_withReturns, split_withReturns hdrop]
  rfl

/-! ### Empty lines -/

/-- As many empty lines as `returns` is long. Where `returns` says so, the line feed has a
carriage return in front of it. -/
def emptyLines (returns : List Bool) : List Char :=
  returns.flatMap fun isReturned => if isReturned then ['\r', '\n'] else ['\n']

/-- Empty lines end with a line feed, unless there are none. -/
theorem whole_emptyLines (returns : List Bool) : Whole (emptyLines returns) := by
  -- Whichever line comes first, the last character is that of the others, or its own.
  induction returns with
  | nil => exact .inl rfl
  | cons isReturned returns ih =>
      cases isReturned with
      | false => exact ih.cons (.inl rfl)
      | true => exact (ih.cons (.inl rfl)).cons (.inr (by simp))

/-- They are empty lines, with or without a carriage return. -/
theorem split_emptyLines (returns : List Bool) :
    split (emptyLines returns) = List.replicate returns.length [] := by
  induction returns with
  | nil => rfl
  | cons isReturned returns ih =>
      rw [List.length_cons, List.replicate_succ, ← ih]
      cases isReturned <;> rfl

/-- They do not begin with the mark. -/
theorem head?_emptyLines_ne (returns : List Bool) :
    (emptyLines returns).head? ≠ some byteOrderMark := by
  cases returns with
  | nil => simp [emptyLines]
  | cons isReturned returns => cases isReturned <;> simp [emptyLines, byteOrderMark]

/-- Two whole files in a row. -/
theorem Whole.append {front back : List Char} (hf : Whole front) (hb : Whole back) :
    Whole (front ++ back) := by
  rcases hb with rfl | hb
  · rwa [List.append_nil]
  · exact .inr (by rw [List.getLast?_append, hb]; rfl)

/-- Empty lines between two files. -/
theorem ofFile_append_emptyLines {front back : String} (hwhole : Whole front.toList)
    (hmark : back.toList.head? ≠ some byteOrderMark) (returns : List Bool) :
    ofFile (front ++ .ofList (emptyLines returns) ++ back)
      = ofFile front ++ (List.replicate returns.length [] ++ ofFile back) := by
  have hgap : (String.ofList (emptyLines returns)).toList = emptyLines returns :=
    String.toList_ofList
  have hfront : Whole (front ++ String.ofList (emptyLines returns)).toList := by
    rw [String.toList_append, hgap]
    exact hwhole.append (whole_emptyLines returns)
  have hhead : (String.ofList (emptyLines returns)).toList.head? ≠ some byteOrderMark := by
    rw [hgap]
    exact head?_emptyLines_ne returns
  have hlines : ofFile (.ofList (emptyLines returns)) = List.replicate returns.length [] := by
    rw [ofFile, dropMark_of_head?_ne hhead, hgap, split_emptyLines]
  -- Cut first behind the empty lines and then in front of them.
  rw [ofFile_append_ofFile hfront hmark, ofFile_append_ofFile hwhole hhead, hlines,
    List.append_assoc]

end Phrasebook.Lines
