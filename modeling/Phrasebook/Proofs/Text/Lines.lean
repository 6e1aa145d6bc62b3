import Phrasebook.Text.Lines

/-!
# `Phrasebook.Proofs.Text.Lines`: cutting a file into lines

`Lines.split` looks at most one character ahead, so a file that ends with a
line feed can be cut apart from what follows it. The theorems:

* `split_append`: the lines of two files in a row are the lines of the first
  and then those of the second, if the first is `Whole`.
* `split_through`: the file up to its `k`th line feed has the first `k`
  lines.
* `split_of_ended`: the lines of a file are the lines that it was written
  with. `Ended` tells how lines may be written: with a line feed, with a
  carriage return in front of it, and the last line with neither.
* `split_join`: the lines of a file that this library writes are the lines that
  it was joined from.
-/

set_option autoImplicit false

namespace Phrasebook.Lines

/-! ### The first line -/

/-- A line feed ends the line before it, which is empty here. -/
theorem split_newline (rest : List Char) : split ('\n' :: rest) = [] :: split rest := rfl

/-- A carriage return right before a line feed belongs to the line end. -/
theorem split_return_newline (rest : List Char) :
    split ('\r' :: '\n' :: rest) = [] :: split rest := rfl

/-- Any other character belongs to the first line. -/
theorem split_cons {c : Char} {rest : List Char} (hc : c ≠ '\n')
    (hr : c = '\r' → rest.head? ≠ some '\n') :
    split (c :: rest) = consFirst c (split rest) := by
  rw [split]
  · exact hc
  · intro rest' h hrest
    subst hrest
    exact hr h rfl

/-- A file that is not empty has a line. -/
theorem split_ne_nil {text : List Char} (h : text ≠ []) : split text ≠ [] := by
  fun_cases split text with
  | case1 => exact absurd rfl h
  | case2 rest => simp
  | case3 rest => simp
  | case4 c rest _ _ => cases split rest <;> simp [consFirst]

/-- A character in front of the first line leaves the lines after it alone. -/
theorem consFirst_append (c : Char) {lines : List (List Char)} (h : lines ≠ [])
    (more : List (List Char)) :
    consFirst c (lines ++ more) = consFirst c lines ++ more := by
  cases lines with
  | nil => exact absurd rfl h
  | cons line lines => rfl

/-- No line holds a line feed. -/
theorem newline_not_mem_of_mem_split {text line : List Char} (h : line ∈ split text) :
    '\n' ∉ line := by
  induction text using split.induct generalizing line with
  | case1 => simp [split] at h
  | case2 rest ih =>
      rcases List.mem_cons.mp h with rfl | h
      · simp
      · exact ih h
  | case3 rest ih =>
      rcases List.mem_cons.mp h with rfl | h
      · simp
      · exact ih h
  | case4 c rest hc hr ih =>
      rw [split.eq_4 c rest hc hr] at h
      have hne : '\n' ≠ c := fun e => hc e.symm
      -- `c` goes to the first line of `rest`, or makes a line by itself.
      cases hs : split rest with
      | nil =>
          rw [hs] at h
          rw [List.mem_singleton.mp h]
          simpa using hne
      | cons first others =>
          rw [hs] at h ih
          rcases List.mem_cons.mp h with rfl | h
          · simpa [hne] using ih (List.mem_cons_self)
          · exact ih (List.mem_cons_of_mem _ h)

/-- A line has no character that its text does not have. -/
theorem mem_of_mem_split {text line : List Char} (hline : line ∈ split text) {c : Char}
    (hc : c ∈ line) : c ∈ text := by
  induction text using split.induct generalizing line with
  | case1 => simp [split] at hline
  | case2 rest ih =>
      rcases List.mem_cons.mp hline with rfl | hline
      · simp at hc
      · exact List.mem_cons_of_mem _ (ih hline hc)
  | case3 rest ih =>
      rcases List.mem_cons.mp hline with rfl | hline
      · simp at hc
      · exact List.mem_cons_of_mem _ (List.mem_cons_of_mem _ (ih hline hc))
  | case4 d rest hd hr ih =>
      rw [split.eq_4 d rest hd hr] at hline
      cases hs : split rest with
      | nil =>
          rw [hs] at hline
          rw [List.mem_singleton.mp hline] at hc
          rw [List.mem_singleton.mp hc]
          exact List.mem_cons_self
      | cons first others =>
          rw [hs] at hline ih
          rcases List.mem_cons.mp hline with rfl | hline
          · rcases List.mem_cons.mp hc with rfl | hc
            · exact List.mem_cons_self
            · exact List.mem_cons_of_mem _ (ih List.mem_cons_self hc)
          · exact List.mem_cons_of_mem _ (ih (List.mem_cons_of_mem _ hline) hc)

/-! ### Files in a row -/

/-- A file of whole lines: it is empty or ends with a line feed. -/
def Whole (text : List Char) : Prop :=
  text = [] ∨ text.getLast? = some '\n'

instance (text : List Char) : Decidable (Whole text) :=
  inferInstanceAs (Decidable (_ ∨ _))

/-- What is left of a whole file after its first character is whole. -/
theorem Whole.tail {c : Char} {rest : List Char} (h : Whole (c :: rest)) : Whole rest := by
  cases rest with
  | nil => exact .inl rfl
  | cons d rest =>
      rcases h with h | h
      · exact absurd h (by simp)
      · exact .inr (by rwa [List.getLast?_cons_cons] at h)

/-- A whole file does not end with another character than a line feed. -/
theorem Whole.rest_ne_nil {c : Char} {rest : List Char} (h : Whole (c :: rest))
    (hc : c ≠ '\n') : rest ≠ [] := by
  rintro rfl
  rcases h with h | h
  · exact absurd h (by simp)
  · exact hc (by simpa using h)

/-- A whole file with one more character in front, which is a line feed or has
something after it. -/
theorem Whole.cons {c : Char} {rest : List Char} (h : Whole rest)
    (hc : c = '\n' ∨ rest ≠ []) : Whole (c :: rest) := by
  cases rest with
  | nil =>
      rcases hc with rfl | hc
      · exact .inr rfl
      · exact absurd rfl hc
  | cons d rest =>
      rcases h with h | h
      · exact absurd h (by simp)
      · exact .inr (by rwa [List.getLast?_cons_cons])

/-- The lines of a whole file and of another file after it. -/
theorem split_append {front : List Char} (h : Whole front) (back : List Char) :
    split (front ++ back) = split front ++ split back := by
  -- By induction along `split`, which takes a line end as one.
  induction front using split.induct with
  | case1 => rfl
  | case2 rest ih =>
      rw [List.cons_append, split_newline, split_newline, ih h.tail, List.cons_append]
  | case3 rest ih =>
      rw [List.cons_append, List.cons_append, split_return_newline, split_return_newline,
        ih h.tail.tail, List.cons_append]
  | case4 c rest hc hr ih =>
      have hne : rest ≠ [] := h.rest_ne_nil hc
      -- The character after `c` decides whether `c` is part of a line end, and
      -- it lies in `rest`, so `back` has no say in it.
      have hback : c = '\r' → (rest ++ back).head? ≠ some '\n' := by
        intro e hd
        obtain ⟨d, rest', rfl⟩ := List.exists_cons_of_ne_nil hne
        cases hd
        exact hr rest' e rfl
      rw [List.cons_append, split_cons hc hback, ih h.tail,
        consFirst_append c (split_ne_nil hne), ← split.eq_4 c rest hc hr]

/-- The file up to its `k`th line feed, which is included. -/
def through : Nat → List Char → List Char
  | 0, _ => []
  | _ + 1, [] => []
  | k + 1, c :: rest => c :: through (if c = '\n' then k else k + 1) rest

example : through 2 "a\r\n\nb\nc".toList = "a\r\n\n".toList := by decide

/-- Before the first line feed there is no whole line. -/
theorem through_zero (text : List Char) : through 0 text = [] := by
  cases text <;> rfl

/-- A file with `k` line feeds has a `k`th, and `through` ends there. -/
theorem whole_through {k : Nat} {text : List Char} (h : k ≤ text.count '\n') :
    Whole (through k text) := by
  -- By induction on the text, with one line feed less to go at each of them.
  induction text generalizing k with
  | nil => cases k <;> exact .inl rfl
  | cons c rest ih =>
      cases k with
      | zero => exact .inl rfl
      | succ k =>
          by_cases hc : c = '\n'
          · subst hc
            rw [List.count_cons_self] at h
            rw [through, if_pos rfl]
            exact (ih (by omega)).cons (.inl rfl)
          · rw [List.count_cons_of_ne hc] at h
            -- A line feed is still to come, so the cut does not end with `c`.
            have hne : through (k + 1) rest ≠ [] := by
              cases rest with
              | nil => simp at h
              | cons d rest => simp [through]
            rw [through, if_neg hc]
            exact (ih h).cons (.inr hne)

/-- A file up to its `k`th line feed has the first `k` lines. -/
theorem split_through (k : Nat) (text : List Char) :
    split (through k text) = (split text).take k := by
  induction text using split.induct generalizing k with
  | case1 => cases k <;> rfl
  | case2 rest ih =>
      cases k with
      | zero => rfl
      | succ k =>
          rw [through, if_pos rfl, split_newline, split_newline, ih, List.take_succ_cons]
  | case3 rest ih =>
      cases k with
      | zero => rfl
      | succ k =>
          rw [through, if_neg (by decide), through, if_pos rfl, split_return_newline,
            split_return_newline, ih, List.take_succ_cons]
  | case4 c rest hc hr ih =>
      cases k with
      | zero => rfl
      | succ k =>
          -- The cut begins like `rest`, so it draws `c` into a line end no more
          -- than `rest` does.
          have hcut : c = '\r' → (through (k + 1) rest).head? ≠ some '\n' := by
            intro e hd
            cases rest with
            | nil => simp [through] at hd
            | cons d rest =>
                cases hd
                exact hr rest e rfl
          rw [through, if_neg hc, split_cons hc hcut, ih, split.eq_4 c rest hc hr]
          cases split rest <;> simp [consFirst]

/-- Every line but the last ends with a line feed. -/
theorem length_split_le (text : List Char) : (split text).length ≤ text.count '\n' + 1 := by
  induction text using split.induct with
  | case1 => simp [split]
  | case2 rest ih =>
      rw [split_newline, List.length_cons, List.count_cons_self]
      omega
  | case3 rest ih =>
      rw [split_return_newline, List.length_cons, List.count_cons_of_ne (by decide),
        List.count_cons_self]
      omega
  | case4 c rest hc hr ih =>
      rw [split.eq_4 c rest hc hr, List.count_cons_of_ne hc]
      cases hs : split rest with
      | nil => simp [consFirst]
      | cons line lines =>
          rw [hs, List.length_cons] at ih
          rw [consFirst, List.length_cons]
          exact ih

/-! ### The byte-order mark -/

/-- A file loses no line feed with its mark. -/
theorem count_dropMark (text : List Char) : (dropMark text).count '\n' = text.count '\n' := by
  cases text with
  | nil => rfl
  | cons c rest =>
      rw [dropMark]
      split
      · rename_i hc
        rw [hc, List.count_cons_of_ne (by decide)]
      · rfl

/-- A file that does not begin with a mark has none to lose. -/
theorem dropMark_of_head?_ne {text : List Char} (h : text.head? ≠ some byteOrderMark) :
    dropMark text = text := by
  cases text with
  | nil => rfl
  | cons c rest => exact if_neg fun e => h (by rw [e]; rfl)

/-- Only the first character of a file can be dropped as its mark. -/
theorem dropMark_append {front : List Char} (h : front ≠ []) (back : List Char) :
    dropMark (front ++ back) = dropMark front ++ back := by
  cases front with
  | nil => exact absurd rfl h
  | cons c rest =>
      rw [List.cons_append, dropMark, dropMark]
      split
      · rfl
      · rfl

/-- The mark belongs to the first line, so `through` may be taken before or
after it is dropped. -/
theorem dropMark_through (k : Nat) (text : List Char) :
    dropMark (through k text) = through k (dropMark text) := by
  cases k with
  | zero => rw [through_zero, through_zero, dropMark]
  | succ k =>
      cases text with
      | nil => rfl
      | cons c rest =>
          by_cases hc : c = byteOrderMark
          · subst hc
            rw [through, if_neg (by decide), dropMark, if_pos rfl, dropMark, if_pos rfl]
          · rw [through, dropMark, if_neg hc, dropMark, if_neg hc, through]

/-- A whole file is whole without its mark. -/
theorem Whole.dropMark {text : List Char} (h : Whole text) : Whole (dropMark text) := by
  cases text with
  | nil => exact h
  | cons c rest =>
      rw [Lines.dropMark]
      split
      · exact h.tail
      · exact h

/-! ### Files -/

/-- The lines of a file. -/
def ofFile (source : String) : List (List Char) :=
  split (dropMark source.toList)

/-- A line has no character that its file does not have. -/
theorem mem_of_mem_ofFile {source : String} {line : List Char} (hline : line ∈ ofFile source)
    {c : Char} (hc : c ∈ line) : c ∈ source.toList := by
  have hmem := mem_of_mem_split hline hc
  revert hmem
  cases source.toList with
  | nil => exact id
  | cons d rest =>
      rw [Lines.dropMark]
      split
      · exact List.mem_cons_of_mem _
      · exact id

/-- The lines of a whole file and of more text after it. What comes after it may
begin with a mark only where it cannot be taken for the mark of the file. -/
theorem ofFile_append {front : List Char} (h : Whole front) {back : List Char}
    (hb : front = [] → dropMark back = back) :
    ofFile (.ofList (front ++ back)) = ofFile (.ofList front) ++ split back := by
  rw [ofFile, ofFile, String.toList_ofList, String.toList_ofList]
  by_cases hf : front = []
  · rw [hf, List.nil_append, hb hf]
    rfl
  · rw [dropMark_append hf, split_append h.dropMark]

/-- The lines of two files in a row. -/
theorem ofFile_append_ofFile {first second : String} (hwhole : Whole first.toList)
    (hmark : second.toList.head? ≠ some byteOrderMark) :
    ofFile (first ++ second) = ofFile first ++ ofFile second := by
  have hdrop := dropMark_of_head?_ne hmark
  have happend := ofFile_append hwhole (fun _ => hdrop)
  rw [String.ofList_append, String.ofList_toList, String.ofList_toList] at happend
  rw [happend, ofFile, ofFile, hdrop]

/-- The lines of a file up to one of its line feeds. -/
theorem ofFile_through (k : Nat) (source : String) :
    ofFile (.ofList (through k source.toList)) = (ofFile source).take k := by
  rw [ofFile, String.toList_ofList, dropMark_through, split_through]
  rfl

/-- A file has one line more than line feeds, at most. -/
theorem length_ofFile_le (source : String) :
    (ofFile source).length ≤ source.toList.count '\n' + 1 := by
  rw [← count_dropMark]
  exact length_split_le _

/-! ### Lines and their ends -/

/-- `Ended lines text` tells that `text` is written with the lines `lines`. A
line ends with a line feed, with or without a carriage return in front of it. It
needs the carriage return if its own last character is one. The last line may go
without an end. -/
inductive Ended : List (List Char) → List Char → Prop where
  | nil : Ended [] []
  | last (line : List Char) : Ended [line] line
  | newline {line : List Char} {lines : List (List Char)} {text : List Char}
      (bare : line.getLast? ≠ some '\r') (rest : Ended lines text) :
      Ended (line :: lines) (line ++ '\n' :: text)
  | returnNewline {line : List Char} {lines : List (List Char)} {text : List Char}
      (rest : Ended lines text) :
      Ended (line :: lines) (line ++ '\r' :: '\n' :: text)

/-- Characters without a line feed join the first line of what follows, unless
the last of them is drawn into a line end. -/
theorem split_line_append {line : List Char} (h : '\n' ∉ line) {tail : List Char}
    (hr : line.getLast? = some '\r' → tail.head? ≠ some '\n') :
    split (line ++ tail) = line.foldr consFirst (split tail) := by
  -- By induction on the line. Two of its characters in a row are no line end, since
  -- neither is a line feed.
  induction line with
  | nil => rfl
  | cons c line ih =>
      have hc : c ≠ '\n' := fun e => h (e ▸ List.mem_cons_self)
      have hline : '\n' ∉ line := fun m => h (List.mem_cons_of_mem _ m)
      cases line with
      | nil =>
          rw [List.singleton_append, split_cons hc (fun e => hr (by rw [e]; rfl))]
          rfl
      | cons d line =>
          -- Only the last character of the line meets `tail`.
          have hd : d ≠ '\n' := fun e => hline (e ▸ List.mem_cons_self)
          rw [List.cons_append, split_cons hc (fun _ e => hd (by simpa using e)),
            ih hline (by rwa [List.getLast?_cons_cons] at hr)]
          rfl

/-- A line joins the first of the lines after it. -/
theorem foldr_consFirst_cons (line first : List Char) (lines : List (List Char)) :
    line.foldr consFirst (first :: lines) = (line ++ first) :: lines := by
  induction line with
  | nil => rfl
  | cons c line ih => rw [List.foldr_cons, ih]; rfl

/-- A line that is not empty stands by itself where no line comes after it. -/
theorem foldr_consFirst_nil {line : List Char} (h : line ≠ []) :
    line.foldr consFirst [] = [line] := by
  induction line with
  | nil => exact absurd rfl h
  | cons c line ih =>
      cases line with
      | nil => rfl
      | cons d line => rw [List.foldr_cons, ih (by simp)]; rfl

/-- A file has the lines that it is written with. Only an empty last line
without an end cannot be told from no line. -/
theorem split_of_ended {lines : List (List Char)} {text : List Char}
    (h : Ended lines text) (hl : ∀ line ∈ lines, '\n' ∉ line) :
    split text = lines ∨ split text ++ [[]] = lines := by
  -- By induction on how the lines are written.
  induction h with
  | nil => exact .inl rfl
  | last line =>
      have hline := hl line (by simp)
      have hsplit : split (line ++ []) = line.foldr consFirst (split []) :=
        split_line_append hline (by simp)
      rw [List.append_nil] at hsplit
      -- An empty line without an end leaves no trace in the file.
      by_cases hne : line = []
      · subst hne
        exact .inr rfl
      · exact .inl (hsplit.trans (foldr_consFirst_nil hne))
  | @newline line lines text bare _ ih =>
      have hsplit : split (line ++ '\n' :: text) = line :: split text := by
        rw [split_line_append (hl line (by simp)) (fun e => absurd e bare), split_newline,
          foldr_consFirst_cons, List.append_nil]
      rw [hsplit]
      rcases ih (fun l m => hl l (List.mem_cons_of_mem _ m)) with ih | ih
      · exact .inl (by rw [ih])
      · exact .inr (by rw [List.cons_append, ih])
  | @returnNewline line lines text _ ih =>
      have hsplit : split (line ++ '\r' :: '\n' :: text) = line :: split text := by
        rw [split_line_append (hl line (by simp)) (by simp), split_return_newline,
          foldr_consFirst_cons, List.append_nil]
      rw [hsplit]
      rcases ih (fun l m => hl l (List.mem_cons_of_mem _ m)) with ih | ih
      · exact .inl (by rw [ih])
      · exact .inr (by rw [List.cons_append, ih])

/-! ### Lines that are joined -/

/-- Lines that are joined in two portions follow each other. -/
theorem toList_join_append (front back : List String) :
    (join (front ++ back)).toList = (join front).toList ++ (join back).toList := by
  simp [join, String.toList_join]

/-- Each line is joined with a line feed behind it. -/
theorem toList_join_cons (line : String) (lines : List String) :
    (join (line :: lines)).toList = line.toList ++ '\n' :: (join lines).toList := by
  simp [join, String.toList_join]

/-- A text that makes one line: no line end is in it, and none comes about when a
line feed is put behind it. -/
structure IsLine (line : String) : Prop where
  newline : '\n' ∉ line.toList
  bare : line.toList.getLast? ≠ some '\r'

/-- Only the end of a line has to be looked at for a carriage return. -/
theorem IsLine.append {front back : String} (hf : '\n' ∉ front.toList) (hb : IsLine back)
    (hne : back ≠ "") : IsLine (front ++ back) where
  newline := by
    rw [String.toList_append]
    exact fun m => (List.mem_append.mp m).elim hf hb.newline
  bare := by
    have hlast : back.toList.getLast?.isSome := by simpa using hne
    rw [String.toList_append, List.getLast?_append, Option.or_of_isSome hlast]
    exact hb.bare

/-- Lines that are joined are cut apart again. -/
theorem split_join {lines : List String} (h : ∀ line ∈ lines, IsLine line) :
    split (join lines).toList = lines.map String.toList := by
  -- A line joins nothing behind it, since it ends there.
  induction lines with
  | nil => rfl
  | cons line lines ih =>
      have hline := h line List.mem_cons_self
      rw [toList_join_cons, split_line_append hline.newline (fun e => absurd e hline.bare),
        split_newline, ih (fun l m => h l (List.mem_cons_of_mem _ m)), foldr_consFirst_cons,
        List.append_nil, List.map_cons]

end Phrasebook.Lines
