import Phrasebook.Proofs.Cascade.Quote

/-!
# `Phrasebook.Proofs.C.Quoted`: the literals of a text

A text is searched for string literals and for nothing else. A literal opens at
the next quote and ends at the first quote that no backslash takes. What stands
between two literals is passed over unread, so a quote in a comment would open a
literal too. This is less than reading C, and shows more: each literal of a file
ends where it was meant to end, with no help from what is around it.

* `cutLiteral?` reads up to the end of one literal. `cutLiteral?_protect` shows
  that the body of a protected text is read to its last character.
* `cutLiteral?_quoted`: so is every text that was accepted, whatever comes behind it,
  and what was read stands for the value of the text.
* `literals?` reads all literals of a text.
* `Says text values` tells that the literals of `text` stand for `values`,
  wherever `text` begins outside of a literal. Such texts can be put together.
-/

set_option autoImplicit false

namespace Phrasebook.C

open Escape (Decodes)

/-! ### Reading literals -/

/-- The body of a literal and what is behind it, for a text that begins in the
literal. `taken` tells whether a backslash takes the first character. -/
def cutLiteral? (taken : Bool) : List Char → Option (List Char × List Char)
  | [] => none
  | c :: rest =>
    if c == '"' && !taken then some ([], rest)
    else (cutLiteral? (c == '\\' && !taken) rest).map fun (body, behind) => (c :: body, behind)

/-- At least the quote that ends the literal is left out. -/
theorem length_lt_of_cutLiteral? {taken : Bool} {text body behind : List Char}
    (h : cutLiteral? taken text = some (body, behind)) : behind.length < text.length := by
  -- Each character is taken away, and the quote at the end is not in the body.
  induction text generalizing taken body with
  | nil => simp [cutLiteral?] at h
  | cons c rest ih =>
      rw [cutLiteral?] at h
      split at h
      · cases h
        simp
      · obtain ⟨⟨body', behind'⟩, hrest, heq⟩ := Option.map_eq_some_iff.mp h
        cases heq
        have hlt := ih hrest
        simp only [List.length_cons]
        omega

/-- The bodies of the literals of a text, in order. There are none if the last
literal does not end. -/
def literals? : List Char → Option (List (List Char))
  | [] => some []
  | c :: rest =>
    if c = '"' then
      match h : cutLiteral? false rest with
      | none => none
      | some (body, behind) =>
        have := length_lt_of_cutLiteral? h
        (literals? behind).map (body :: ·)
    else literals? rest
termination_by text => text.length

/-- A text without quotes is passed over. -/
theorem literals?_plain {front : List Char} (h : '"' ∉ front) (back : List Char) :
    literals? (front ++ back) = literals? back := by
  induction front with
  | nil => rfl
  | cons c front ih =>
      have hc : c ≠ '"' := fun e => h (e ▸ List.mem_cons_self)
      rw [List.cons_append, literals?, if_neg hc]
      exact ih fun m => h (List.mem_cons_of_mem _ m)

/-- A quote opens a literal. -/
theorem literals?_quote {text body behind : List Char}
    (h : cutLiteral? false text = some (body, behind)) :
    literals? ('"' :: text) = (literals? behind).map (body :: ·) := by
  rw [literals?, if_pos rfl]
  split
  · rename_i hnone
    rw [h] at hnone
    cases hnone
  · rename_i body' behind' hsome
    rw [h] at hsome
    cases hsome
    rfl

/-! ### The body of a protected text -/

/-- The two characters of an escape belong to the body. -/
theorem cutLiteral?_escape (letter : Char) {text body behind : List Char}
    (h : cutLiteral? false text = some (body, behind)) :
    cutLiteral? false ('\\' :: letter :: text) = some ('\\' :: letter :: body, behind) := by
  simp [cutLiteral?, h]

/-- Every other character but a quote belongs to the body. -/
theorem cutLiteral?_plain {c : Char} (hb : c ≠ '\\') (hq : c ≠ '"')
    {text body behind : List Char} (h : cutLiteral? false text = some (body, behind)) :
    cutLiteral? false (c :: text) = some (c :: body, behind) := by
  have htaken : (c == '\\' && !false) = false := by simp [hb]
  rw [cutLiteral?, htaken, h]
  simp [hq]

/-- No quote of a protected text ends the literal. The induction is on the pieces
of the source, since a backslash and its letter have to be read together. -/
theorem cutLiteral?_protect {source value : List Char} (h : Decodes source value)
    (behind : List Char) :
    cutLiteral? false (Quote.protect false source ++ '"' :: behind)
      = some (Quote.protect false source, behind) := by
  induction h with
  | nil => rfl
  | @escape letter c source value _ _ ih =>
      rw [Quote.protect_escape]
      exact cutLiteral?_escape letter ih
  | @plain c source value hb _ ih =>
      by_cases hq : c = '"'
      · -- A bare quote has got a backslash, which takes it.
        subst hq
        rw [Quote.protect_quote]
        exact cutLiteral?_escape '"' ih
      · rw [Quote.protect_plain hb hq]
        exact cutLiteral?_plain hb hq ih

/-- The body of a literal is a text as well, with the value of its source. -/
theorem parse_escape {source value : String} (h : Decodes source.toList value.toList) :
    Text.parse (Quote.escape source) = .ok ⟨Quote.escape source, value⟩ := by
  have hdecode := Escape.decode_ok_iff.mpr (Quote.decodes_protect h)
  rw [Text.parse_eq_decode, Quote.escape, String.toList_ofList, hdecode]
  show Except.ok (Text.mk _ (String.ofList value.toList)) = _
  rw [String.ofList_toList]

/-- A text that was accepted is read from behind an opening quote to the quote that
was put behind it, whatever comes next. What was read stands for the value of the
text. -/
theorem cutLiteral?_quoted {source : String} {text : Text} (h : Text.parse source = .ok text)
    (rest : String) :
    cutLiteral? false (Quote.escape source ++ "\"" ++ rest).toList
        = some ((Quote.escape source).toList, rest.toList)
      ∧ Text.parse (Quote.escape source) = .ok ⟨Quote.escape source, text.value⟩ := by
  have hdecodes := Text.decodes_of_parse h
  have hchars : (Quote.escape source ++ "\"" ++ rest).toList
      = Quote.protect false source.toList ++ '"' :: rest.toList := by
    simp [Quote.escape]
  constructor
  · rw [hchars, cutLiteral?_protect hdecodes, Quote.escape, String.toList_ofList]
  · exact parse_escape hdecodes

/-- A bare quote behind two backslashes and a backslash at the end, in front of more
literals. -/
theorem cutLiteral?_quoted_backslashes :
    Text.parse "\\\\\"\\\\" = .ok ⟨"\\\\\"\\\\", "\\\"\\"⟩
      ∧ cutLiteral? false ("\\\\\\\"\\\\" ++ "\"" ++ ", \"x\"").toList
        = some ("\\\\\\\"\\\\".toList, ", \"x\"".toList) := by
  have hparse : Text.parse "\\\\\"\\\\" = .ok ⟨"\\\\\"\\\\", "\\\"\\"⟩ := rfl
  have hescape : Quote.escape "\\\\\"\\\\" = "\\\\\\\"\\\\" := rfl
  have hquoted := cutLiteral?_quoted hparse ", \"x\""
  rw [hescape] at hquoted
  exact ⟨hparse, hquoted.1⟩

/-- Protecting a text adds backslashes only. -/
theorem mem_of_mem_protect {c : Char} (hc : c ≠ '\\') {taken : Bool} {source : List Char}
    (h : c ∈ Quote.protect taken source) : c ∈ source := by
  rw [Quote.protect_eq_protectEach] at h
  -- By induction on the source. A character is copied, and sometimes a backslash stands in
  -- front of it.
  induction source generalizing taken with
  | nil => simp [Quote.protectEach] at h
  | cons d source ih =>
      rw [Quote.protectEach] at h
      split at h
      · simp only [List.mem_cons, hc, false_or] at h
        rcases h with rfl | h
        · exact List.mem_cons_self
        · exact List.mem_cons_of_mem _ (ih h)
      · rcases List.mem_cons.mp h with rfl | h
        · exact List.mem_cons_self
        · exact List.mem_cons_of_mem _ (ih h)

/-! ### Texts with known literals -/

/-- What a body stands for, read as a text is read. -/
def bodyValue (body : List Char) : Except BadEscape String :=
  (Text.parse (.ofList body)).map Text.value

/-- `Says text values`: outside of literals, `text` is read as whole literals
that stand for `values`. No literal goes over a line end. -/
def Says (text : List Char) (values : List String) : Prop :=
  ∃ bodies : List (List Char),
    (∀ rest, literals? (text ++ rest) = (literals? rest).map (bodies ++ ·))
    ∧ bodies.map bodyValue = values.map .ok
    ∧ ∀ body ∈ bodies, '\n' ∉ body

/-- A text without quotes says nothing. -/
theorem says_plain {text : List Char} (h : '"' ∉ text) : Says text [] := by
  refine ⟨[], fun rest => ?_, rfl, by simp⟩
  rw [literals?_plain h]
  simp

/-- A literal says what its source stands for. -/
theorem says_literal {source value : String} (h : Decodes source.toList value.toList)
    (hn : '\n' ∉ source.toList) : Says (Quote.literal source).toList [value] := by
  refine ⟨[Quote.protect false source.toList], fun rest => ?_, ?_, ?_⟩
  · -- The literal is read to its own end, whatever is behind it.
    have hchars : (Quote.literal source).toList ++ rest
        = '"' :: (Quote.protect false source.toList ++ '"' :: rest) := by
      simp [Quote.literal, Quote.escape]
    rw [hchars, literals?_quote (cutLiteral?_protect h rest)]
    rfl
  · show [(Text.parse (Quote.escape source)).map Text.value] = [.ok value]
    rw [parse_escape h]
    rfl
  · intro body hbody
    rw [List.mem_singleton.mp hbody]
    exact fun m => hn (mem_of_mem_protect (by decide) m)

/-- Two texts in a row say what the first says and then what the second says. -/
theorem Says.append {front back : List Char} {fronts backs : List String}
    (hf : Says front fronts) (hb : Says back backs) :
    Says (front ++ back) (fronts ++ backs) := by
  obtain ⟨bodies, hread, hvalues, hlines⟩ := hf
  obtain ⟨others, hread', hvalues', hlines'⟩ := hb
  refine ⟨bodies ++ others, fun rest => ?_, ?_, ?_⟩
  · rw [List.append_assoc, hread, hread', Option.map_map]
    simp [Function.comp_def]
  · rw [List.map_append, List.map_append, hvalues, hvalues']
  · intro body hbody
    rcases List.mem_append.mp hbody with hbody | hbody
    · exact hlines body hbody
    · exact hlines' body hbody

/-- A whole text is read to its end. -/
theorem Says.exists_literals {text : List Char} {values : List String} (h : Says text values) :
    ∃ bodies, literals? text = some bodies ∧ bodies.map bodyValue = values.map .ok
      ∧ ∀ body ∈ bodies, '\n' ∉ body := by
  obtain ⟨bodies, hread, hvalues, hlines⟩ := h
  refine ⟨bodies, ?_, hvalues, hlines⟩
  have hall := hread []
  rw [List.append_nil, literals?] at hall
  simpa using hall

example : literals? "a \"\\\\\" b \"\\\"\"".toList = some ["\\\\".toList, "\\\"".toList] := by
  cbv

end Phrasebook.C
