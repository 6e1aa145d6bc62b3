import Mathlib.Algebra.Group.Nat.Even
import Mathlib.Data.List.DropRight
import Phrasebook.Proofs.Cascade.Quote

/-!
# `Phrasebook.Proofs.Cascade.Bare`: which quotes are bare

A backslash that is itself taken does not take the quote behind it. So a quote is bare
if the backslashes right before it, up to the next other character, are even in number
(`BareAt`). This says where a backslash belongs without going through the text, and for
every text, accepted or not.

`Quote.protectEach` does go through the text and keeps one bit. Behind any part of the
text the bit is the parity of the backslashes at the end of this part (`takesNext`), so
exactly the bare quotes get a backslash (`protectEach_eq_withBackslashes`). From this
`escape_normal_form` follows: what was escaped has no bare quote and is not changed by
escaping it again, and a text without bare quotes is kept.
-/

set_option autoImplicit false

namespace Phrasebook.Quote

/-! ### The backslashes before a quote -/

/-- How many backslashes there are at the end of a text, without anything between. -/
def endingBackslashes (text : List Char) : Nat :=
  (text.rtakeWhile (· == '\\')).length

/-- The character at place `i` is a bare quote: there is an even number of backslashes
right before it. -/
def BareAt (text : List Char) (i : Nat) : Prop :=
  text[i]? = some '"' ∧ Even (endingBackslashes (text.take i))

instance (text : List Char) : DecidablePred (BareAt text) :=
  fun _ => inferInstanceAs (Decidable (_ ∧ _))

/-- A text with one backslash more in front of each bare quote, and as it is
otherwise. -/
def withBackslashes (text : List Char) : List Char :=
  text.zipIdx.flatMap fun (c, i) => if BareAt text i then ['\\', c] else [c]

/-- A run of backslashes goes on with a backslash and ends with anything else. -/
theorem endingBackslashes_concat (text : List Char) (c : Char) :
    endingBackslashes (text ++ [c]) = if c = '\\' then endingBackslashes text + 1 else 0 := by
  rw [endingBackslashes, List.rtakeWhile_concat]
  by_cases hc : c = '\\' <;> simp [hc, endingBackslashes]

/-! ### The bit that goes along -/

/-- Whether a backslash at the end of a text takes the character that comes next. -/
def takesNext (text : List Char) : Bool :=
  !decide (Even (endingBackslashes text))

/-- The bit behind one more character is got from the bit before it. -/
theorem takesNext_concat (text : List Char) (c : Char) :
    takesNext (text ++ [c]) = (c == '\\' && !takesNext text) := by
  rw [takesNext, takesNext, endingBackslashes_concat]
  by_cases hc : c = '\\'
  · -- One backslash more changes the parity.
    simp only [hc, if_true, Nat.even_add_one, decide_not, beq_self_eq_true, Bool.true_and]
  · simp [hc]

/-- The next character is a bare quote if it is a quote and nothing takes it. -/
theorem bareAt_length_iff {front rest : List Char} {c : Char} :
    BareAt (front ++ c :: rest) front.length ↔ c = '"' ∧ takesNext front = false := by
  simp [BareAt, takesNext]

/-- One character is copied, behind a backslash if it is a bare quote. -/
theorem protectEach_cons (front rest : List Char) (c : Char) :
    protectEach (takesNext front) (c :: rest)
      = (if BareAt (front ++ c :: rest) front.length then ['\\', c] else [c])
        ++ protectEach (takesNext (front ++ [c])) rest := by
  rw [protectEach, ← takesNext_concat]
  by_cases hbare : BareAt (front ++ c :: rest) front.length
  · obtain ⟨hc, hfront⟩ := bareAt_length_iff.mp hbare
    rw [if_pos hbare]
    simp [hc, hfront]
  · have hcopied : (c == '"' && !takesNext front) = false := by
      simpa using mt bareAt_length_iff.mpr hbare
    rw [if_neg hbare, hcopied]
    rfl

/-! ### Whole texts -/

/-- Behind `front`, a backslash is put in front of each bare quote, and of nothing
else. -/
theorem protectEach_eq_flatMap (front rest : List Char) :
    protectEach (takesNext front) rest
      = (rest.zipIdx front.length).flatMap fun (c, i) =>
          if BareAt (front ++ rest) i then ['\\', c] else [c] := by
  -- By induction on what is still to come. The bit is told from what has been read, so
  -- `front` has to grow.
  induction rest generalizing front with
  | nil => rfl
  | cons c rest ih =>
      -- `c` goes over to the part that has been read, and the places stay the same.
      have hrest := ih (front ++ [c])
      rw [List.append_assoc, List.length_append] at hrest
      rw [protectEach_cons, hrest, List.zipIdx_cons, List.flatMap_cons]
      rfl

/-- From the start of a text, nothing is taken yet. -/
theorem protectEach_eq_withBackslashes (text : List Char) :
    protectEach false text = withBackslashes text :=
  protectEach_eq_flatMap [] text

/-- Behind `front`, a text is kept if and only if it has no bare quote. -/
theorem protectEach_eq_self_iff (front rest : List Char) :
    protectEach (takesNext front) rest = rest
      ↔ ∀ i, ¬ BareAt (front ++ rest) (front.length + i) := by
  induction rest generalizing front with
  | nil => simp [protectEach, BareAt]
  | cons c rest ih =>
      have hrest := ih (front ++ [c])
      rw [List.append_assoc, List.length_append] at hrest
      rw [protectEach_cons, ← Nat.and_forall_add_one]
      by_cases hbare : BareAt (front ++ c :: rest) front.length
      · -- The text would begin with a quote and with a backslash.
        have hc : c ≠ '\\' := by
          rw [(bareAt_length_iff.mp hbare).1]
          decide
        rw [if_pos hbare]
        refine iff_of_false ?_ fun h => h.1 hbare
        intro h
        exact hc (List.cons.inj h).1.symm
      · rw [if_neg hbare]
        show c :: protectEach (takesNext (front ++ [c])) rest = c :: rest ↔ _
        rw [List.cons_inj_right, hrest]
        simp only [List.length_singleton, Nat.add_assoc, Nat.add_comm 1]
        exact ⟨fun h => ⟨hbare, h⟩, fun h => h.2⟩

/-- A backslash that was put in front of a quote takes it, so nothing is left to do. -/
theorem protectEach_protectEach (taken : Bool) (text : List Char) :
    protectEach taken (protectEach taken text) = protectEach taken text := by
  induction text generalizing taken with
  | nil => rfl
  | cons c rest ih =>
      -- A bare quote is behind its backslash the second time, and any other character
      -- behind what it was behind before.
      by_cases hbare : (c == '"' && !taken) = true
      · obtain ⟨rfl, rfl⟩ : c = '"' ∧ taken = false := by simpa using hbare
        show '\\' :: '"' :: protectEach false (protectEach false rest) = _
        rw [ih]
        rfl
      · have hcopied : ∀ text, protectEach taken (c :: text)
            = c :: protectEach (c == '\\' && !taken) text := by
          intro text
          rw [protectEach, if_neg hbare]
        rw [hcopied, hcopied, ih]

/-- A text can be cut anywhere, if the bit is kept. -/
theorem protectEach_append (front text rest : List Char) :
    protectEach (takesNext front) (text ++ rest)
      = protectEach (takesNext front) text ++ protectEach (takesNext (front ++ text)) rest := by
  induction text generalizing front with
  | nil =>
      rw [List.append_nil]
      rfl
  | cons c text ih =>
      -- What comes behind a quote does not matter for it.
      have hbare : BareAt (front ++ c :: (text ++ rest)) front.length
          ↔ BareAt (front ++ c :: text) front.length :=
        bareAt_length_iff.trans bareAt_length_iff.symm
      rw [List.cons_append, protectEach_cons, protectEach_cons, ih, if_congr hbare rfl rfl,
        List.append_assoc, List.append_assoc]
      rfl

/-! ### Bodies of literals -/

/-- The body of a literal is the text with its quotes protected, one by one. -/
theorem toList_escape (source : String) :
    (escape source).toList = protectEach false source.toList := by
  rw [escape, String.toList_ofList, protect_eq_protectEach]

/-- What has been escaped is not changed by escaping it again. -/
theorem escape_escape (source : String) : escape (escape source) = escape source := by
  rw [← String.toList_inj, toList_escape, toList_escape, protectEach_protectEach]

/-- A text without bare quotes is kept, and no other. -/
theorem escape_eq_self_iff {source : String} :
    escape source = source ↔ ∀ i, ¬ BareAt source.toList i := by
  have hkept := protectEach_eq_self_iff [] source.toList
  simp only [List.nil_append, List.length_nil, Nat.zero_add] at hkept
  rw [← String.toList_inj, toList_escape]
  exact hkept

/-- Behind an even number of backslashes, every text is escaped as if it stood alone. -/
theorem escape_append {front : String} (h : Even (endingBackslashes front.toList))
    (back : String) : escape (front ++ back) = escape front ++ escape back := by
  have hfront : takesNext front.toList = false := by simp [takesNext, h]
  have happend := protectEach_append [] front.toList back.toList
  rw [List.nil_append, hfront] at happend
  rw [← String.toList_inj, String.toList_append, toList_escape, toList_escape, toList_escape,
    String.toList_append]
  exact happend

/-- For every text, whether it would be accepted or not, the body of its literal has no
bare quote. It is the text with one backslash more in front of each bare quote, so it is
the text itself if and only if there is none, and escaping it again changes nothing. A
text without quotes is kept at once, and is what going through it would give. Behind an
even number of backslashes every other text is escaped as if it stood alone. -/
theorem escape_normal_form (source : String) :
    (∀ i, ¬ BareAt (escape source).toList i)
      ∧ (escape source).toList = withBackslashes source.toList
      ∧ (escape source = source ↔ ∀ i, ¬ BareAt source.toList i)
      ∧ escape (escape source) = escape source
      ∧ escape source = .ofList (protectEach false source.toList)
      ∧ (Even (endingBackslashes source.toList) →
        ∀ back, escape (source ++ back) = escape source ++ escape back) := by
  refine ⟨?_, ?_, escape_eq_self_iff, escape_escape source, ?_, escape_append⟩
  · -- What escaping keeps has no bare quote, and it keeps what was escaped.
    exact escape_eq_self_iff.mp (escape_escape source)
  · rw [toList_escape, protectEach_eq_withBackslashes]
  · rw [escape, protect_eq_protectEach]

/-- A text that ends with two backslashes, in front of a quote and of a backslash with a
quote. -/
theorem escape_normal_form_backslashes :
    Even (endingBackslashes "a\\\\".toList)
      ∧ escape ("a\\\\" ++ "\"\\\"") = "a\\\\" ++ "\\\"\\\"" := by
  have heven : Even (endingBackslashes "a\\\\".toList) := by decide
  obtain ⟨-, -, -, -, -, happend⟩ := escape_normal_form "a\\\\"
  refine ⟨heven, ?_⟩
  rw [happend heven]
  rfl

-- Behind an odd number, the last backslash takes the quote.
example : ¬ Even (endingBackslashes "\\".toList)
    ∧ escape ("\\" ++ "\"") ≠ escape "\\" ++ escape "\"" := by
  decide

end Phrasebook.Quote
