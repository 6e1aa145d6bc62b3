import Phrasebook.Proofs.Text.Escape
import Phrasebook.Text.Basic

/-!
# `Phrasebook.Proofs.Text.Fragment`: fragments against single characters

`Escape.decode` goes through a text character by character. `Text.parse` reads it in
fragments, and looks at the text a second time, from a byte on, to tell what is wrong.
`parse_eq_decode` shows that the two always agree.

* One fragment is some pieces of the source, so fragments in a row stand for what the
  source in front of the place stands for (`readUpTo_spec`). How the pieces are grouped
  makes no difference.
* No fragment begins where the text ends, or where a backslash begins no escape, and
  nowhere else (`first?_eq_none_iff`).
* The byte that is remembered is the one at which the rest begins, whatever the
  characters in front of it are (`fromByte?_stopByte`).
-/

set_option autoImplicit false

namespace Phrasebook

open Escape (Decodes named?)

namespace Fragment

/-! ### One fragment -/

/-- At a character that is no backslash a run begins. -/
theorem first?_plain {c : Char} (hc : c ≠ '\\') (rest : List Char) :
    first? (c :: rest)
      = some (run (c :: rest.takeWhile (· != '\\')), rest.dropWhile (· != '\\')) := by
  simp [first?, run?, hc]

/-- At a backslash no run begins, so it has to be an escape. -/
theorem first?_backslash (rest : List Char) : first? ('\\' :: rest) = escape? ('\\' :: rest) :=
  rfl

/-- A fragment takes something from the front of a text, and stands for the pieces that it
took. -/
theorem exists_front_of_first? {text rest : List Char} {fragment : Fragment}
    (h : first? text = some (fragment, rest)) :
    ∃ front, front ≠ [] ∧ text = front ++ rest ∧ Decodes front fragment.value := by
  cases text with
  | nil => cases h
  | cons c text =>
      by_cases hc : c = '\\'
      · subst hc
        rw [first?_backslash] at h
        cases text with
        | nil => cases h
        | cons letter text =>
            obtain ⟨d, hnamed, heq⟩ := Option.map_eq_some_iff.mp h
            cases heq
            exact ⟨['\\', letter], List.cons_ne_nil _ _, rfl, .escape hnamed .nil⟩
      · rw [first?_plain hc] at h
        cases h
        have hrun : '\\' ∉ text.takeWhile (· != '\\') := by
          intro m
          simpa using List.all_eq_true.mp List.all_takeWhile _ m
        refine ⟨c :: text.takeWhile (· != '\\'), List.cons_ne_nil _ _, ?_,
          .plain hc (Escape.decodes_self hrun)⟩
        rw [List.cons_append, List.takeWhile_append_dropWhile]

/-- No fragment begins at the end of a text and at a backslash that begins no escape. -/
theorem first?_eq_none_iff {text : List Char} :
    first? text = none
      ↔ text = [] ∨ ∃ rest, text = '\\' :: rest ∧ rest.head?.bind named? = none := by
  cases text with
  | nil => exact iff_of_true rfl (.inl rfl)
  | cons c text =>
      by_cases hc : c = '\\'
      · subst hc
        rw [first?_backslash]
        cases text with
        | nil => exact iff_of_true rfl (.inr ⟨[], rfl, rfl⟩)
        | cons letter text => simp [escape?]
      · rw [first?_plain hc]
        simp [hc]

/-! ### All fragments -/

/-- Reading takes pieces from the front of a text up to a place where no fragment begins.
The fuel lasts, since it is no less than the characters that are left. -/
theorem readUpTo_spec (fuel : Nat) (read : List Fragment) (text : List Char)
    (hfuel : text.length ≤ fuel) :
    ∃ front fragments rest, text = front ++ rest ∧ Decodes front (fragments.flatMap value)
      ∧ first? rest = none ∧ readUpTo fuel read text = (read.reverse ++ fragments, rest) := by
  induction fuel generalizing read text with
  | zero =>
      obtain rfl : text = [] := List.eq_nil_of_length_eq_zero (Nat.le_zero.mp hfuel)
      refine ⟨[], [], [], rfl, .nil, rfl, ?_⟩
      rw [List.append_nil]
      rfl
  | succ fuel ih =>
      cases hfirst : first? text with
      | none =>
          refine ⟨[], [], text, rfl, .nil, hfirst, ?_⟩
          rw [readUpTo, hfirst, List.append_nil]
      | some result =>
          obtain ⟨fragment, rest⟩ := result
          obtain ⟨front, hne, htext, hfront⟩ := exists_front_of_first? hfirst
          have hrest : rest.length ≤ fuel := by
            have hpos := List.length_pos_iff.mpr hne
            rw [htext, List.length_append] at hfuel
            omega
          obtain ⟨next, fragments, last, hnext, hdecodes, hstop, hread⟩ :=
            ih (fragment :: read) rest hrest
          refine ⟨front ++ next, fragment :: fragments, last, ?_, ?_, hstop, ?_⟩
          · rw [htext, hnext, List.append_assoc]
          · rw [List.flatMap_cons]
            exact hfront.append hdecodes
          · rw [readUpTo, hfirst]
            show readUpTo fuel (fragment :: read) rest = _
            rw [hread, List.reverse_cons, List.append_assoc]
            rfl

/-- All fragments of a text are pieces in front of a place where no fragment begins. -/
theorem readAll_spec (text : List Char) :
    ∃ front, text = front ++ (readAll text).2
      ∧ Decodes front ((readAll text).1.flatMap value) ∧ first? (readAll text).2 = none := by
  obtain ⟨front, fragments, rest, htext, hfront, hstop, hread⟩ :=
    readUpTo_spec text.length [] text (Nat.le_refl _)
  have hall : readAll text = (fragments, rest) := hread
  rw [hall]
  exact ⟨front, htext, hfront, hstop⟩

end Fragment

/-! ### The place where reading stopped -/

/-- The bytes of two texts in a row are those of the first and those of the second. -/
theorem byteLength_append (front back : List Char) :
    byteLength (front ++ back) = byteLength front + byteLength back := by
  induction front with
  | nil => rw [List.nil_append, byteLength, Nat.zero_add]
  | cons c front ih => rw [List.cons_append, byteLength, byteLength, ih, Nat.add_assoc]

/-- A text can be cut behind any of its characters. -/
theorem fromByte?_byteLength (front back : List Char) :
    fromByte? (byteLength front) (front ++ back) = some back := by
  induction front with
  | nil =>
      show fromByte? 0 back = _
      rw [fromByte?]
  | cons c front ih =>
      have hlength : byteLength (c :: front) = c.utf8Size + byteLength front := rfl
      -- A character has a byte at least, so it is looked at.
      obtain ⟨offset, hoffset⟩ : ∃ offset, byteLength (c :: front) = offset + 1 := by
        have hpos := c.utf8Size_pos
        exact ⟨byteLength (c :: front) - 1, by omega⟩
      have hle : c.utf8Size ≤ offset + 1 := by omega
      have hrest : offset + 1 - c.utf8Size = byteLength front := by omega
      rw [hoffset, List.cons_append, fromByte?, if_pos hle, hrest, ih]

namespace Text

/-- The byte at which reading stopped leads back to what was left. -/
theorem fromByte?_stopByte (front rest : List Char) :
    fromByte? (stopByte (front ++ rest) rest) (front ++ rest) = some rest := by
  have hstop : stopByte (front ++ rest) rest = byteLength front := by
    rw [stopByte, byteLength_append, Nat.add_sub_cancel]
  rw [hstop, fromByte?_byteLength]

/-- Reading in fragments gives what reading character by character gives, refusals
included. -/
theorem parse_eq_decode (source : String) :
    parse source = (Escape.decode source.toList).map fun value => ⟨source, .ofList value⟩ := by
  obtain ⟨front, hsource, hfront, hstop⟩ := Fragment.readAll_spec source.toList
  rw [parse]
  generalize Fragment.readAll source.toList = result at hsource hfront hstop
  obtain ⟨fragments, rest⟩ := result
  rcases Fragment.first?_eq_none_iff.mp hstop with hend | ⟨behind, hrest, hnone⟩
  · -- The text was read to its end.
    obtain rfl : rest = [] := hend
    have hdecode : Escape.decode source.toList = .ok (fragments.flatMap Fragment.value) := by
      rw [hsource, List.append_nil]
      exact Escape.decode_ok_iff.mpr hfront
    rw [hdecode]
    rfl
  · -- A backslash that begins no escape was in the way.
    obtain rfl : rest = '\\' :: behind := hrest
    have hdecode : Escape.decode source.toList = .error ⟨behind.head?⟩ :=
      Escape.decode_error_iff.mpr ⟨front, _, behind, hsource, hfront, rfl, hnone⟩
    have hplace := fromByte?_stopByte front ('\\' :: behind)
    rw [hdecode]
    show Except.error (BadEscape.mk ((fromByte? (stopByte source.toList _) source.toList).bind _))
      = Except.error (BadEscape.mk behind.head?)
    rw [hsource, hplace, List.head?_eq_getElem?]
    rfl

/-- The value of a parsed text is what its source stands for. -/
theorem decodes_of_parse {source : String} {text : Text} (h : parse source = .ok text) :
    Decodes source.toList text.value.toList := by
  rw [← Escape.decode_ok_iff]
  rw [parse_eq_decode] at h
  cases hd : Escape.decode source.toList with
  | error bad => rw [hd] at h; cases h
  | ok value =>
      rw [hd] at h
      cases h
      rw [String.toList_ofList]

/-- A text is refused where its source stops being written in pieces. -/
theorem parse_error_iff {source : String} {bad : BadEscape} :
    parse source = .error bad ↔ Escape.Stops source.toList bad := by
  rw [← Escape.decode_error_iff, parse_eq_decode]
  cases Escape.decode source.toList with
  | error other => simp [Except.map]
  | ok value => simp [Except.map]

/-- A text that is not written empty is not empty. -/
theorem value_ne_empty {source : String} {text : Text} (h : parse source = .ok text)
    (hs : source ≠ "") : text.value ≠ "" := by
  have hvalue := (decodes_of_parse h).value_ne_nil (by simpa using hs)
  exact fun e => hvalue (by rw [e]; rfl)

end Text

end Phrasebook
