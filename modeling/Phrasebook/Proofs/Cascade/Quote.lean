import Phrasebook.Cascade.Quote
import Phrasebook.Proofs.C.Lexer
import Phrasebook.Proofs.Text.Fragment

/-!
# `Phrasebook.Proofs.Cascade.Quote`: literals say what was written

`Quote.protect` follows the source piece by piece: it keeps an escape, puts a
backslash in front of a bare quote, and copies everything else. So the body of a
literal is written in pieces too and stands for the same text
(`decodes_protect`). In a file it is read up to its last character, since every
quote in it is taken (`run_protect`).

A source without quotes is kept at once. Going through it would give the same
(`protect_eq_protectEach`).
-/

set_option autoImplicit false

namespace Phrasebook

open Escape (Decodes)

namespace Quote

/-! ### Texts without quotes -/

/-- Going through a text without quotes changes nothing. -/
theorem protectEach_eq_self {source : List Char} (hq : '"' ∉ source) (taken : Bool) :
    protectEach taken source = source := by
  induction source generalizing taken with
  | nil => rfl
  | cons c rest ih =>
      have hc : c ≠ '"' := fun e => hq (e ▸ List.mem_cons_self)
      have hplain : (c == '"' && !taken) = false := by simp [hc]
      rw [protectEach, hplain, ih fun m => hq (List.mem_cons_of_mem _ m)]
      rfl

/-- Keeping a text without quotes at once gives the same as going through it. -/
theorem protect_eq_protectEach (taken : Bool) (source : List Char) :
    protect taken source = protectEach taken source := by
  rw [protect]
  split
  · rfl
  · rename_i hnone
    exact (protectEach_eq_self (by simpa using hnone) taken).symm

/-- Without quotes there is nothing to do. -/
theorem protect_eq_self {source : List Char} (hq : '"' ∉ source) :
    protect false source = source := by
  rw [protect_eq_protectEach, protectEach_eq_self hq]

/-! ### One piece of a source -/

/-- An escape is kept, whatever its letter is. -/
theorem protect_escape (letter : Char) (source : List Char) :
    protect false ('\\' :: letter :: source) = '\\' :: letter :: protect false source := by
  simp [protect_eq_protectEach, protectEach]

/-- A bare quote becomes an escape. -/
theorem protect_quote (source : List Char) :
    protect false ('"' :: source) = '\\' :: '"' :: protect false source := by
  simp [protect_eq_protectEach, protectEach]

/-- Every other character is copied. -/
theorem protect_plain {c : Char} (hb : c ≠ '\\') (hq : c ≠ '"') (source : List Char) :
    protect false (c :: source) = c :: protect false source := by
  have hnext : (c == '\\') = false := by simpa using hb
  simp [protect_eq_protectEach, protectEach, hnext, hq]

/-- The body of a literal stands for what its source stands for. -/
theorem decodes_protect {source value : List Char} (h : Decodes source value) :
    Decodes (protect false source) value := by
  induction h with
  | nil => exact .nil
  | escape named _ ih =>
      rw [protect_escape]
      exact .escape named ih
  | @plain c source value ne _ ih =>
      -- A quote is an escape in the body, though it was plain in the source.
      by_cases hq : c = '"'
      · subst hq
        rw [protect_quote]
        exact .escape rfl ih
      · rw [protect_plain ne hq]
        exact .plain ne ih

end Quote

namespace C.Scan

/-! ### Reading a literal -/

/-- An escape leaves the literal open. -/
theorem run_escape {body source last : List Char} {letter : Char} (hl : letter ≠ '\n')
    (h : run (literal (letter :: '\\' :: body)) source = some (literal last, [])) :
    run (literal body) ('\\' :: letter :: source) = some (literal last, []) := by
  have hback : step (literal body) '\\' = some (taking body, []) := rfl
  have hletter : step (taking body) letter = some (literal (letter :: '\\' :: body), []) := by
    rw [step, if_neg hl]
  rw [run, hback]
  show (run (taking body) (letter :: source)).map _ = _
  rw [run, hletter]
  show ((run (literal (letter :: '\\' :: body)) source).map _).map _ = _
  rw [h]
  rfl

/-- No quote within the body of a literal ends it. -/
theorem run_protect {source value : List Char} (h : Decodes source value)
    (hn : '\n' ∉ source) (body : List Char) :
    run (literal body) (Quote.protect false source)
      = some (literal ((Quote.protect false source).reverse ++ body), []) := by
  -- By induction on the pieces. Each of them is put into the body as a whole.
  induction h generalizing body with
  | nil => rfl
  | @escape letter c source value _ _ ih =>
      have hletter : letter ≠ '\n' := fun e =>
        hn (e ▸ List.mem_cons_of_mem _ List.mem_cons_self)
      have hsource : '\n' ∉ source := fun m =>
        hn (List.mem_cons_of_mem _ (List.mem_cons_of_mem _ m))
      rw [Quote.protect_escape, run_escape hletter (ih hsource _)]
      simp
  | @plain c source value ne _ ih =>
      have hc : c ≠ '\n' := fun e => hn (e ▸ List.mem_cons_self)
      have hsource : '\n' ∉ source := fun m => hn (List.mem_cons_of_mem _ m)
      by_cases hq : c = '"'
      · subst hq
        rw [Quote.protect_quote, run_escape (by decide) (ih hsource _)]
        simp
      · have hstep : step (literal body) c = some (literal (c :: body), []) := by
          rw [step, if_neg hq, if_neg ne, if_neg hc]
        rw [Quote.protect_plain ne hq, run, hstep]
        show (run (literal (c :: body)) (Quote.protect false source)).map _ = _
        rw [ih hsource]
        simp

/-- The literal for a written text is read as one token, and stands for the
value of the text. -/
theorem run_literal {source value : String} (h : Decodes source.toList value.toList)
    (hn : '\n' ∉ source.toList) (fresh : Bool) :
    run (between fresh) (Quote.literal source).toList
      = some (between false, [.literal value]) := by
  -- The quote in front, the body, and the quote behind it.
  have hopen : run (between fresh) ['"'] = some (literal [], []) := rfl
  have hbody := run_protect h hn []
  have hclose : run (literal ((Quote.protect false source.toList).reverse ++ [])) ['"']
      = some (between false, [.literal value]) := by
    have hend : closeLiteral (Quote.protect false source.toList).reverse
        = some (between false, [.literal value]) := by
      rw [closeLiteral, List.reverse_reverse,
        Escape.decode_ok_iff.mpr (Quote.decodes_protect h)]
      show some (between false, [Token.literal (.ofList value.toList)]) = _
      rw [String.ofList_toList]
    rw [List.append_nil, run, step, if_pos rfl, hend]
    rfl
  have hchars : (Quote.literal source).toList
      = ['"'] ++ Quote.protect false source.toList ++ ['"'] := by
    rw [Quote.literal, String.toList_append, String.toList_append]
    show ['"'] ++ (String.ofList (Quote.protect false source.toList)).toList ++ ['"'] = _
    rw [String.toList_ofList]
  rw [hchars]
  exact run_append (run_append hopen hbody) hclose

end C.Scan

end Phrasebook
