import Phrasebook.Text.Escape

/-!
# `Phrasebook.Proofs.Text.Escape`: the language of escapes

A source is written in pieces. A piece is an escape, which is a backslash and a
letter of the table, or a character that stands for itself. `Decodes` says so
without an order of reading, and `decode_ok_iff` shows that `Escape.decode`
accepts exactly these sources, with these values. What follows from acceptance
is proved by induction on `Decodes`, one case for each piece. `Stops` describes the
other sources, which are written in pieces only up to some backslash:
`decode_error_iff`.
-/

set_option autoImplicit false

namespace Phrasebook

namespace Escape

/-- `Decodes source value`: `source` is written in pieces that stand for the
characters of `value`. -/
inductive Decodes : List Char → List Char → Prop where
  | nil : Decodes [] []
  | escape {letter c : Char} {source value : List Char} (named : named? letter = some c)
      (rest : Decodes source value) : Decodes ('\\' :: letter :: source) (c :: value)
  | plain {c : Char} {source value : List Char} (ne : c ≠ '\\')
      (rest : Decodes source value) : Decodes (c :: source) (c :: value)

/-- Sources that are written in pieces can be put behind each other. -/
theorem Decodes.append {front back value others : List Char} (hfront : Decodes front value)
    (hback : Decodes back others) : Decodes (front ++ back) (value ++ others) := by
  induction hfront with
  | nil => exact hback
  | escape named _ ih => exact .escape named ih
  | plain ne _ ih => exact .plain ne ih

/-- Without backslashes, every character is a piece that stands for itself. -/
theorem decodes_self {source : List Char} (h : '\\' ∉ source) : Decodes source source := by
  induction source with
  | nil => exact .nil
  | cons c source ih =>
      have hc : c ≠ '\\' := fun e => h (e ▸ List.mem_cons_self)
      exact .plain hc (ih fun m => h (List.mem_cons_of_mem _ m))

/-- A character that is no backslash is read as itself. -/
theorem decode_plain {c : Char} (ne : c ≠ '\\') (source : List Char) :
    decode (c :: source) = (decode source).map (c :: ·) :=
  decode.eq_4 _ _ (fun e _ => ne e) (fun _ _ e _ => ne e)

/-- A backslash is either last or in front of a letter. These are the cases of `decode`
before its last. -/
theorem ne_backslash {c : Char} {rest : List Char} (hend : c = '\\' → rest = [] → False)
    (hpair : ∀ letter others, c = '\\' → rest = letter :: others → False) : c ≠ '\\' := by
  rintro rfl
  cases rest with
  | nil => exact hend rfl rfl
  | cons letter others => exact hpair letter others rfl rfl

/-- `decode` accepts what is written in pieces, and nothing else. -/
theorem decode_ok_iff {source value : List Char} :
    decode source = .ok value ↔ Decodes source value := by
  constructor
  · -- By induction along `decode`. Two of its cases accept nothing.
    intro h
    induction source using decode.induct generalizing value with
    | case1 => cases h; exact .nil
    | case2 => cases h
    | case3 letter rest c hnamed ih =>
        rw [decode, hnamed] at h
        cases hd : decode rest with
        | error bad => rw [hd] at h; cases h
        | ok others => rw [hd] at h; cases h; exact .escape hnamed (ih hd)
    | case4 letter rest hnamed =>
        rw [decode, hnamed] at h
        cases h
    | case5 c rest hend hpair ih =>
        have hc := ne_backslash hend hpair
        rw [decode_plain hc] at h
        cases hd : decode rest with
        | error bad => rw [hd] at h; cases h
        | ok others => rw [hd] at h; cases h; exact .plain hc (ih hd)
  · intro h
    induction h with
    | nil => rfl
    | escape hnamed _ ih => rw [decode, hnamed, ih]; rfl
    | plain hc _ ih => rw [decode_plain hc, ih]; rfl

/-- What is written in pieces is read piece by piece, whatever follows. -/
theorem Decodes.decode_append {source value : List Char} (h : Decodes source value)
    (rest : List Char) : decode (source ++ rest) = (decode rest).map (value ++ ·) := by
  induction h with
  | nil =>
      rw [List.nil_append]
      cases decode rest <;> rfl
  | escape hnamed _ ih =>
      rw [List.cons_append, List.cons_append, decode, hnamed, ih]
      cases decode rest <;> rfl
  | plain hc _ ih =>
      rw [List.cons_append, decode_plain hc, ih]
      cases decode rest <;> rfl

/-- `Stops source bad`: `source` is written in pieces up to a backslash that begins no
escape, and `bad` names the character behind it. -/
def Stops (source : List Char) (bad : BadEscape) : Prop :=
  ∃ front value rest, source = front ++ '\\' :: rest ∧ Decodes front value
    ∧ rest.head? = bad.found ∧ rest.head?.bind named? = none

/-- `decode` refuses what is written in pieces up to a backslash that begins no escape,
and nothing else. -/
theorem decode_error_iff {source : List Char} {bad : BadEscape} :
    decode source = .error bad ↔ Stops source bad := by
  constructor
  · intro h
    induction source using decode.induct with
    | case1 => cases h
    | case2 => cases h; exact ⟨[], [], [], rfl, .nil, rfl, rfl⟩
    | case3 letter rest c hnamed ih =>
        rw [decode, hnamed] at h
        cases hd : decode rest with
        | error bad' =>
            rw [hd] at h
            cases h
            obtain ⟨front, others, tail, rfl, hfront, hfound, hnone⟩ := ih hd
            exact ⟨'\\' :: letter :: front, c :: others, tail, rfl, .escape hnamed hfront, hfound,
              hnone⟩
        | ok others => rw [hd] at h; cases h
    | case4 letter rest hnamed =>
        rw [decode, hnamed] at h
        cases h
        exact ⟨[], [], letter :: rest, rfl, .nil, rfl, hnamed⟩
    | case5 c rest hend hpair ih =>
        have hc := ne_backslash hend hpair
        rw [decode_plain hc] at h
        cases hd : decode rest with
        | error bad' =>
            rw [hd] at h
            cases h
            obtain ⟨front, others, tail, rfl, hfront, hfound, hnone⟩ := ih hd
            exact ⟨c :: front, c :: others, tail, rfl, .plain hc hfront, hfound, hnone⟩
        | ok others => rw [hd] at h; cases h
  · rintro ⟨front, value, rest, rfl, hfront, hfound, hnone⟩
    rw [hfront.decode_append]
    -- The pieces are read, and then the backslash.
    cases rest with
    | nil => cases bad; cases hfound; rfl
    | cons letter rest =>
        have hnamed : named? letter = none := hnone
        cases bad
        cases hfound
        rw [decode, hnamed]
        rfl

/-- A character that has to do with no escape stands in a text where it is written. -/
theorem Decodes.mem_iff {source value : List Char} (h : Decodes source value) {c : Char}
    (hback : c ≠ '\\') (hletter : named? c = none) (hnamed : ∀ letter, named? letter ≠ some c) :
    c ∈ value ↔ c ∈ source := by
  induction h with
  | nil => exact Iff.rfl
  | escape named rest ih =>
      -- `c` is neither a part of the escape nor what it stands for.
      rename_i letter d source value
      have hd : c ≠ d := fun e => hnamed letter (e ▸ named)
      have hl : c ≠ letter := by
        intro e
        rw [← e, hletter] at named
        cases named
      simp [hd, hl, hback, ih]
  | plain ne rest ih => simp [ih]

/-- Something that is written stands for something. -/
theorem Decodes.value_ne_nil {source value : List Char} (h : Decodes source value)
    (hs : source ≠ []) : value ≠ [] := by
  cases h with
  | nil => exact absurd rfl hs
  | escape => simp
  | plain => simp

end Escape

end Phrasebook
