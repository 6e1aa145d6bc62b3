import Mathlib.Data.List.Basic
import Mathlib.Data.List.TakeWhile
import Phrasebook.Log.Filter

/-!
# `Phrasebook.Proofs.Log.Threshold`: filters that are no more than a level

Most filters in use are the name of a level, or none at all. `Filter.Threshold` lists
them with the level that each comes to, and `Filter.choose_eq` shows that they come to
it: the filter shows the events up to that level, whatever part of the program they come
from (`Filter.admits_upTo`).

The work is in the names. A name is letters, so it has no comma, bracket or equals sign
that would cut it, no blank to be trimmed, and no digits. It is read as one word
(`Directive.parse?_letters`), and only then compared with the names of the levels, in
small letters (`Filter.parse?_name`).
-/

set_option autoImplicit false

namespace Phrasebook

/-! ### Letters -/

/-- What holds of the letters among the characters of ASCII holds of all letters. -/
theorem of_isAlpha {P : Char → Prop} (h : ∀ n < 128, (Char.ofNat n).isAlpha → P (Char.ofNat n))
    {c : Char} (hc : c.isAlpha) : P c := by
  -- The letters are those of ASCII, so there are finitely many to look at.
  have hascii : c.toNat < 128 := by
    delta Char.isAlpha Char.isUpper Char.isLower at hc
    simp only [Bool.or_eq_true, Bool.and_eq_true, decide_eq_true_eq, UInt32.le_iff_toNat_le] at hc
    have hZ : 'Z'.val.toNat = 90 := rfl
    have hz : 'z'.val.toNat = 122 := rfl
    show c.val.toNat < 128
    omega
  have hn := h c.toNat hascii
  rw [Char.ofNat_toNat] at hn
  exact hn hc

/-- No letter is a blank. -/
theorem isBlank_of_isAlpha {c : Char} (h : c.isAlpha) : Blank.isBlank c = false :=
  of_isAlpha (P := fun c => Blank.isBlank c = false) (by decide) h

/-- No letter is a digit. -/
theorem isDigit_of_isAlpha {c : Char} (h : c.isAlpha) : c.isDigit = false :=
  of_isAlpha (P := fun c => c.isDigit = false) (by decide) h

/-- A letter is no mark of a directive. -/
theorem ne_of_isAlpha {c mark : Char} (h : c.isAlpha) (hmark : mark.isAlpha = false) :
    c ≠ mark := by
  intro e
  rw [e, hmark] at h
  cases h

/-- What has a letter for its small letter is one. -/
theorem isAlpha_of_toLower {c : Char} (h : c.toLower.isAlpha) : c.isAlpha := by
  unfold Char.toLower at h
  split at h
  · rename_i hupper
    have hletter : c.isUpper = true := decide_eq_true hupper
    show (c.isUpper || c.isLower) = true
    rw [hletter, Bool.true_or]
  · exact h

/-! ### Words -/

/-- Letters are a word by themselves, since nothing in them ends a part of a
directive. -/
theorem Directive.parse?_letters {word : List Char} (hne : word ≠ [])
    (h : ∀ c ∈ word, c.isAlpha) : parse? word = some (ofWord word) := by
  have hbody : Blank.trim word = word := by
    refine Blank.trim_eq_self ?_ ?_
    · intro c hc
      exact isBlank_of_isAlpha (h c (List.mem_of_mem_head? hc))
    · intro c hc
      exact isBlank_of_isAlpha (h c (List.mem_of_mem_getLast? hc))
  have hstart : word.head?.any isStart = true := by
    obtain ⟨first, rest, rfl⟩ := List.exists_cons_of_ne_nil hne
    have hfirst : first.isAlphanum := by
      rw [Char.isAlphanum, h first List.mem_cons_self]
      rfl
    simp [isStart, Alphanumeric.isAlphanumeric_of_isAlphanum hfirst]
  -- No equals sign and no bracket ends the word, so all of it is taken.
  have hwhole : (List.zipWith Cell.mk word word).dropWhile
      (fun cell => cell.guide != '=' && cell.guide != '[') = [] := by
    rw [List.dropWhile_eq_nil_iff, List.zipWith_self]
    intro cell hcell
    obtain ⟨c, hc, rfl⟩ := List.mem_map.mp hcell
    have hequals : c ≠ '=' := ne_of_isAlpha (h c hc) (by decide)
    have hbracket : c ≠ '[' := ne_of_isAlpha (h c hc) (by decide)
    simp [hequals, hbracket]
  simp only [parse?, hbody, hstart, hwhole]
  rfl

/-- A word that is no number sets the limit that its small letters name. -/
theorem Directive.limit?_letters {word : List Char} (hne : word ≠ [])
    (h : ∀ c ∈ word, c.isAlpha) :
    limit? word = limitName? (.ofList (word.map Char.toLower)) := by
  have hnumber : limitNumber? word = none := by
    obtain ⟨first, rest, rfl⟩ := List.exists_cons_of_ne_nil hne
    have hplus : first ≠ '+' := ne_of_isAlpha (h first List.mem_cons_self) (by decide)
    have hdigit := isDigit_of_isAlpha (h first List.mem_cons_self)
    simp [limitNumber?, hplus, hdigit]
  rw [limit?, hnumber, Option.none_or]

namespace Filter

/-! ### Names of levels -/

/-- The name of a level in small letters stands for it. -/
theorem limitName?_name (level : Level) :
    Directive.limitName? (.ofList (level.name.toList.map Char.toLower)) = some level.rank := by
  cases level <;> rfl

/-- The name of a level, in letters of either case, is the filter up to this level. -/
theorem parse?_name {written : String} {level : Level}
    (h : written.toLower = level.name.toLower) : parse? written = some (upTo level) := by
  have hmap : written.toList.map Char.toLower = level.name.toList.map Char.toLower := by
    rw [← String.toList_map, ← String.toList_map]
    exact congrArg String.toList h
  -- What is written may be in capitals, and its small letters are those of the name.
  have hletters : ∀ c ∈ written.toList, c.isAlpha := by
    intro c hc
    have hsmall : c.toLower ∈ level.name.toList.map Char.toLower := by
      rw [← hmap]
      exact List.mem_map_of_mem hc
    have hname : (level.name.toList.map Char.toLower).all Char.isAlpha = true := by
      cases level <;> decide
    exact isAlpha_of_toLower (List.all_eq_true.mp hname _ hsmall)
  have hne : written.toList ≠ [] := by
    intro hnil
    rw [hnil] at hmap
    cases level <;> cases hmap
  have hword : Directive.ofWord written.toList = .forTarget "" level.rank := by
    have hlimit := limitName?_name level
    rw [Directive.ofWord, Directive.limit?_letters hne hletters, hmap, hlimit]
  have hcomma : ',' ∉ written.toList := by
    intro hmem
    exact ne_of_isAlpha (hletters _ hmem) (by decide) rfl
  have hpieces : (written.toList.splitOn ',').filter (!·.isEmpty) = [written.toList] := by
    rw [List.splitOn_eq_singleton hcomma]
    simp [hne]
  rw [parse?, hpieces, List.mapM_cons, Directive.parse?_letters hne hletters, hword]
  rfl

/-! ### Thresholds -/

/-- `Threshold verbose written level`: with the details asked for or not, and with this
filter written, the log shows the events up to `level`. -/
inductive Threshold : Bool → Option String → Level → Prop where
  /-- Details are shown whatever is written. -/
  | details (written : Option String) : Threshold true written .debug
  | unwritten : Threshold false none .warn
  | empty : Threshold false (some "") .error
  | name {written : String} {level : Level} (named : written.toLower = level.name.toLower) :
      Threshold false (some written) level
  /-- What cannot be read counts as if it were not written. -/
  | unreadable {written : String} (unread : parse? written = none) :
      Threshold false (some written) .warn

/-- The filter that is chosen is the one up to the threshold. -/
theorem choose_eq {verbose : Bool} {written : Option String} {level : Level}
    (h : Threshold verbose written level) : choose verbose written = upTo level := by
  cases h with
  | details => rfl
  | unwritten => rfl
  | empty => rfl
  | name named =>
      show (parse? _).getD (upTo .warn) = _
      rw [parse?_name named, Option.getD_some]
  | unreadable unread =>
      show (parse? _).getD (upTo .warn) = _
      rw [unread, Option.getD_none]

/-- A filter up to a level looks at nothing but the level of an event. -/
theorem admits_upTo (level : Level) (event : Event) :
    (upTo level).admits event = decide (event.level.rank ≤ level.rank) := by
  have happlies : (Directive.forTarget "" level.rank).applies event = true := rfl
  have hdecisive : (upTo level).decisive? event = some (.forTarget "" level.rank) := by
    simp [decisive?, upTo, happlies, better]
  rw [admits, hdecisive]
  rfl

/-- The events that a log up to a level shows. -/
def shown (level : Level) (events : List Event) : List Event :=
  events.filter fun event => event.level.rank ≤ level.rank

/-- A stricter level only leaves out events. -/
theorem shown_sublist {strict lax : Level} (h : strict.rank ≤ lax.rank) (events : List Event) :
    (shown strict events).Sublist (shown lax events) := by
  refine List.monotone_filter_right events fun event hevent => ?_
  have hrank : event.level.rank ≤ strict.rank := of_decide_eq_true hevent
  exact decide_eq_true (Nat.le_trans hrank h)

end Filter

end Phrasebook
