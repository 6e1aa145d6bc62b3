import Mathlib.Logic.Relation
import Phrasebook.Proofs.Text.Fragment

/-!
# `Phrasebook.Proofs.Text.Reader`: reading a text character by character

A `Reader` goes through a source from left to right and writes down what it reads. It
copies a character that is no backslash, replaces an escape by the character that is
meant, and has no other step. `escapes` lists the escapes one by one.

Where a reader can get to is told by the pieces of the source before it
(`steps_iff`), so a text is accepted if the reader comes to the end, with what it has
written down, and refused if it cannot go on before (`stuck_iff`). `Text.parse` reads in
fragments, and stops at the place where the reader is stuck (`reader_of_readAll`). Pieces
can be put behind each other, and so the value of two texts in a row is that of the first
and then that of the second. `parse_follows_reader` states all this.
-/

set_option autoImplicit false

namespace Phrasebook

namespace Escape

/-- The eleven escapes: the letter behind the backslash, and the character that it
means. -/
def escapes : List (Char × Char) :=
  [('n', '\n'), ('r', '\r'), ('t', '\t'), ('a', '\x07'), ('b', '\x08'), ('f', '\x0c'),
    ('v', '\x0b'), ('\\', '\\'), ('"', '"'), ('\'', '\''), ('?', '?')]

/-- The list of the escapes is the table that `decode` uses. -/
theorem mem_escapes_iff {letter c : Char} : (letter, c) ∈ escapes ↔ named? letter = some c := by
  constructor
  · intro h
    simp only [escapes, List.mem_cons, Prod.mk.injEq, List.not_mem_nil, or_false] at h
    -- One entry of the list for each line of the table.
    rcases h with ⟨rfl, rfl⟩ | ⟨rfl, rfl⟩ | ⟨rfl, rfl⟩ | ⟨rfl, rfl⟩ | ⟨rfl, rfl⟩ | ⟨rfl, rfl⟩
      | ⟨rfl, rfl⟩ | ⟨rfl, rfl⟩ | ⟨rfl, rfl⟩ | ⟨rfl, rfl⟩ | ⟨rfl, rfl⟩ <;> rfl
  · intro h
    unfold named? at h
    split at h <;> cases h <;> decide

/-- A reader within a source: what it has written down, and what it has still to
read. -/
structure Reader where
  written : List Char
  unread : List Char

namespace Reader

/-- Before the first character. -/
def start (source : List Char) : Reader := ⟨[], source⟩

/-- One step of a reader. -/
inductive Step : Reader → Reader → Prop where
  /-- A character that is no backslash is copied. -/
  | copy {written rest : List Char} {c : Char} (ne : c ≠ '\\') :
      Step ⟨written, c :: rest⟩ ⟨written ++ [c], rest⟩
  /-- An escape is replaced by what it means. -/
  | replace {written rest : List Char} {letter c : Char} (meant : (letter, c) ∈ escapes) :
      Step ⟨written, '\\' :: letter :: rest⟩ ⟨written ++ [c], rest⟩

/-- Any number of steps. -/
def Steps : Reader → Reader → Prop := Relation.ReflTransGen Step

/-- A reader that can do nothing more. -/
def Stuck (r : Reader) : Prop := ∀ next, ¬ Step r next

/-- A reader takes pieces of the source, and writes down what they stand for. -/
theorem exists_pieces_of_steps {r s : Reader} (h : Steps r s) :
    ∃ front value, r.unread = front ++ s.unread ∧ s.written = r.written ++ value
      ∧ Decodes front value := by
  induction h using Relation.ReflTransGen.head_induction_on with
  | refl => exact ⟨[], [], rfl, (List.append_nil _).symm, .nil⟩
  | head hstep _ ih =>
      obtain ⟨front, value, hunread, hwritten, hfront⟩ := ih
      -- The first step takes one piece more, in front of the others.
      cases hstep with
      | @copy written rest c ne =>
          have hrest : rest = front ++ s.unread := hunread
          refine ⟨c :: front, c :: value, by rw [hrest]; rfl, ?_, .plain ne hfront⟩
          rw [hwritten, List.append_assoc]
          rfl
      | @replace written rest letter c meant =>
          have hrest : rest = front ++ s.unread := hunread
          refine ⟨'\\' :: letter :: front, c :: value, by rw [hrest]; rfl, ?_,
            .escape (mem_escapes_iff.mp meant) hfront⟩
          rw [hwritten, List.append_assoc]
          rfl

/-- Every piece of a source can be taken. -/
theorem steps_of_pieces {front value : List Char} (h : Decodes front value)
    (written rest : List Char) : Steps ⟨written, front ++ rest⟩ ⟨written ++ value, rest⟩ := by
  -- By induction on the pieces. What has been written down grows with each of them.
  induction h generalizing written with
  | nil =>
      rw [List.append_nil]
      exact .refl
  | @escape letter c source value named _ ih =>
      have hrest := ih (written ++ [c])
      rw [List.append_assoc] at hrest
      exact .head (.replace (mem_escapes_iff.mpr named)) hrest
  | @plain c source value ne _ ih =>
      have hrest := ih (written ++ [c])
      rw [List.append_assoc] at hrest
      exact .head (.copy ne) hrest

/-- A reader gets to where the pieces before it lead. -/
theorem steps_iff {source written rest : List Char} :
    Steps (start source) ⟨written, rest⟩
      ↔ ∃ front, source = front ++ rest ∧ Decodes front written := by
  constructor
  · intro h
    obtain ⟨front, value, hsource, rfl, hfront⟩ := exists_pieces_of_steps h
    exact ⟨front, hsource, hfront⟩
  · rintro ⟨front, rfl, hfront⟩
    exact steps_of_pieces hfront [] rest

/-- At a backslash, a reader can go on if the next character is the letter of an
escape. -/
theorem stuck_iff {written rest : List Char} :
    Stuck ⟨written, '\\' :: rest⟩ ↔ rest.head?.bind named? = none := by
  cases rest with
  | nil =>
      refine iff_of_true ?_ rfl
      intro next h
      cases h with
      | copy ne => exact ne rfl
  | cons letter rest =>
      show _ ↔ named? letter = none
      constructor
      · intro h
        cases hnamed : named? letter with
        | none => rfl
        | some c => exact absurd (.replace (mem_escapes_iff.mpr hnamed)) (h ⟨written ++ [c], rest⟩)
      · intro hnone next h
        cases h with
        | copy ne => exact ne rfl
        | replace meant =>
            rw [mem_escapes_iff, hnone] at meant
            cases meant

/-- A reader is stuck where no fragment begins. -/
theorem stuck_of_first?_eq_none {text : List Char} (h : Fragment.first? text = none)
    (written : List Char) : Stuck ⟨written, text⟩ := by
  rcases Fragment.first?_eq_none_iff.mp h with rfl | ⟨rest, rfl, hnone⟩
  · intro next hstep
    cases hstep
  · exact stuck_iff.mpr hnone

/-- The reader comes to the place where reading in fragments stops, has written down what
the fragments stand for, and is stuck there. -/
theorem reader_of_readAll {source left : List Char} {fragments : List Fragment}
    (h : Fragment.readAll source = (fragments, left)) :
    Steps (start source) ⟨fragments.flatMap Fragment.value, left⟩
      ∧ Stuck ⟨fragments.flatMap Fragment.value, left⟩ := by
  obtain ⟨front, hsource, hfront, hstop⟩ := Fragment.readAll_spec source
  rw [h] at hsource hfront hstop
  exact ⟨steps_iff.mpr ⟨front, hsource, hfront⟩, stuck_of_first?_eq_none hstop _⟩

/-- A source that stops being written in pieces is one in which a reader is stuck at a
backslash. -/
theorem stops_iff {source : List Char} {bad : BadEscape} :
    Stops source bad ↔ ∃ written rest, Steps (start source) ⟨written, '\\' :: rest⟩
      ∧ Stuck ⟨written, '\\' :: rest⟩ ∧ rest.head? = bad.found := by
  constructor
  · rintro ⟨front, written, rest, hsource, hfront, hfound, hnone⟩
    exact ⟨written, rest, steps_iff.mpr ⟨front, hsource, hfront⟩, stuck_iff.mpr hnone, hfound⟩
  · rintro ⟨written, rest, hsteps, hstuck, hfound⟩
    obtain ⟨front, hsource, hfront⟩ := steps_iff.mp hsteps
    exact ⟨front, written, rest, hsource, hfront, hfound, stuck_iff.mp hstuck⟩

end Reader

end Escape

namespace Text

open Escape (Decodes Reader)

/-- A text is accepted with the value that its source stands for, and keeps the
source. -/
theorem parse_ok_iff {source : String} {text : Text} :
    parse source = .ok text
      ↔ text.source = source ∧ Decodes source.toList text.value.toList := by
  constructor
  · intro h
    exact ⟨source_of_parse h, decodes_of_parse h⟩
  · rintro ⟨rfl, h⟩
    rw [parse_eq_decode, Escape.decode_ok_iff.mpr h]
    show Except.ok (Text.mk text.source (.ofList text.value.toList)) = _
    rw [String.ofList_toList]

/-- What is written behind an accepted text is read as if it stood alone. -/
theorem parse_behind {front : String} {text : Text} (h : parse front = .ok text)
    (back : String) :
    parse (front ++ back)
      = (parse back).map fun other => ⟨front ++ back, text.value ++ other.value⟩ := by
  have hfront := (decodes_of_parse h).decode_append back.toList
  rw [parse_eq_decode, parse_eq_decode, String.toList_append, hfront]
  cases Escape.decode back.toList with
  | error bad => rfl
  | ok value =>
      show Except.ok (Text.mk _ (.ofList (text.value.toList ++ value))) = _
      rw [String.ofList_append, String.ofList_toList]
      rfl

/-- The byte at which reading in fragments stopped leads back to the place. -/
theorem fromByte?_of_readAll {source left : List Char} {fragments : List Fragment}
    (h : Fragment.readAll source = (fragments, left)) :
    fromByte? (stopByte source left) source = some left := by
  obtain ⟨front, hsource, -, -⟩ := Fragment.readAll_spec source
  rw [h] at hsource
  rw [hsource]
  exact fromByte?_stopByte front left

/-- Reading in fragments stops where a reader of single characters is stuck, with the same
written down, and the place is found again by its byte. So a text is accepted if the
reader comes to the end of its source, with what the reader has written down as its value.
It is refused if the reader is stuck at a backslash, for the character behind this
backslash if there is one. Behind an accepted text, every other text is accepted or refused
as if it stood alone, and the values are put behind each other. -/
theorem parse_follows_reader :
    (∀ source : String, parse source
        = (Escape.decode source.toList).map fun value => ⟨source, .ofList value⟩)
      ∧ (∀ (source : String) (fragments : List Fragment) (left : List Char),
        Fragment.readAll source.toList = (fragments, left) →
          (Reader.start source.toList).Steps ⟨fragments.flatMap Fragment.value, left⟩
            ∧ Reader.Stuck ⟨fragments.flatMap Fragment.value, left⟩
            ∧ fromByte? (stopByte source.toList left) source.toList = some left)
      ∧ (∀ (source : String) (text : Text), parse source = .ok text
        ↔ text.source = source ∧ (Reader.start source.toList).Steps ⟨text.value.toList, []⟩)
      ∧ (∀ (source : String) (bad : BadEscape), parse source = .error bad
        ↔ ∃ written rest, (Reader.start source.toList).Steps ⟨written, '\\' :: rest⟩
          ∧ Reader.Stuck ⟨written, '\\' :: rest⟩ ∧ rest.head? = bad.found)
      ∧ ∀ (front back : String) (text : Text), parse front = .ok text →
        parse (front ++ back)
          = (parse back).map fun other => ⟨front ++ back, text.value ++ other.value⟩ := by
  refine ⟨parse_eq_decode, ?_, ?_, ?_, ?_⟩
  · intro source fragments left h
    obtain ⟨hsteps, hstuck⟩ := Reader.reader_of_readAll h
    exact ⟨hsteps, hstuck, fromByte?_of_readAll h⟩
  · intro source text
    -- At the end of the source nothing is left behind the pieces.
    have hend : (Reader.start source.toList).Steps ⟨text.value.toList, []⟩
        ↔ Decodes source.toList text.value.toList := by
      rw [Reader.steps_iff]
      simp only [List.append_nil, exists_eq_left']
    rw [parse_ok_iff, hend]
  · intro source bad
    rw [parse_error_iff, Reader.stops_iff]
  · intro front back text h
    exact parse_behind h back

/-- A text that ends with two backslashes, in front of one that is refused and of one that
is not. A character of three bytes and one of two stand before the place. -/
theorem parse_follows_reader_backslashes :
    parse "メ\\\\" = .ok ⟨"メ\\\\", "メ\\"⟩
      ∧ Fragment.readAll "メ\\\\é\\d".toList
        = ([.run ['メ'], .escape '\\', .run ['é']], ['\\', 'd'])
      ∧ fromByte? 7 "メ\\\\é\\d".toList = some ['\\', 'd']
      ∧ parse ("メ\\\\" ++ "é\\d") = .error ⟨some 'd'⟩
      ∧ parse ("メ\\\\" ++ "n\\n") = .ok ⟨"メ\\\\n\\n", "メ\\n\n"⟩ := by
  obtain ⟨-, hplace, -, -, hbehind⟩ := parse_follows_reader
  have h : parse "メ\\\\" = .ok ⟨"メ\\\\", "メ\\"⟩ := rfl
  have hread : Fragment.readAll "メ\\\\é\\d".toList
      = ([.run ['メ'], .escape '\\', .run ['é']], ['\\', 'd']) := rfl
  have hbyte : stopByte "メ\\\\é\\d".toList ['\\', 'd'] = 7 := rfl
  obtain ⟨-, -, hfound⟩ := hplace _ _ _ hread
  rw [hbyte] at hfound
  refine ⟨h, hread, hfound, ?_, ?_⟩
  · rw [hbehind "メ\\\\" "é\\d" _ h]
    rfl
  · rw [hbehind "メ\\\\" "n\\n" _ h]
    rfl

end Text

end Phrasebook
