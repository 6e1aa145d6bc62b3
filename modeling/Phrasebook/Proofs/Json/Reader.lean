import Phrasebook.Json.Basic

/-!
# `Phrasebook.Proofs.Json.Reader`: reading JSON documents

A reader of JSON, for documents of strings, arrays and objects. It takes a
document character by character and holds what it has read so far:

- Blanks may stand between any two tokens. They are spaces, tabs, line feeds and
  carriage returns.
- A string ends at the first quote that is not escaped. It may hold every
  character but the controls below U+0020, which have to be escaped. An escape
  is one of eight letters or four hexadecimal digits, and the digits give a
  code unit: two surrogates in a row stand for one character, and neither may
  stand alone.
- An array or object has a comma between any two of its parts and none behind
  the last.

Numbers and the three words of JSON are refused, so the reader reads less than
JSON. It keeps the members of an object in their order and leaves out none.

`read?_layout` shows that it gives back each value from its layout. The layout is
read piece by piece, and each piece leaves a known state behind it (`Reads`).
`exists_between_of_control` tells where control characters can stand in whatever
is read.
-/

set_option autoImplicit false

namespace Phrasebook.Json

/-! ### Strings -/

/-- The value of a hexadecimal digit, in either case. -/
def hexValue? (c : Char) : Option Nat :=
  if '0' ≤ c ∧ c ≤ '9' then some (c.toNat - 48)
  else if 'a' ≤ c ∧ c ≤ 'f' then some (c.toNat - 87)
  else if 'A' ≤ c ∧ c ≤ 'F' then some (c.toNat - 55)
  else none

/-- The character that a backslash followed by `letter` names. -/
def named? (letter : Char) : Option Char :=
  match letter with
  | '"' => some '"'
  | '\\' => some '\\'
  | '/' => some '/'
  | 'b' => some '\x08'
  | 'f' => some '\x0c'
  | 'n' => some '\n'
  | 'r' => some '\r'
  | 't' => some '\t'
  | _ => none

/-- Whether a code unit is the first of a pair. -/
def isHigh (unit : Nat) : Bool := 0xd800 ≤ unit && unit < 0xdc00

/-- Whether a code unit is the second of a pair. -/
def isLow (unit : Nat) : Bool := 0xdc00 ≤ unit && unit < 0xe000

/-- What is being read within a string. -/
inductive Within where
  | plain
  /-- Behind a backslash. -/
  | escape
  /-- Among the four digits of a code unit, of which `count` have given `value`.
  `high` is the surrogate before it. -/
  | unit (high : Option Nat) (count value : Nat)
  /-- Behind a code unit that needs another. -/
  | high (unit : Nat)
  /-- Behind such a code unit and a backslash. -/
  | highEscape (unit : Nat)
deriving DecidableEq, Repr

/-- A string of which `chars` have been read, latest first. -/
structure Quotation where
  chars : List Char
  within : Within

namespace Quotation

/-- A string of which nothing has been read. -/
def start : Quotation := ⟨[], .plain⟩

/-- The text of a string that has been read to its end. -/
def text (q : Quotation) : String := .ofList q.chars.reverse

/-- A code unit, together with the surrogate before it. -/
def addUnit (chars : List Char) (unit : Nat) : Option Nat → Option Quotation
  | none =>
    if isHigh unit then some ⟨chars, .high unit⟩
    else if isLow unit then none
    else some ⟨.ofNat unit :: chars, .plain⟩
  | some high =>
    if isLow unit then
      some ⟨.ofNat (0x10000 + 0x400 * (high - 0xd800) + (unit - 0xdc00)) :: chars, .plain⟩
    else none

/-- One more character, which does not end the string. -/
def step (q : Quotation) (c : Char) : Option Quotation :=
  match q.within with
  | .plain =>
    if c = '\\' then some ⟨q.chars, .escape⟩
    else if c.toNat < 0x20 then none
    else some ⟨c :: q.chars, .plain⟩
  | .escape =>
    if c = 'u' then some ⟨q.chars, .unit none 0 0⟩
    else (named? c).map fun named => ⟨named :: q.chars, .plain⟩
  | .unit high count value =>
    match hexValue? c with
    | none => none
    | some digit =>
      if count = 3 then addUnit q.chars (16 * value + digit) high
      else some ⟨q.chars, .unit high (count + 1) (16 * value + digit)⟩
  | .high unit => if c = '\\' then some ⟨q.chars, .highEscape unit⟩ else none
  | .highEscape unit => if c = 'u' then some ⟨q.chars, .unit (some unit) 0 0⟩ else none

end Quotation

/-! ### Documents -/

/-- An array or object that a value belongs to. The parts before the value are
held latest first. -/
inductive Frame where
  | item (items : List Json)
  | member (members : List (String × Json)) (key : String)

/-- What may come next between two tokens. -/
inductive Place where
  | value
  | firstItem
  | behindItem (items : List Json)
  | firstKey
  | key (members : List (String × Json))
  | colon (members : List (String × Json)) (key : String)
  | behindMember (members : List (String × Json))
  /-- Nothing but blanks. -/
  | finished (value : Json)

/-- What a string is for. -/
inductive Use where
  | value
  | key (members : List (String × Json))

/-- The state of the reader. `frames` are the arrays and objects around it. -/
inductive Reader where
  | between (place : Place) (frames : List Frame)
  | text (use : Use) (q : Quotation) (frames : List Frame)

namespace Reader

/-- Nothing has been read. -/
def start : Reader := between .value []

/-- Behind a value. -/
def done (value : Json) : List Frame → Reader
  | [] => between (.finished value) []
  | .item items :: frames => between (.behindItem (value :: items)) frames
  | .member members key :: frames => between (.behindMember ((key, value) :: members)) frames

/-- Behind the quote that ends a string. -/
def close (text : String) (frames : List Frame) : Use → Reader
  | .value => done (.string text) frames
  | .key members => between (.colon members text) frames

/-- The first character of a value. -/
def enter (frames : List Frame) (c : Char) : Option Reader :=
  if c = '"' then some (text .value .start frames)
  else if c = '[' then some (between .firstItem frames)
  else if c = '\x7b' then some (between .firstKey frames)
  else none

/-- A character between two tokens, other than a blank. -/
def mark (frames : List Frame) (c : Char) : Place → Option Reader
  | .value => enter frames c
  | .firstItem =>
    if c = ']' then some (done (.array []) frames) else enter (.item [] :: frames) c
  | .behindItem items =>
    if c = ',' then some (between .value (.item items :: frames))
    else if c = ']' then some (done (.array items.reverse) frames)
    else none
  | .firstKey =>
    if c = '\x7d' then some (done (.object []) frames)
    else if c = '"' then some (text (.key []) .start frames)
    else none
  | .key members => if c = '"' then some (text (.key members) .start frames) else none
  | .colon members key =>
    if c = ':' then some (between .value (.member members key :: frames)) else none
  | .behindMember members =>
    if c = ',' then some (between (.key members) frames)
    else if c = '\x7d' then some (done (.object members.reverse) frames)
    else none
  | .finished _ => none

/-- The characters that may stand between any two tokens. -/
def blanks : List Char := [' ', '\t', '\n', '\r']

/-- One more character. -/
def step : Reader → Char → Option Reader
  | between place frames, c =>
    if blanks.contains c then some (between place frames) else mark frames c place
  | text use q frames, c =>
    if c = '"' ∧ q.within = .plain then some (close q.text frames use)
    else (q.step c).map fun next => text use next frames

/-- Some more characters. -/
def run (r : Reader) (chars : List Char) : Option Reader :=
  chars.foldlM step r

/-- `Reads r chars m`: from the state `r`, the reader accepts `chars` and is in the
state `m` behind them. -/
def Reads (r : Reader) (chars : List Char) (m : Reader) : Prop :=
  run r chars = some m

/-- A document can be read piece by piece. -/
theorem run_append (r : Reader) (front back : List Char) :
    run r (front ++ back) = (run r front).bind fun m => run m back :=
  List.foldlM_append

/-- Two pieces that follow each other are read as one. -/
theorem Reads.trans {r m last : Reader} {front back : List Char} (hf : Reads r front m)
    (hb : Reads m back last) : Reads r (front ++ back) last := by
  rw [Reads, run_append, hf, Option.bind_some, hb]

/-- A piece can be read from its first character on. -/
theorem Reads.cons {r m last : Reader} {c : Char} {rest : List Char}
    (hc : step r c = some m) (hr : Reads m rest last) : Reads r (c :: rest) last := by
  rw [Reads, run, List.foldlM_cons, hc]
  exact hr

end Reader

/-- The value of a document, if it is one. -/
def read? (document : List Char) : Option Json :=
  match Reader.run .start document with
  | some (.between (.finished value) _) => some value
  | _ => none

example : read? "[\"\\ud83d\\ude00\\u00E9\\/\", \x7b\x7d ]".toList
    = some (.array [.string "😀é/", .object []]) := by
  rfl

namespace Reader

/-! ### The layout of a string -/

/-- The digits of the layout are read back. -/
theorem hexValue?_hexDigit : ∀ n < 16, hexValue? (hexDigit n) = some n := by
  decide

/-- Four digits give a code unit. The escapes of the layout begin with two zeros, and
no surrogate does. -/
theorem reads_unit (use : Use) (chars : List Char) (frames : List Frame) {high low : Nat}
    (hh : high < 16) (hl : low < 16) :
    Reads (text use ⟨chars, .plain⟩ frames) ['\\', 'u', '0', '0', hexDigit high, hexDigit low]
      (text use ⟨.ofNat (16 * high + low) :: chars, .plain⟩ frames) := by
  have hzeros : Reads (text use ⟨chars, .plain⟩ frames) ['\\', 'u', '0', '0']
      (text use ⟨chars, .unit none 2 0⟩ frames) := rfl
  have hhigh : step (text use ⟨chars, .unit none 2 0⟩ frames) (hexDigit high)
      = some (text use ⟨chars, .unit none 3 high⟩ frames) := by
    simp [step, Quotation.step, hexValue?_hexDigit high hh]
  -- Two digits stay below 256, far from the surrogates.
  have hunit : isHigh (16 * high + low) = false ∧ isLow (16 * high + low) = false := by
    simp only [isHigh, isLow, Bool.and_eq_false_iff, decide_eq_false_iff_not]
    omega
  have hlow : step (text use ⟨chars, .unit none 3 high⟩ frames) (hexDigit low)
      = some (text use ⟨.ofNat (16 * high + low) :: chars, .plain⟩ frames) := by
    simp [step, Quotation.step, hexValue?_hexDigit low hl, Quotation.addUnit, hunit]
  exact hzeros.trans (.cons hhigh (.cons hlow rfl))

/-- A character of a string is read from its escape, or from itself. -/
theorem reads_escapeChar (use : Use) (chars : List Char) (frames : List Frame) (c : Char) :
    Reads (text use ⟨chars, .plain⟩ frames) (escapeChar c)
      (text use ⟨c :: chars, .plain⟩ frames) := by
  fun_cases escapeChar c with
  -- The seven characters with a letter.
  | case1 => rfl
  | case2 => rfl
  | case3 => rfl
  | case4 => rfl
  | case5 => rfl
  | case6 => rfl
  | case7 => rfl
  | case8 c _ _ _ _ _ _ _ hcontrol =>
      -- A control character without a letter is written with the two digits of its number.
      have hhigh : c.toNat / 16 < 16 := by omega
      have hlow : c.toNat % 16 < 16 := by omega
      have hunit := reads_unit use chars frames hhigh hlow
      rwa [Nat.div_add_mod, Char.ofNat_toNat] at hunit
  | case9 c hquote hback _ _ _ _ _ hcontrol =>
      -- Any other character stands for itself.
      have hne : c ≠ '"' ∧ c ≠ '\\' := ⟨hquote, hback⟩
      have hstep : step (text use ⟨chars, .plain⟩ frames) c
          = some (text use ⟨c :: chars, .plain⟩ frames) := by
        simp [step, Quotation.step, hne, hcontrol]
      exact .cons hstep rfl

/-- All characters of a string, up to the quote that ends it. -/
theorem reads_escapeChars (use : Use) (chars : List Char) (frames : List Frame)
    (string : List Char) :
    Reads (text use ⟨chars, .plain⟩ frames) (string.flatMap escapeChar)
      (text use ⟨string.reverse ++ chars, .plain⟩ frames) := by
  -- What has been read grows with each character, so the induction is for any of it.
  induction string generalizing chars with
  | nil => rfl
  | cons c string ih =>
      rw [List.flatMap_cons, List.reverse_cons, List.append_assoc]
      exact (reads_escapeChar use chars frames c).trans (ih (c :: chars))

/-- A string is read wherever a quote can open it. -/
theorem reads_quoted {r : Reader} {use : Use} {frames : List Frame}
    (h : step r '"' = some (text use .start frames)) (string : String) :
    Reads r (quoted string) (close string frames use) := by
  have hchars := reads_escapeChars use [] frames string.toList
  have hclose : step (text use ⟨string.toList.reverse ++ [], .plain⟩ frames) '"'
      = some (close string frames use) := by
    simp [step, Quotation.text]
  exact Reads.trans (.cons h hchars) (.cons hclose rfl)

/-! ### The layout of a value -/

/-- Blanks are passed over between two tokens. -/
theorem reads_blanks (place : Place) (frames : List Frame) {chars : List Char}
    (h : ∀ c ∈ chars, c ∈ blanks) : Reads (between place frames) chars (between place frames) := by
  induction chars with
  | nil => rfl
  | cons c chars ih =>
      have hstep : step (between place frames) c = some (between place frames) :=
        if_pos (List.contains_iff_mem.mpr (h c List.mem_cons_self))
      exact .cons hstep (ih fun d m => h d (List.mem_cons_of_mem _ m))

/-- A line break of the layout is blank, so it is passed over. -/
theorem reads_lineBreak (place : Place) (frames : List Frame) (depth : Nat) :
    Reads (between place frames) (lineBreak depth) (between place frames) := by
  -- The line feed is blank, and so are the spaces behind it.
  refine reads_blanks place frames fun c m => ?_
  rcases List.mem_cons.mp m with rfl | m
  · decide
  · rw [List.eq_of_mem_replicate m]
    decide

/-- No value begins with a blank, or with the bracket that closes an array. -/
theorem layout_eq_cons (depth : Nat) (value : Json) :
    ∃ c rest, layout depth value = c :: rest ∧ c ∉ blanks ∧ c ≠ ']' := by
  fun_cases layout depth value with
  | case1 string => exact ⟨'"', _, rfl, by decide, by decide⟩
  | case2 => exact ⟨'[', _, rfl, by decide, by decide⟩
  | case3 => exact ⟨'[', _, rfl, by decide, by decide⟩
  | case4 => exact ⟨'\x7b', _, rfl, by decide, by decide⟩
  | case5 => exact ⟨'\x7b', _, rfl, by decide, by decide⟩

/-- The first item of an array is read as any other. -/
theorem reads_firstItem {frames : List Frame} {depth : Nat} {value : Json} {m : Reader}
    (h : Reads (between .value (.item [] :: frames)) (layout depth value) m) :
    Reads (between .firstItem frames) (layout depth value) m := by
  -- Only the first character meets the reader behind the opening bracket.
  obtain ⟨c, rest, hlayout, hblank, hclose⟩ := layout_eq_cons depth value
  have hstep : step (between .firstItem frames) c
      = step (between .value (.item [] :: frames)) c := by
    simp [step, mark, hblank, hclose]
  rw [hlayout] at h ⊢
  rw [Reads, run, List.foldlM_cons, hstep]
  exact h

mutual

/-- A value is read from its layout, wherever one may come. The induction follows
the layout, from one piece to the next. -/
theorem reads_layout (frames : List Frame) (depth : Nat) (value : Json) :
    Reads (between .value frames) (layout depth value) (done value frames) := by
  cases value with
  | string string =>
      have hopen : step (between .value frames) '"' = some (text .value .start frames) := rfl
      exact reads_quoted hopen string
  | array items =>
      cases items with
      | nil => rfl
      | cons item items =>
          -- The pieces in their order: the bracket, a line break, the first item, the
          -- others with the commas before them, a line break and the other bracket.
          have hopen : Reads (between .value frames) ['['] (between .firstItem frames) := rfl
          have hbreak := reads_lineBreak .firstItem frames (depth + 1)
          have hitem := reads_firstItem (reads_layout (.item [] :: frames) (depth + 1) item)
          have hitems := reads_layoutItems frames (depth + 1) [item] items
          have hlast := reads_lineBreak (.behindItem (items.reverse ++ [item])) frames depth
          -- The items were held latest first, and the bracket turns them round.
          have hclose : Reads (between (.behindItem (items.reverse ++ [item])) frames) [']']
              (done (.array (item :: items)) frames) := by
            simp [Reads, run, step, mark, blanks]
          exact hopen.trans hbreak |>.trans hitem |>.trans hitems |>.trans hlast |>.trans hclose
  | object members =>
      cases members with
      | nil => rfl
      | cons member members =>
          -- The same pieces, where the first member is a key, a colon and a value.
          obtain ⟨key, value⟩ := member
          have hopen : Reads (between .value frames) ['\x7b'] (between .firstKey frames) := rfl
          have hbreak := reads_lineBreak .firstKey frames (depth + 1)
          have hquote : step (between .firstKey frames) '"'
              = some (text (.key []) .start frames) := rfl
          have hkey := reads_quoted hquote key
          have hcolon : Reads (between (.colon [] key) frames) [':', ' ']
              (between .value (.member [] key :: frames)) := rfl
          have hvalue := reads_layout (.member [] key :: frames) (depth + 1) value
          have hmembers := reads_layoutMembers frames (depth + 1) [(key, value)] members
          have hlast := reads_lineBreak (.behindMember (members.reverse ++ [(key, value)])) frames
            depth
          have hclose : Reads (between (.behindMember (members.reverse ++ [(key, value)])) frames)
              ['\x7d'] (done (.object ((key, value) :: members)) frames) := by
            simp [Reads, run, step, mark, blanks]
          exact hopen.trans hbreak |>.trans hkey |>.trans hcolon |>.trans hvalue
            |>.trans hmembers |>.trans hlast |>.trans hclose

/-- Items are read behind those that have been read. -/
theorem reads_layoutItems (frames : List Frame) (depth : Nat) (before items : List Json) :
    Reads (between (.behindItem before) frames) (layoutItems depth items)
      (between (.behindItem (items.reverse ++ before)) frames) := by
  cases items with
  | nil => rfl
  | cons item items =>
      have hcomma : Reads (between (.behindItem before) frames) [',']
          (between .value (.item before :: frames)) := rfl
      have hbreak := reads_lineBreak .value (.item before :: frames) depth
      have hitem := reads_layout (.item before :: frames) depth item
      have hitems := reads_layoutItems frames depth (item :: before) items
      rw [List.reverse_cons, List.append_assoc]
      exact hcomma.trans hbreak |>.trans hitem |>.trans hitems

/-- Members are read behind those that have been read. -/
theorem reads_layoutMembers (frames : List Frame) (depth : Nat)
    (before members : List (String × Json)) :
    Reads (between (.behindMember before) frames) (layoutMembers depth members)
      (between (.behindMember (members.reverse ++ before)) frames) := by
  cases members with
  | nil => rfl
  | cons member members =>
      obtain ⟨key, value⟩ := member
      have hcomma : Reads (between (.behindMember before) frames) [',']
          (between (.key before) frames) := rfl
      have hbreak := reads_lineBreak (.key before) frames depth
      have hquote : step (between (.key before) frames) '"'
          = some (text (.key before) .start frames) := rfl
      have hkey := reads_quoted hquote key
      have hcolon : Reads (between (.colon before key) frames) [':', ' ']
          (between .value (.member before key :: frames)) := rfl
      have hvalue := reads_layout (.member before key :: frames) depth value
      have hmembers := reads_layoutMembers frames depth ((key, value) :: before) members
      rw [List.reverse_cons, List.append_assoc]
      exact hcomma.trans hbreak |>.trans hkey |>.trans hcolon |>.trans hvalue |>.trans hmembers

end

end Reader

/-- A value is read from its layout, with or without blanks behind it. -/
theorem read?_layout (value : Json) (blank : List Char) (h : ∀ c ∈ blank, c ∈ Reader.blanks) :
    read? (layout 0 value ++ blank) = some value := by
  have hread : Reader.Reads .start (layout 0 value ++ blank) (.between (.finished value) []) :=
    (Reader.reads_layout [] 0 value).trans (Reader.reads_blanks _ _ h)
  rw [read?, hread]

/-! ### Control characters -/

/-- A control character is neither a mark nor a letter nor a digit. -/
theorem Quotation.step_control (q : Quotation) {c : Char} (hc : c.toNat < 0x20) :
    q.step c = none := by
  have hne : ∀ d : Char, 0x20 ≤ d.toNat → c ≠ d := by
    intro d hd e
    rw [e] at hc
    omega
  have hle : ∀ d : Char, 0x20 ≤ d.toNat → ¬ d ≤ c := by
    intro d hd h
    have hval : d.toNat ≤ c.toNat := h
    omega
  -- The digits and letters all begin beyond the controls, so `c` is none of them.
  have hhex : hexValue? c = none := by
    simp [hexValue?, hle '0' (by decide), hle 'a' (by decide), hle 'A' (by decide)]
  have hnamed : named? c = none := by
    unfold named?
    -- Each letter of the table is beyond the controls.
    split <;> first | exact absurd rfl (hne _ (by decide)) | rfl
  have hback := hne '\\' (by decide)
  have hu := hne 'u' (by decide)
  unfold step
  -- Whatever is being read, it asks for one of these, or refuses controls itself.
  cases q.within with
  | plain => simp [hback, hc]
  | escape => simp [hu, hnamed]
  | unit high count value => simp [hhex]
  | high unit => simp [hback]
  | highEscape unit => simp [hu]

/-- Wherever a control character stands in a document, the reader is between two
tokens. -/
theorem exists_between_of_control {front back : List Char} {c : Char} {value : Json}
    (h : read? (front ++ c :: back) = some value) (hc : c.toNat < 0x20) :
    ∃ place frames, Reader.Reads .start front (.between place frames) := by
  unfold read? at h
  cases hrun : Reader.run .start (front ++ c :: back) with
  | none => rw [hrun] at h; cases h
  | some last =>
      rw [Reader.run_append] at hrun
      obtain ⟨m, hfront, hback⟩ := Option.bind_eq_some_iff.mp hrun
      cases m with
      | between place frames => exact ⟨place, frames, hfront⟩
      | text use q frames =>
          -- Within a string the reader would have stopped at `c`.
          have hquote : c ≠ '"' := by
            rintro rfl
            exact absurd hc (by decide)
          have hstep : Reader.step (.text use q frames) c = none := by
            simp [Reader.step, hquote, q.step_control hc]
          rw [Reader.run, List.foldlM_cons, hstep] at hback
          cases hback

/-- Line feeds are the only control characters among `chars`. -/
def OnlyLineFeeds (chars : List Char) : Prop :=
  ∀ c ∈ chars, c.toNat < 0x20 → c = '\n'

/-- There are no characters in the empty text. -/
@[simp] theorem onlyLineFeeds_nil : OnlyLineFeeds [] := by
  simp [OnlyLineFeeds]

/-- The first character of a text can be looked at on its own. -/
@[simp] theorem onlyLineFeeds_cons {c : Char} {chars : List Char} :
    OnlyLineFeeds (c :: chars) ↔ (c.toNat < 0x20 → c = '\n') ∧ OnlyLineFeeds chars := by
  simp [OnlyLineFeeds]

/-- Two texts can be looked at one by one. -/
@[simp] theorem onlyLineFeeds_append {front back : List Char} :
    OnlyLineFeeds (front ++ back) ↔ OnlyLineFeeds front ∧ OnlyLineFeeds back := by
  simp [OnlyLineFeeds, or_imp, forall_and]

/-- Digits are no control characters. -/
theorem not_control_hexDigit : ∀ n < 16, ¬ (hexDigit n).toNat < 0x20 := by
  decide

/-- Every control character of a string is escaped. -/
theorem onlyLineFeeds_escapeChar (c : Char) : OnlyLineFeeds (escapeChar c) := by
  fun_cases escapeChar c with
  | case8 c _ _ _ _ _ _ _ hcontrol =>
      -- A control character is written with digits.
      have hhigh := not_control_hexDigit (c.toNat / 16) (by omega)
      have hlow := not_control_hexDigit (c.toNat % 16) (by omega)
      simp [hhigh, hlow]
  | case9 c _ _ _ _ _ _ _ hcontrol => simp [hcontrol]
  | _ => simp

/-- So a string of the layout has no control characters, not even line feeds. -/
@[simp] theorem onlyLineFeeds_quoted (string : String) : OnlyLineFeeds (quoted string) := by
  have hchars : OnlyLineFeeds (string.toList.flatMap escapeChar) := by
    intro c m
    obtain ⟨d, -, m⟩ := List.mem_flatMap.mp m
    exact onlyLineFeeds_escapeChar d c m
  simp [quoted, hchars]

/-- A line break of the layout is one line feed and spaces. -/
@[simp] theorem onlyLineFeeds_lineBreak (depth : Nat) : OnlyLineFeeds (lineBreak depth) := by
  have hblank : OnlyLineFeeds (List.replicate (2 * depth) ' ') := by
    intro c m
    rw [List.eq_of_mem_replicate m]
    decide
  simp [lineBreak, hblank]

mutual

/-- The layout of a value has no other control characters than its line ends. -/
theorem onlyLineFeeds_layout (depth : Nat) (value : Json) :
    OnlyLineFeeds (layout depth value) := by
  cases value with
  | string string => exact onlyLineFeeds_quoted string
  | array items =>
      cases items with
      | nil => simp [layout]
      | cons item items =>
          have hitem := onlyLineFeeds_layout (depth + 1) item
          have hitems := onlyLineFeeds_layoutItems (depth + 1) items
          simp [layout, hitem, hitems]
  | object members =>
      cases members with
      | nil => simp [layout]
      | cons member members =>
          have hvalue := onlyLineFeeds_layout (depth + 1) member.2
          have hmembers := onlyLineFeeds_layoutMembers (depth + 1) members
          simp [layout, hvalue, hmembers]

/-- Nor have the items of an array, with what stands between them. -/
theorem onlyLineFeeds_layoutItems (depth : Nat) (items : List Json) :
    OnlyLineFeeds (layoutItems depth items) := by
  cases items with
  | nil => simp [layoutItems]
  | cons item items =>
      have hitem := onlyLineFeeds_layout depth item
      have hitems := onlyLineFeeds_layoutItems depth items
      simp [layoutItems, hitem, hitems]

/-- Nor have the members of an object. -/
theorem onlyLineFeeds_layoutMembers (depth : Nat) (members : List (String × Json)) :
    OnlyLineFeeds (layoutMembers depth members) := by
  cases members with
  | nil => simp [layoutMembers]
  | cons member members =>
      have hvalue := onlyLineFeeds_layout depth member.2
      have hmembers := onlyLineFeeds_layoutMembers depth members
      simp [layoutMembers, hvalue, hmembers]

end

end Phrasebook.Json
