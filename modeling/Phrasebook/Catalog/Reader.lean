import Phrasebook.Catalog.Basic
import Phrasebook.Catalog.Fault
import Phrasebook.Catalog.Line
import Phrasebook.Text.Lines

/-!
# `Phrasebook.Catalog.Reader`: reading a catalog

A file is read line by line. `Progress` is what is known after some of its
lines: how many there were, the record that is open, and the closed records.
`Progress.step` takes one more line, and `Progress.finish` asks for the end of
the file. A file is read by folding `step` over its lines.

A line is judged by itself and by what came before, so a fault is found at the
first line that no continuation can mend. The one fault that the end of the file
brings, a record without terminator, is reported at the header of that record.
-/

set_option autoImplicit false

namespace Phrasebook

/-- A catalog with the warnings that its file gave rise to. -/
structure Reading where
  catalog : Catalog
  warnings : List Warning
deriving DecidableEq, Repr

/-- A record that is still open. Its wordings are held latest first. -/
structure OpenRecord where
  line : Nat
  id : Text
  wordings : List Wording
deriving DecidableEq, Repr

/-- The record, closed. -/
def OpenRecord.close (record : OpenRecord) : Record :=
  ⟨record.id, record.wordings.reverse⟩

/-- What is known after some lines of a file. The closed records and the
warnings are held latest first. -/
structure Progress where
  line : Nat
  opened : Option OpenRecord
  closed : List Record
  warnings : List Warning
deriving DecidableEq, Repr

namespace Progress

/-- Before the first line. -/
def start : Progress := ⟨0, none, [], []⟩

/-- The refusal of the file at the line that was taken last. -/
def reject (p : Progress) (fault : Fault) : Except Rejection Progress :=
  .error ⟨p.line, fault, p.warnings.reverse⟩

/-- The progress with one more warning, if there is cause for it. -/
def warnIf (p : Progress) (cause : Bool) (warning : Warning) : Progress :=
  if cause then { p with warnings := warning :: p.warnings } else p

/-- A header with `id` after its `ID:`, while no record is open. -/
def header (p : Progress) (id : List Char) : Except Rejection Progress :=
  if id.isEmpty then
    p.reject .emptyId
  else
    match Text.parse (.ofList id) with
    | .error bad => p.reject (.badEscape bad)
    | .ok id =>
      let known := p.closed.any fun record => record.id.value == id.value
      .ok { p.warnIf known (.duplicateRecord p.line id.source) with
        opened := some ⟨p.line, id, []⟩ }

/-- A wording in an open record. The delimiter is checked before the language
code, and the code before the text. -/
def wording (p : Progress) (record : OpenRecord) (first second delimiter : Char)
    (text : List Char) : Except Rejection Progress :=
  let lang := String.ofList [first, second]
  if delimiter ≠ ':' then
    p.reject (.missingDelimiter delimiter)
  else if !(first.isAlphanum && second.isAlphanum) then
    p.reject (.badLanguage lang)
  else
    match Text.parse (.ofList text) with
    | .error bad => p.reject (.badEscape bad)
    | .ok text =>
      let known := record.wordings.any fun wording => wording.lang == lang
      .ok { p.warnIf known (.duplicateWording p.line record.id.source lang) with
        opened := some { record with wordings := ⟨lang, text⟩ :: record.wordings } }

/-- A line while no record is open. An empty line may stand there. -/
def outside (p : Progress) (line : List Char) : Except Rejection Progress :=
  if line.isEmpty then
    .ok p
  else
    match Line.classify? line with
    | some (.header id) => p.header id
    | some .terminator => p.reject .strayTerminator
    | some (.wording ..) | none => p.reject .orphanWording

/-- A line while a record is open. -/
def inside (p : Progress) (record : OpenRecord) (line : List Char) :
    Except Rejection Progress :=
  match Line.classify? line with
  | some (.header _) => p.reject (.unclosedRecord record.id.source)
  | some .terminator =>
    .ok { p with opened := none, closed := record.close :: p.closed }
  | some (.wording first second delimiter text) =>
    p.wording record first second delimiter text
  | none => p.reject .shortWording

/-- One more line. -/
def step (p : Progress) (line : List Char) : Except Rejection Progress :=
  let p := { p with line := p.line + 1 }
  match p.opened with
  | none => p.outside line
  | some record => p.inside record line

/-- Some more lines. -/
def steps (p : Progress) (lines : List (List Char)) : Except Rejection Progress :=
  lines.foldlM step p

/-- The end of the file. -/
def finish (p : Progress) : Except Rejection Reading :=
  match p.opened with
  | none => .ok ⟨⟨p.closed.reverse⟩, p.warnings.reverse⟩
  | some record =>
    .error ⟨record.line, .missingTerminator record.id.source, p.warnings.reverse⟩

/-- Lines can be taken in two portions. -/
theorem steps_append (p : Progress) (front back : List (List Char)) :
    p.steps (front ++ back) = p.steps front >>= fun q => q.steps back := by
  simp [steps, List.foldlM_append]

end Progress

namespace Catalog

/-- The catalog that is written in a file with these lines. -/
def ofLines (lines : List (List Char)) : Except Rejection Reading := do
  (← Progress.start.steps lines).finish

/-- The catalog that is written in a file. -/
def parse (source : String) : Except Rejection Reading :=
  ofLines (Lines.split (Lines.dropMark source.toList))

end Catalog

end Phrasebook
