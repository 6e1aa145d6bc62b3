import Phrasebook.Log.Directive

/-!
# `Phrasebook.Log.Filter`: which events a log shows

A filter is a list of directives. Of those that apply to an event one decides up
to which level it is shown: the one that no other gives way to, and of several
that ask for the same the last one.

A filter is written as its directives, separated by commas.
-/

set_option autoImplicit false

namespace Phrasebook

/-- A choice of events. -/
structure Filter where
  directives : List Directive
deriving DecidableEq, Repr

namespace Filter

/-- The filter that shows the events up to `level`, whatever their scope. -/
def upTo (level : Level) : Filter := ⟨[.forTarget "" level.rank]⟩

/-- The directive that decides, given the one that has decided so far. -/
def better (best : Option Directive) (directive : Directive) :
    Option Directive :=
  match best with
  | none => some directive
  | some best => some (if best.yields directive then directive else best)

/-- The directive that decides on an event. -/
def decisive? (filter : Filter) (event : Event) : Option Directive :=
  (filter.directives.filter (·.applies event)).foldl better none

/-- Whether the filter shows an event. Where no directive applies, nothing is
shown. -/
def admits (filter : Filter) (event : Event) : Bool :=
  match filter.decisive? event with
  | some directive => event.level.rank ≤ directive.limit
  | none => false

/-- A written filter, or `none` if one of its directives cannot be read. Without
any directive it shows errors. -/
def parse? (written : String) : Option Filter := do
  let pieces := (written.toList.splitOn ',').filter (!·.isEmpty)
  match ← pieces.mapM Directive.parse? with
  | [] => return upTo .error
  | directives => return ⟨directives⟩

/-- The filter of a run. One that asks for details shows them whatever else is
written. Otherwise the written filter counts, and without a readable one
warnings are shown. -/
def choose (verbose : Bool) (written : Option String) : Filter :=
  if verbose then upTo .debug
  else (written.bind parse?).getD (upTo .warn)

example : parse? "" = some (upTo .error) := by rfl
example : parse? "info, " = none := by rfl
example : (parse? "warn,transtab::syntax=debug,transtab=off").map
    (fun filter => [Event.catalogParsed 1, .tableEmpty].map filter.admits)
    = some [true, false] := by
  rfl
example : (parse? "[{line}]=warn,[{id}]=off").map
    (·.admits (.duplicate (.duplicateRecord 1 "a"))) = some true := by
  rfl

end Filter

end Phrasebook
