import Phrasebook.Log.Pattern

/-!
# `Phrasebook.Log.Condition`: conditions on the fields of an event

A condition names a field, and it may say which value the field has. It is
written `name` or `name=value`. A value is a number, or a pattern for texts. All
that follows a second equals sign is passed over.
-/

set_option autoImplicit false

namespace Phrasebook

/-- What is asked of a field. -/
structure FieldCondition where
  name : String
  value : Option String
deriving DecidableEq, Repr

namespace FieldCondition

/-- Whether some digits are the exponent of a number, with its sign. -/
def isExponent (written : List Char) : Bool :=
  let digits :=
    match written with
    | '+' :: digits => digits
    | '-' :: digits => digits
    | digits => digits
  !digits.isEmpty && digits.all Char.isDigit

/-- Whether `written`, in small letters, is a number without a sign. -/
def isNumber (written : List Char) : Bool :=
  if ["inf", "infinity", "nan"].contains (String.ofList written) then true
  else
    let whole := written.takeWhile Char.isDigit
    let (fraction, rest) :=
      match written.dropWhile Char.isDigit with
      | '.' :: rest => (rest.takeWhile Char.isDigit, rest.dropWhile Char.isDigit)
      | rest => ([], rest)
    if whole.isEmpty && fraction.isEmpty then false
    else
      match rest with
      | [] => true
      | 'e' :: exponent => isExponent exponent
      | _ => false

/-- Whether a value can be read. A number is a pattern too, unless there is a
plus sign in front of it. -/
def isValue (written : List Char) : Bool :=
  match written with
  | '+' :: number => isNumber (number.map Char.toLower)
  | pattern => Pattern.isWellFormed pattern

/-- A written condition. -/
def parse? (written : List Char) : Option FieldCondition :=
  let name := String.ofList (written.takeWhile (· != '='))
  match written.dropWhile (· != '=') with
  | [] => some ⟨name, none⟩
  | _ :: rest =>
    let value := rest.takeWhile (· != '=')
    if isValue value then some ⟨name, some (.ofList value)⟩ else none

example : ["+5", "+1.", "+.5e-3", "+NaN", "-5", "1e+5", "true", "f.*"].all
    (isValue ·.toList) := by
  decide
example : ["+", "+x", "+.", "+1e", "+1.5.2"].any (isValue ·.toList) = false := by
  decide

end FieldCondition

end Phrasebook
