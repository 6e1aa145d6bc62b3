import Phrasebook.Run.Failure

/-!
# `Phrasebook.Proofs.Run.Report`: the report of a failure, written out

`Failure.report` is put together from a headline and a chain of causes, whatever their
number is. `Failure.lines` says for each failure what a user reads in the end, from the
first word to the last line end. `report_eq_lines` shows that this is the report.

A message may go over several lines, since a path may hold a line end. In a report its
further lines are moved in (`movedIn`), so that they stand below the first.
-/

set_option autoImplicit false

namespace Phrasebook

/-- A text in which every line but the first is moved in by `margin` blanks. -/
def movedIn (margin : Nat) (text : String) : String :=
  .ofList (text.toList.flatMap fun c =>
    if c = '\n' then c :: List.replicate margin ' ' else [c])

namespace Failure

/-! ### What is reported -/

/-- A report that names no cause. -/
def toldAlone (what : String) : String :=
  "Error: " ++ what ++ "\n"

/-- A report with one cause. -/
def toldWithCause (what cause : String) : String :=
  "Error: " ++ what ++ "\n\nCaused by:\n    " ++ movedIn 4 cause ++ "\n"

/-- A report with two causes. -/
def toldWithCauses (what first second : String) : String :=
  "Error: " ++ what ++ "\n\nCaused by:\n    0: " ++ movedIn 7 first ++ "\n    1: "
    ++ movedIn 7 second ++ "\n"

/-- What a user is told of a failure. -/
def lines : Failure → String
  | unreadable path fault =>
    toldWithCauses ("cannot load translations from `" ++ path ++ "`")
      ("failed to read `" ++ path ++ "`") fault.message
  | malformed path rejection =>
    toldWithCause ("cannot load translations from `" ++ path ++ "`")
      ("line " ++ toString rejection.line ++ ": " ++ rejection.fault.message)
  | invalidIdentifier invalid =>
    toldAlone ("`" ++ invalid.name ++ "` is not a valid C identifier")
  | uncreatable path fault => toldWithCause ("cannot create `" ++ path ++ "`") fault.message

/-! ### The causes -/

/-- A single cause stands behind four blanks. -/
theorem reportCauses_one (cause : String) :
    reportCauses [cause] = "\n\nCaused by:\n    " ++ movedIn 4 cause := by
  have hcause : labelled "    " cause = "\n" ++ "    " ++ movedIn 4 cause := rfl
  have hstart : "\n\nCaused by:\n    " = "\n\nCaused by:" ++ "\n" ++ "    " := by simp
  rw [reportCauses, hcause, hstart]
  simp only [String.append_assoc]

/-- Two causes stand behind their numbers. -/
theorem reportCauses_two (first second : String) :
    reportCauses [first, second]
      = "\n\nCaused by:\n    0: " ++ movedIn 7 first ++ "\n    1: " ++ movedIn 7 second := by
  have hzero : "    " ++ toString 0 ++ ": " = "    0: " := rfl
  have hone : "    " ++ toString (0 + 1) ++ ": " = "    1: " := rfl
  have hfirst : labelled "    0: " first = "\n" ++ "    0: " ++ movedIn 7 first := rfl
  have hsecond : labelled "    1: " second = "\n" ++ "    1: " ++ movedIn 7 second := rfl
  have hstart : "\n\nCaused by:\n    0: " = "\n\nCaused by:" ++ "\n" ++ "    0: " := by simp
  have hnext : "\n    1: " = "\n" ++ "    1: " := by simp
  -- The equation for several causes is open only to a list that is not a single cause.
  rw [reportCauses.eq_3 _ (by simp) (by simp), List.mapIdx_cons, List.mapIdx_cons,
    List.mapIdx_nil, hzero, hone, hfirst, hsecond, String.join_cons, String.join_cons,
    String.join_nil, hstart, hnext]
  simp only [String.append_assoc, String.append_empty]

/-! ### The whole report -/

/-- The report of a failure is what a user is to be told. -/
theorem report_eq_lines (failure : Failure) : failure.report = failure.lines := by
  cases failure with
  | unreadable path fault =>
      show "Error: " ++ loading path
          ++ reportCauses ["failed to read `" ++ path ++ "`", fault.message] ++ "\n"
        = toldWithCauses (loading path) ("failed to read `" ++ path ++ "`") fault.message
      rw [reportCauses_two, toldWithCauses]
      simp only [String.append_assoc]
  | malformed path rejection =>
      show "Error: " ++ loading path ++ reportCauses [rejection.message] ++ "\n"
        = toldWithCause (loading path) rejection.message
      rw [reportCauses_one, toldWithCause]
      simp only [String.append_assoc]
  | invalidIdentifier invalid =>
      show "Error: " ++ invalid.message ++ "" ++ "\n" = toldAlone invalid.message
      rw [String.append_empty, toldAlone]
  | uncreatable path fault =>
      show "Error: " ++ ("cannot create `" ++ path ++ "`") ++ reportCauses [fault.message] ++ "\n"
        = toldWithCause ("cannot create `" ++ path ++ "`") fault.message
      rw [reportCauses_one, toldWithCause]
      simp only [String.append_assoc]

end Failure

end Phrasebook
