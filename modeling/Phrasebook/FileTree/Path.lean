/-!
# `Phrasebook.FileTree.Path`: written paths

A path is a list of names with slashes between them. Several slashes count as
one. A slash in front makes the path absolute, and a slash at the end demands a
directory.
-/

set_option autoImplicit false

namespace Phrasebook

/-- A path, cut into its names. -/
structure Path where
  absolute : Bool
  names : List String
  slashAtEnd : Bool
deriving DecidableEq, Repr

namespace Path

/-- The path that is written so. -/
def parse (written : String) : Path where
  absolute := written.toList.head? == some '/'
  names := ((written.toList.splitOn '/').filter (!·.isEmpty)).map String.ofList
  slashAtEnd := written.toList.getLast? == some '/'

example : parse "./a//b" = ⟨false, [".", "a", "b"], false⟩ := by rfl
example : parse "/a/" = ⟨true, ["a"], true⟩ := by rfl

end Path

end Phrasebook
