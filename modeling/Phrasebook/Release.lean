/-!
# `Phrasebook.Release`: the program's name and version

Both stand in the first line of a generated file and in the answer to
`--version`.
-/

set_option autoImplicit false

namespace Phrasebook.Release

/-- The name of the program. -/
def name : String := "transtab"

/-- The version of the program. -/
def version : String := "0.1.0"

/-- The name of the program with its version. -/
def title : String := name ++ " " ++ version

end Phrasebook.Release
