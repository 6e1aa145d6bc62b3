import Phrasebook.FileTree.Path

/-!
# `Phrasebook.FileTree.Basic`: directories and files

A file tree gives a node, directory or file, to some locations. A location is
the list of names that leads to it from the root. Paths are followed name by name
from the working directory, or from the root if they are absolute, and every
name but the last has to lead to a directory.

Reading and writing fail with a `FileFault`, which says what is in the way.

The tree holds directories and regular files, and nothing stands between a program
and a file: every file of the tree can be read and written, and every directory can
be entered and written to. Links, devices and permissions are left out, and so are a
full disk and other programs at work on the same files. What the system answers in
these cases reaches the program as `FileFault.other`.
-/

set_option autoImplicit false

namespace Phrasebook

/-- Why a file could not be read or written. -/
inductive FileFault where
  | notFound
  | notDirectory
  | isDirectory
  /-- The content is no UTF-8 text. -/
  | notText
  /-- Anything else, in the words of the system. No state of a `FileTree` gives this
  fault. It stands for what a tree leaves out, and only a system answers with it. -/
  | other (description : String)
deriving DecidableEq, Repr

/-- What a user is told of the fault. -/
def FileFault.message : FileFault → String
  | .notFound => "No such file or directory (os error 2)"
  | .notDirectory => "Not a directory (os error 20)"
  | .isDirectory => "Is a directory (os error 21)"
  | .notText => "stream did not contain valid UTF-8"
  | .other description => description

/-- The names that lead to a node from the root. -/
abbrev Location := List String

/-- Contents are equal if their bytes are. -/
instance (priority := high) decidableEqContent : DecidableEq ByteArray := ByteArray.instDecidableEq

/-- What can stand at a location. -/
inductive Node where
  | directory
  | file (content : ByteArray)
deriving DecidableEq

/-- Nodes at locations, and the location where relative paths begin. Of several
nodes at one location the first counts.

A tree has no permissions, so every file in it can be read and written, and it has no
links, so a location is the only name of its node. -/
structure FileTree where
  nodes : List (Location × Node)
  workingDirectory : Location

namespace FileTree

/-- The node at a location. The root is always a directory. -/
def node? (tree : FileTree) (location : Location) : Option Node :=
  if location.isEmpty then some .directory else tree.nodes.lookup location

/-- The tree with one node put in place of what was there. -/
def put (tree : FileTree) (location : Location) (node : Node) : FileTree :=
  { tree with nodes := (location, node) :: tree.nodes.filter (·.1 != location) }

/-- The content of the file at a location. -/
def content? (tree : FileTree) (location : Location) : Option ByteArray :=
  match tree.node? location with
  | some (.file content) => some content
  | _ => none

/-- Where some names lead from a location. Every location that a name is looked
up in has to be a directory, and the last name need not exist. -/
def follow (tree : FileTree) : Location → List String → Except FileFault Location
  | location, [] => .ok location
  | location, name :: names =>
    match tree.node? location with
    | none => .error .notFound
    | some (.file _) => .error .notDirectory
    | some .directory =>
      if name = "." then tree.follow location names
      else if name = ".." then tree.follow location.dropLast names
      else tree.follow (location ++ [name]) names

/-- Where a path begins. -/
def origin (tree : FileTree) (path : Path) : Location :=
  if path.absolute then [] else tree.workingDirectory

/-- The location of the file that a path names for reading. -/
def locate (tree : FileTree) (written : String) : Except FileFault Location :=
  let path := Path.parse written
  let names := if path.slashAtEnd then path.names ++ ["."] else path.names
  tree.follow (tree.origin path) names

/-- The content of the file that a path names. -/
def read (tree : FileTree) (written : String) : Except FileFault ByteArray := do
  match tree.node? (← tree.locate written) with
  | none => .error .notFound
  | some .directory => .error .isDirectory
  | some (.file content) => .ok content

/-- The location where a path lets a file be written. The file need not exist,
but its directory has to. A path whose last name is no name of a file, or that
ends with a slash, names a directory. -/
def locateNew (tree : FileTree) (written : String) :
    Except FileFault Location := do
  let path := Path.parse written
  match path.names.getLast? with
  | none => .error .isDirectory
  | some name =>
    let parent ← tree.follow (tree.origin path) path.names.dropLast
    match tree.node? parent with
    | none => .error .notFound
    | some (.file _) => .error .notDirectory
    | some .directory =>
      if name = "." || name = ".." || path.slashAtEnd then
        .error .isDirectory
      else
        match tree.node? (parent ++ [name]) with
        | some .directory => .error .isDirectory
        | _ => .ok (parent ++ [name])

/-- The tree after `content` has been written to the file that a path names. -/
def write (tree : FileTree) (written : String) (content : ByteArray) :
    Except FileFault FileTree := do
  return tree.put (← tree.locateNew written) (.file content)

/-! ### Building and comparing trees -/

/-- The locations that some names pass through from the root, their own
included. -/
def waypoints (location : Location) : List Location :=
  (List.range (location.length + 1)).map location.take

/-- The tree that has nothing but an empty working directory. -/
def empty (workingDirectory : Location) : FileTree where
  nodes := (waypoints workingDirectory).map fun location => (location, .directory)
  workingDirectory := workingDirectory

/-- The tree with a node at some names below the working directory, and with the
directories that lead to it. -/
def add (tree : FileTree) (names : List String) (node : Node) : FileTree :=
  let makeDirectory (tree : FileTree) (location : Location) : FileTree :=
    tree.put (tree.workingDirectory ++ location) .directory
  let tree := (waypoints names.dropLast).foldl makeDirectory tree
  tree.put (tree.workingDirectory ++ names) node

/-- The names of a location below the working directory, joined by slashes. -/
def relative? (tree : FileTree) (location : Location) : Option String :=
  if tree.workingDirectory.isPrefixOf location then
    some ("/".intercalate (location.drop tree.workingDirectory.length))
  else
    none

/-- The files below the working directory that `after` has with another content
than `before`, or that are new in it. -/
def changes (before after : FileTree) : List (String × ByteArray) :=
  after.nodes.filterMap fun (location, node) =>
    match node with
    | .directory => none
    | .file content =>
      if before.content? location = some content then none
      else (after.relative? location).map (·, content)

end FileTree

end Phrasebook
