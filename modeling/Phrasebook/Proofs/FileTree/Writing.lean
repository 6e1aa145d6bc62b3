import Mathlib.Data.List.Basic
import Phrasebook.FileTree.Basic

/-!
# `Phrasebook.Proofs.FileTree.Writing`: what writing a file changes

Writing a file puts one node at one location. The location is that of a file, or
nothing is there yet, so no directory is replaced and every path that led
somewhere leads to the same place afterwards (`locate_put`). The theorems:

* `node?_put_of_ne`: every other location keeps its node.
* `read_put_self`: the path that was written is read back.
* `read_put_of_ne`: a path that names another file is read as before, however
  either of the two is spelled.
* `locateNew_put`, `put_put`: writing the same once more leads to the same tree.
* `read_ne_other`, `write_ne_other`: a file that is there can be read, and where a file
  can be, one can be written. No fault of a tree is `FileFault.other`.
-/

set_option autoImplicit false

namespace Phrasebook.FileTree

variable {tree : FileTree} {location : Location}

/-! ### Nodes -/

/-- The node that is put at a location is found there. -/
theorem node?_put_self (h : location ≠ []) (node : Node) :
    (tree.put location node).node? location = some node := by
  have hempty : location.isEmpty = false := by simpa using h
  simp [node?, put, hempty]

/-- Dropping the nodes of one location leaves those of the others. -/
theorem lookup_filter_of_ne {other : Location} (h : other ≠ location)
    (nodes : List (Location × Node)) :
    (nodes.filter (·.1 != location)).lookup other = nodes.lookup other := by
  -- The nodes that are dropped would not have been found.
  induction nodes with
  | nil => rfl
  | cons entry nodes ih =>
      obtain ⟨key, node⟩ := entry
      by_cases hkey : key = location
      · have hskip : (other == key) = false := by rw [hkey]; exact beq_eq_false_iff_ne.mpr h
        rw [List.filter_cons_of_neg (by simp [hkey]), List.lookup_cons, hskip]
        exact ih
      · rw [List.filter_cons_of_pos (by simp [hkey]), List.lookup_cons, List.lookup_cons, ih]

/-- A location keeps its node if another one gets a new node. -/
theorem node?_put_of_ne {other : Location} (h : other ≠ location) (node : Node) :
    (tree.put location node).node? other = tree.node? other := by
  have hpass : (other == location) = false := beq_eq_false_iff_ne.mpr h
  unfold node?
  split
  · rfl
  · show ((location, node) :: tree.nodes.filter (·.1 != location)).lookup other = _
    rw [List.lookup_cons, hpass]
    exact lookup_filter_of_ne h tree.nodes

/-- Of two nodes put at one location the second stays. -/
theorem put_put (first second : Node) :
    (tree.put location first).put location second = tree.put location second := by
  simp [put]

/-! ### Paths -/

/-- Where a name leads from a directory. -/
def enter (start : Location) (name : String) : Location :=
  if name = "." then start else if name = ".." then start.dropLast else start ++ [name]

/-- A name leads on from directories only. -/
theorem follow_cons_ok_iff {start finish : Location} {name : String} {names : List String} :
    tree.follow start (name :: names) = .ok finish
      ↔ tree.node? start = some .directory ∧ tree.follow (enter start name) names = .ok finish := by
  have henter : tree.follow (enter start name) names
      = if name = "." then tree.follow start names
        else if name = ".." then tree.follow start.dropLast names
        else tree.follow (start ++ [name]) names := by
    unfold enter
    split
    · rfl
    · split <;> rfl
  rw [follow, henter]
  cases tree.node? start with
  | none => simp
  | some node =>
      cases node with
      | file content => simp
      | directory => simp

/-- The directories on a way are not replaced, so the way stays. -/
theorem follow_put (h : tree.node? location ≠ some .directory) (node : Node)
    {start finish : Location} {names : List String}
    (hfollow : tree.follow start names = .ok finish) :
    (tree.put location node).follow start names = .ok finish := by
  induction names generalizing start with
  | nil => exact hfollow
  | cons name names ih =>
      obtain ⟨hdirectory, hrest⟩ := follow_cons_ok_iff.mp hfollow
      -- A name is looked up in a directory, so not at the location.
      have hstart : start ≠ location := fun e => h (e ▸ hdirectory)
      refine follow_cons_ok_iff.mpr ⟨?_, ih hrest⟩
      rw [node?_put_of_ne hstart, hdirectory]

/-- Names can be followed in two portions. -/
theorem follow_append {start middle finish : Location} {front back : List String}
    (hfront : tree.follow start front = .ok middle) (hback : tree.follow middle back = .ok finish) :
    tree.follow start (front ++ back) = .ok finish := by
  -- By induction on the first portion, from the directory that each name leads to.
  induction front generalizing start with
  | nil =>
      cases hfront
      exact hback
  | cons name front ih =>
      obtain ⟨hdirectory, hrest⟩ := follow_cons_ok_iff.mp hfront
      exact follow_cons_ok_iff.mpr ⟨hdirectory, ih hrest⟩

/-- A path that leads somewhere leads there after a file has been written. -/
theorem locate_put (h : tree.node? location ≠ some .directory) (node : Node) {written : String}
    {found : Location} (hlocate : tree.locate written = .ok found) :
    (tree.put location node).locate written = .ok found :=
  follow_put h node hlocate

/-- What makes a path one that a file can be written to. -/
structure Writable (tree : FileTree) (written : String) (parent : Location) (name : String) :
    Prop where
  last : (Path.parse written).names.getLast? = some name
  noSlash : (Path.parse written).slashAtEnd = false
  ne_dot : name ≠ "."
  ne_dots : name ≠ ".."
  follows : tree.follow (tree.origin (Path.parse written)) (Path.parse written).names.dropLast
    = .ok parent
  directory : tree.node? parent = some .directory
  free : tree.node? (parent ++ [name]) ≠ some .directory

/-- A file is written below the directory that its path names. -/
theorem locateNew_ok_iff {written : String} :
    tree.locateNew written = .ok location
      ↔ ∃ parent name, tree.Writable written parent name ∧ location = parent ++ [name] := by
  constructor
  · -- Every question on the way has one answer that is no fault, and that answer is
    -- a field of `Writable`.
    intro h
    unfold locateNew at h
    simp only at h
    split at h
    · cases h
    · rename_i name hlast
      cases hparent : tree.follow (tree.origin (Path.parse written))
          (Path.parse written).names.dropLast with
      | error fault => rw [hparent] at h; cases h
      | ok parent =>
          rw [hparent] at h
          simp only [bind, Except.bind] at h
          split at h
          · cases h
          · cases h
          · rename_i hdirectory
            split at h
            · cases h
            · rename_i hname
              simp only [Bool.or_eq_true, decide_eq_true_eq, not_or] at hname
              split at h
              · cases h
              · rename_i hfree
                cases h
                exact ⟨parent, name, ⟨hlast, by simpa using hname.2, hname.1.1, hname.1.2,
                  hparent, hdirectory, hfree⟩, rfl⟩
  · rintro ⟨parent, name, h, rfl⟩
    unfold locateNew
    simp only [h.last, h.follows, bind, Except.bind, h.directory, h.noSlash]
    have hname : (decide (name = ".") || decide (name = "..") || false) = false := by
      simp [h.ne_dot, h.ne_dots]
    rw [hname]
    simp only [Bool.false_eq_true, if_false]
    split
    · exact absurd ‹_› h.free
    · rfl

/-- Where a file can be written there is no directory. -/
theorem free_of_locateNew {written : String} (h : tree.locateNew written = .ok location) :
    tree.node? location ≠ some .directory := by
  obtain ⟨parent, name, hwritable, rfl⟩ := locateNew_ok_iff.mp h
  exact hwritable.free

/-- A path that a file can be written to is read at the same place. -/
theorem locate_of_locateNew {written : String} (h : tree.locateNew written = .ok location) :
    tree.locate written = .ok location := by
  obtain ⟨parent, name, hwritable, rfl⟩ := locateNew_ok_iff.mp h
  have hlast : tree.follow parent [name] = .ok (parent ++ [name]) := by
    refine follow_cons_ok_iff.mpr ⟨hwritable.directory, ?_⟩
    rw [enter, if_neg hwritable.ne_dot, if_neg hwritable.ne_dots]
    rfl
  have hnames : (Path.parse written).names = (Path.parse written).names.dropLast ++ [name] :=
    (List.dropLast_append_getLast? name hwritable.last).symm
  have hall := follow_append hwritable.follows hlast
  rw [← hnames] at hall
  simpa [locate, hwritable.noSlash] using hall

/-- A path can be written to again. -/
theorem locateNew_put {written : String} (h : tree.locateNew written = .ok location)
    (content : ByteArray) :
    (tree.put location (.file content)).locateNew written = .ok location := by
  have hfree := free_of_locateNew h
  obtain ⟨parent, name, hwritable, hlocation⟩ := locateNew_ok_iff.mp h
  have hparent : parent ≠ location := fun e => hfree (e ▸ hwritable.directory)
  have hne : location ≠ [] := by rw [hlocation]; simp
  refine locateNew_ok_iff.mpr ⟨parent, name, ?_, hlocation⟩
  -- Only what stands in the tree has to be looked at again.
  exact { hwritable with
    follows := follow_put hfree _ hwritable.follows
    directory := by rw [node?_put_of_ne hparent, hwritable.directory]
    free := by rw [← hlocation, node?_put_self hne]; nofun }

/-! ### Reading -/

/-- What is read is told from the node at the location, once this is found. -/
theorem read_of_locate {written : String} (h : tree.locate written = .ok location) :
    tree.read written = match tree.node? location with
      | none => .error .notFound
      | some .directory => .error .isDirectory
      | some (.file content) => .ok content := by
  rw [read, h]
  rfl

/-- A path that can be read leads to a file. -/
theorem exists_locate_of_read {written : String} {content : ByteArray}
    (h : tree.read written = .ok content) :
    ∃ found, tree.locate written = .ok found ∧ tree.node? found = some (.file content) := by
  cases hlocate : tree.locate written with
  | error fault => rw [read, hlocate] at h; cases h
  | ok found =>
      refine ⟨found, rfl, ?_⟩
      rw [read_of_locate hlocate] at h
      split at h
      · cases h
      · cases h
      · rename_i hnode
        cases h
        exact hnode

/-- What was written is read back. -/
theorem read_put_self {written : String} (h : tree.locateNew written = .ok location)
    (content : ByteArray) : (tree.put location (.file content)).read written = .ok content := by
  have hlocate := locate_put (free_of_locateNew h) (.file content) (locate_of_locateNew h)
  have hne : location ≠ [] := by
    obtain ⟨parent, name, -, rfl⟩ := locateNew_ok_iff.mp h
    simp
  rw [read_of_locate hlocate, node?_put_self hne]

/-- A path that names another file is read as before. -/
theorem read_put_of_ne {written other : String} (h : tree.locateNew written = .ok location)
    (hne : tree.locate other ≠ tree.locate written) (node : Node) {content : ByteArray}
    (hread : tree.read other = .ok content) :
    (tree.put location node).read other = .ok content := by
  obtain ⟨found, hlocate, hnode⟩ := exists_locate_of_read hread
  have hfound : found ≠ location := by
    rintro rfl
    exact hne (hlocate.trans (locate_of_locateNew h).symm)
  rw [read_of_locate (locate_put (free_of_locateNew h) node hlocate), node?_put_of_ne hfound,
    hnode]

/-! ### Faults -/

/-- Two steps in a row have a fault only if one of them has it. -/
theorem bind_ne_error {α β : Type} {fault : FileFault} {result : Except FileFault α}
    {next : α → Except FileFault β} (h : result ≠ .error fault)
    (hnext : ∀ value, next value ≠ .error fault) : (result >>= next) ≠ .error fault := by
  cases result with
  | error other =>
      intro hsame
      exact h (congrArg Except.error (Except.error.inj hsame))
  | ok value => exact hnext value

/-- Names lead nowhere if one of them is not there or is that of a file. No other fault is
met on the way. -/
theorem follow_ne_other (start : Location) (names : List String) (description : String) :
    tree.follow start names ≠ .error (.other description) := by
  induction names generalizing start with
  | nil => nofun
  | cons name names ih =>
      rw [follow]
      split
      · nofun
      · nofun
      · -- The name is looked up in a directory, and the way goes on from there.
        split
        · exact ih _
        · split <;> exact ih _

/-- A file that is there can be read. -/
theorem read_ne_other (written description : String) :
    tree.read written ≠ .error (.other description) := by
  refine bind_ne_error (follow_ne_other _ _ _) ?_
  intro found
  split <;> nofun

/-- Where a file can stand, one can be written. -/
theorem write_ne_other (written description : String) (content : ByteArray) :
    tree.write written content ≠ .error (.other description) := by
  refine bind_ne_error ?_ fun location => nofun
  unfold locateNew
  simp only
  split
  · nofun
  · refine bind_ne_error (follow_ne_other _ _ _) ?_
    intro parent
    split
    · nofun
    · nofun
    · -- The directory is there. The name may be that of another one, and then it is in the
      -- way.
      split
      · nofun
      · split <;> nofun

end Phrasebook.FileTree
