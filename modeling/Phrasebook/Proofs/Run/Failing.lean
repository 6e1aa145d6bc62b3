import Phrasebook.Proofs.Run.Outcome

/-!
# `Phrasebook.Proofs.Run.Failing`: runs that fail

A run has stages, and each of them can fail. `Request.failureAt` looks at one stage
by itself, with no regard to the order of the stages. `run_fails_first` shows that
the failure of a run is that of its first failing stage, and that a run that fails
has printed nothing and left the file tree as it was. So the names are checked
before an output file is touched, whatever the format is, and a file that cannot be
understood is never replaced, not even by itself.
-/

set_option autoImplicit false

namespace Phrasebook

/-- The text in the file that a path names. -/
def FileTree.readText (tree : FileTree) (written : String) : Except FileFault String :=
  match tree.read written with
  | .error fault => .error fault
  | .ok bytes =>
    match String.fromUTF8? bytes with
    | none => .error .notText
    | some text => .ok text

/-- A file that holds a text can be read as one. -/
theorem FileTree.readText_of_read {tree : FileTree} {written text : String}
    (h : tree.read written = .ok text.toUTF8) : tree.readText written = .ok text := by
  have hbytes : String.fromUTF8? text.toUTF8 = some text := dif_pos text.isValidUTF8
  rw [readText, h]
  simp only [hbytes]

/-- What a run does that can fail. -/
inductive Stage where
  /-- Read the input file. -/
  | reading
  /-- Understand it as a catalog. -/
  | parsing
  /-- Accept the name of the function. -/
  | functionName
  /-- Accept the name of the language. -/
  | langName
  /-- Find a place for the output file. -/
  | creating
deriving DecidableEq, Repr

namespace Request

/-- The stages of a run, in order. Names and a place for a file are for an artifact
only. -/
def stages (request : Request) : List Stage :=
  match request.task with
  | .generate => [.reading, .parsing, .functionName, .langName, .creating]
  | .check | .lookup .. => [.reading, .parsing]

/-- How a stage fails, if it does. A file that cannot be read has nothing to
understand, and without a path no place is looked for. -/
def failureAt (request : Request) (tree : FileTree) : Stage → Option Failure
  | .reading =>
    match tree.readText request.input with
    | .error fault => some (.unreadable request.input fault)
    | .ok _ => none
  | .parsing =>
    match tree.readText request.input with
    | .error _ => none
    | .ok source =>
      match Catalog.parse source with
      | .error rejection => some (.malformed request.input rejection)
      | .ok _ => none
  | .functionName =>
    if isIdentifier request.function then none
    else some (.invalidIdentifier ⟨request.function⟩)
  | .langName =>
    if isIdentifier request.langName then none
    else some (.invalidIdentifier ⟨request.langName⟩)
  | .creating =>
    match request.output with
    | none => none
    | some path =>
      match tree.locateNew path with
      | .error fault => some (.uncreatable path fault)
      | .ok _ => none

variable {request : Request} {tree : FileTree}

/-! ### Stages and their failures -/

/-- Loading fails where reading does, or else where parsing does. -/
theorem loading_result (request : Request) (tree : FileTree) :
    (request.loading tree).result = match tree.readText request.input with
      | .error fault => .error (.unreadable request.input fault)
      | .ok source =>
        match Catalog.parse source with
        | .error rejection => .error (.malformed request.input rejection)
        | .ok reading => .ok reading.catalog := by
  unfold loading load FileTree.readText
  cases tree.read request.input with
  | error fault => rfl
  | ok bytes =>
      dsimp only
      cases String.fromUTF8? bytes with
      | none => rfl
      | some source =>
          dsimp only
          cases Catalog.parse source with
          | error rejection => rfl
          | ok reading => rfl

/-- The first failure on the way to a catalog. -/
theorem findSome?_loading (request : Request) (tree : FileTree) :
    [Stage.reading, .parsing].findSome? (request.failureAt tree)
      = match (request.loading tree).result with
        | .error failure => some failure
        | .ok _ => none := by
  rw [loading_result]
  simp only [List.findSome?_cons, List.findSome?_nil, failureAt]
  cases tree.readText request.input with
  | error fault => rfl
  | ok source =>
      dsimp only
      cases Catalog.parse source with
      | error rejection => rfl
      | ok reading => rfl

/-- The first failure on the way from a catalog to its artifact. -/
theorem findSome?_names (request : Request) (tree : FileTree) (catalog : Catalog) :
    [Stage.functionName, .langName].findSome? (request.failureAt tree)
      = match request.artifact catalog with
        | .error failure => some failure
        | .ok _ => none := by
  simp only [List.findSome?_cons, List.findSome?_nil, failureAt]
  unfold artifact Cascade.Options.ofNames Identifier.ofName?
  -- The names are made in the order of the stages, so a bad function name hides a bad
  -- language name in both.
  by_cases hfunction : isIdentifier request.function
  · by_cases hlang : isIdentifier request.langName
    · simp [hfunction, hlang]
    · simp [hfunction, hlang]
  · simp [hfunction]

/-- The failure of the only stage that looks for a place. -/
theorem findSome?_creating (request : Request) (tree : FileTree) :
    [Stage.creating].findSome? (request.failureAt tree)
      = match request.output with
        | none => none
        | some path =>
          match tree.locateNew path with
          | .error fault => some (.uncreatable path fault)
          | .ok _ => none := by
  rw [List.findSome?_cons, List.findSome?_nil, failureAt]
  cases request.output with
  | none => rfl
  | some path =>
      dsimp only
      cases tree.locateNew path with
      | error fault => rfl
      | ok location => rfl

/-- The first failure of an artifact whose catalog has been loaded. -/
theorem findSome?_generate {events : List Event} {catalog : Catalog}
    (hload : request.loading tree = ⟨events, .ok catalog⟩) (htask : request.task = .generate) :
    request.stages.findSome? (request.failureAt tree)
      = (match request.artifact catalog with
          | .error failure => some failure
          | .ok _ => none).or
        (match request.output with
          | none => none
          | some path =>
            match tree.locateNew path with
            | .error fault => some (.uncreatable path fault)
            | .ok _ => none) := by
  have hstages : request.stages
      = [.reading, .parsing] ++ ([.functionName, .langName] ++ [.creating]) := by
    rw [stages, htask]
    rfl
  rw [hstages, List.findSome?_append, List.findSome?_append, findSome?_loading, hload,
    findSome?_names request tree catalog, findSome?_creating]
  rfl

/-- A question takes a catalog and nothing else. -/
theorem stages_of_answer {catalog : Catalog} {text : String}
    (h : request.answer? catalog = some text) : request.stages = [.reading, .parsing] := by
  unfold answer? at h
  unfold stages
  cases htask : request.task with
  | generate => rw [htask] at h; cases h
  | check => rfl
  | lookup message lang => rfl

/-- Every run begins with the way to a catalog. -/
theorem exists_stages_eq (request : Request) :
    ∃ others, request.stages = [.reading, .parsing] ++ others := by
  unfold stages
  cases request.task with
  | generate => exact ⟨[.functionName, .langName, .creating], rfl⟩
  | check => exact ⟨[], rfl⟩
  | lookup message lang => exact ⟨[], rfl⟩

/-! ### The failure of a run -/

/-- Each way that a run can go fails at the first stage that fails by itself. -/
theorem Leads.failure_eq {outcome : Outcome} (h : request.Leads tree outcome) :
    outcome.failure = request.stages.findSome? (request.failureAt tree) := by
  cases h with
  | unloaded loaded =>
      -- What the others would come to makes no difference.
      obtain ⟨others, hstages⟩ := exists_stages_eq request
      rw [hstages, List.findSome?_append, findSome?_loading, loaded]
      rfl
  | answered loaded answer =>
      -- A question has no other stages, and both of its own have passed.
      rw [stages_of_answer answer, findSome?_loading, loaded]
  | unnamed loaded task refused =>
      rw [findSome?_generate loaded task, refused]
      rfl
  | printed loaded task made output =>
      rw [findSome?_generate loaded task, made, output]
      rfl
  | unsaved loaded task made output place =>
      rw [findSome?_generate loaded task, made, output]
      simp only [place]
      rfl
  | saved loaded task made output place =>
      rw [findSome?_generate loaded task, made, output]
      simp only [place]
      rfl

/-- No way that ends in a failure has written anything. -/
theorem Leads.unchanged {outcome : Outcome} (h : request.Leads tree outcome) {failure : Failure}
    (hfailure : outcome.failure = some failure) : outcome.tree = tree ∧ outcome.stdout = "" := by
  -- Only the ways without a failure print something or put a file in its place.
  cases h with
  | unloaded => exact ⟨rfl, rfl⟩
  | answered => cases hfailure
  | unnamed => exact ⟨rfl, rfl⟩
  | printed => cases hfailure
  | unsaved => exact ⟨rfl, rfl⟩
  | saved => cases hfailure

/-- A run fails if one of its stages does, and then in the way of the first that
does. It has printed nothing by then, and every file is as it was. -/
theorem run_fails_first (request : Request) (tree : FileTree) :
    (request.run tree).failure = request.stages.findSome? (request.failureAt tree)
    ∧ ∀ failure, (request.run tree).failure = some failure →
        (request.run tree).tree = tree ∧ (request.run tree).stdout = "" := by
  have hleads := leads_run request tree
  exact ⟨hleads.failure_eq, fun failure hfailure => hleads.unchanged hfailure⟩

/-- A JSON document that is to replace its own catalog, with two bad names: the
first of them is refused, and the catalog is still there. -/
theorem run_fails_first_own_input :
    ∃ (request : Request) (tree : FileTree),
      request.output = some "./message.txt" ∧ request.format = .json
      ∧ tree.locate "./message.txt" = tree.locate request.input
      ∧ (∃ reading, tree.readText request.input = .ok "ID:A\nfr:B\n---\n"
        ∧ Catalog.parse "ID:A\nfr:B\n---\n" = .ok reading)
      ∧ (request.run tree).failure = some (.invalidIdentifier ⟨"not valid"⟩)
      ∧ (request.run tree).tree = tree ∧ (request.run tree).stdout = "" := by
  let request : Request :=
    { input := "message.txt", output := some "./message.txt", format := .json
      function := "not valid", langName := "1st", activeLang := .global, verbose := false
      task := .generate }
  let tree : FileTree :=
    (FileTree.empty ["tmp"]).add ["message.txt"] (.file "ID:A\nfr:B\n---\n".toUTF8)
  have hread : tree.read request.input = .ok "ID:A\nfr:B\n---\n".toUTF8 := by
    simp only [tree, request]
    rfl
  have hsame : tree.locate "./message.txt" = tree.locate request.input := by
    simp only [tree, request]
    rfl
  have htext := FileTree.readText_of_read hread
  have hparse : Catalog.parse "ID:A\nfr:B\n---\n" = .ok _ := rfl
  obtain ⟨hfailure, hunchanged⟩ := run_fails_first request tree
  -- The input is read and understood, so the first name is the first to fail.
  have hfirst : (request.run tree).failure = some (.invalidIdentifier ⟨"not valid"⟩) := by
    rw [hfailure]
    show [Stage.reading, .parsing, .functionName, .langName, .creating].findSome? _ = _
    have hname : isIdentifier "not valid" = false := rfl
    simp only [List.findSome?_cons, failureAt, htext, hparse, request, hname, Bool.false_eq_true,
      if_false]
  exact ⟨request, tree, rfl, rfl, hsame, ⟨_, htext, hparse⟩, hfirst, hunchanged _ hfirst⟩

end Request

end Phrasebook
