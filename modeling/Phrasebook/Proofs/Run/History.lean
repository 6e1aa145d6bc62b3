import Phrasebook.Proofs.FileTree.Writing
import Phrasebook.Proofs.Run.Outcome

/-!
# `Phrasebook.Proofs.Run.History`: what runs do to files

Requests are carried out one after the other, each on the files that the one before
has left (`FileTree.after`). A file that one of them writes can be the input or the
output of the next, under any path that leads to it.

* `node?_after`: a location keeps what it has, unless a request saves to it
  (`Request.SavesTo`).
* `run_printing`: what a run saves to a path, it prints without the path.
* `run_run_of_saved`: saving once more changes nothing, unless the artifact has taken
  the place of its catalog.
* `run_eq_of_question`: a question leaves all files alone, and its answer depends on
  the catalog and the question only.

`runs_keep_files` puts these together.
-/

set_option autoImplicit false

namespace Phrasebook

/-- The files after some requests have been carried out in order. -/
def FileTree.after (tree : FileTree) (requests : List Request) : FileTree :=
  requests.foldl (fun tree request => (request.run tree).tree) tree

namespace Request

variable {request : Request} {tree : FileTree} {location : Location}

/-- The request succeeds with an artifact, and saves it to a path that leads to
`location`. -/
def SavesTo (request : Request) (tree : FileTree) (location : Location) : Prop :=
  request.task = .generate ∧ (request.run tree).failure = none
    ∧ ∃ path, request.output = some path ∧ tree.locateNew path = .ok location

/-- The request without a path for its artifact. -/
def printing (request : Request) : Request := { request with output := none }

/-! ### One run -/

/-- A run changes no other location than the one it saves to. -/
theorem node?_run (h : ¬ request.SavesTo tree location) :
    (request.run tree).tree.node? location = tree.node? location := by
  unfold SavesTo at h
  have hleads := leads_run request tree
  generalize request.run tree = outcome at h hleads
  cases hleads with
  | unloaded => rfl
  | answered => rfl
  | unnamed => rfl
  | printed => rfl
  | unsaved => rfl
  | @saved events catalog text path place loaded task made output found =>
      have hne : location ≠ place := by
        rintro rfl
        exact h ⟨task, rfl, path, output, found⟩
      exact FileTree.node?_put_of_ne hne _

/-- A run that succeeds with an artifact for a path has saved it there. -/
theorem Leads.exists_saved {outcome : Outcome} (h : request.Leads tree outcome)
    (htask : request.task = .generate) {path : String} (houtput : request.output = some path)
    (hfailure : outcome.failure = none) :
    ∃ events catalog text place, request.loading tree = ⟨events, .ok catalog⟩
      ∧ request.artifact catalog = .ok text ∧ tree.locateNew path = .ok place := by
  cases h with
  | unloaded => cases hfailure
  | answered loaded answer =>
      rw [answer?, htask] at answer
      cases answer
  | unnamed => cases hfailure
  | printed loaded task made output =>
      rw [houtput] at output
      cases output
  | unsaved => cases hfailure
  | saved loaded task made output place =>
      rw [houtput] at output
      cases output
      exact ⟨_, _, _, _, loaded, made, place⟩

section Saving

variable {path text : String} {events : List Event} {catalog : Catalog}

/-- Without a path, the same artifact is printed. -/
theorem run_printing (hload : request.loading tree = ⟨events, .ok catalog⟩)
    (htask : request.task = .generate) (hmade : request.artifact catalog = .ok text) :
    request.printing.run tree = ⟨text, tree, events, none⟩ := by
  -- Neither the catalog nor its artifact depends on the path.
  have hprinted : request.printing.Leads tree ⟨text, tree, events, none⟩ :=
    .printed hload htask hmade rfl
  exact hprinted.run_eq

/-- The input is read as before, if it is another file than the output. -/
theorem loading_put (hplace : tree.locateNew path = .ok location)
    (hinput : tree.locate request.input ≠ tree.locate path) (node : Node)
    (hload : request.loading tree = ⟨events, .ok catalog⟩) :
    request.loading (tree.put location node) = ⟨events, .ok catalog⟩ := by
  unfold loading at hload ⊢
  cases hread : tree.read request.input with
  | error fault =>
      rw [hread, load] at hload
      cases hload
  | ok content =>
      rw [FileTree.read_put_of_ne hplace hinput node hread, ← hread]
      exact hload

/-- An artifact that has been saved is saved again in the same way. -/
theorem run_run_of_saved (hload : request.loading tree = ⟨events, .ok catalog⟩)
    (htask : request.task = .generate) (hmade : request.artifact catalog = .ok text)
    (houtput : request.output = some path) (hplace : tree.locateNew path = .ok location)
    (hinput : tree.locate request.input ≠ tree.locate path) :
    request.run (request.run tree).tree = request.run tree := by
  have hfirst := (Leads.saved hload htask hmade houtput hplace).run_eq
  -- Saved once, the artifact has its place, and the catalog is still to be read.
  have hsecond := (Leads.saved (loading_put hplace hinput (.file text.toUTF8) hload) htask hmade
    houtput (FileTree.locateNew_put hplace _)).run_eq
  rw [hfirst]
  show request.run (tree.put location (.file text.toUTF8)) = _
  rw [hsecond, FileTree.put_put]

end Saving

/-- Nothing is saved for a question. -/
theorem Leads.tree_eq_of_question {outcome : Outcome} (h : request.Leads tree outcome)
    (htask : request.task ≠ .generate) : outcome.tree = tree := by
  cases h with
  | unloaded => rfl
  | answered => rfl
  | unnamed loaded task => exact absurd task htask
  | printed loaded task => exact absurd task htask
  | unsaved loaded task => exact absurd task htask
  | saved loaded task => exact absurd task htask

/-- Two requests that ask the same of the same file come to the same, whatever else
they say. -/
theorem run_eq_of_question {other : Request} (htask : request.task ≠ .generate)
    (hinput : other.input = request.input) (hsame : other.task = request.task) :
    other.run tree = request.run tree := by
  have hplan : other.plan = request.plan := by
    funext catalog
    unfold plan
    rw [hsame]
    cases hquestion : request.task with
    | generate => exact absurd hquestion htask
    | check => rfl
    | lookup message lang => rfl
  have hrespond : other.respond (tree.read other.input)
      = request.respond (tree.read request.input) := by
    rw [hinput, respond, respond, hinput, hplan]
  unfold run
  rw [hrespond]

/-! ### Many runs -/

/-- A location that no request saves to keeps what it has. Each request is looked at
in the files that it finds. -/
theorem node?_after {requests : List Request}
    (h : ∀ front request back, requests = front ++ request :: back →
      ¬ request.SavesTo (tree.after front) location) :
    (tree.after requests).node? location = tree.node? location := by
  induction requests generalizing tree with
  | nil => rfl
  | cons request requests ih =>
      -- The first request finds `tree`, and the others find what it leaves.
      have hstep := node?_run (h [] request requests rfl)
      have hrest : ((request.run tree).tree.after requests).node? location
          = (request.run tree).tree.node? location := by
        refine ih fun front next back heq => ?_
        exact h (request :: front) next back (by rw [heq]; rfl)
      exact hrest.trans hstep

/-- What a sequence of requests leaves of the files, what one request saves, and what
a question needs. A location that no request saves to keeps what it has. A request
that succeeds with an artifact for a path succeeds without the path too. It prints
nothing, and the file holds the text that would have been printed. If the path does
not lead to the input file, carrying the request out again comes to the same. A
question changes no file, and two requests with the same question to the same file
come to the same. -/
theorem runs_keep_files :
    (∀ (tree : FileTree) (requests : List Request) (location : Location),
      (∀ front request back, requests = front ++ request :: back →
        ¬ request.SavesTo (tree.after front) location) →
      (tree.after requests).node? location = tree.node? location)
    ∧ (∀ (tree : FileTree) (request : Request) (path : String),
      request.task = .generate → request.output = some path →
      (request.run tree).failure = none →
        (request.printing.run tree).failure = none
        ∧ (request.run tree).stdout = ""
        ∧ (request.run tree).tree.read path = .ok (request.printing.run tree).stdout.toUTF8
        ∧ (tree.locate request.input ≠ tree.locate path →
          request.run (request.run tree).tree = request.run tree))
    ∧ ∀ (tree : FileTree) (request other : Request),
      request.task ≠ .generate → other.input = request.input → other.task = request.task →
        (request.run tree).tree = tree ∧ other.run tree = request.run tree := by
  refine ⟨fun tree requests location => node?_after, ?_, ?_⟩
  · intro tree request path htask houtput hfailure
    obtain ⟨events, catalog, text, place, hload, hmade, hplace⟩ :=
      (leads_run request tree).exists_saved htask houtput hfailure
    have hprint := run_printing hload htask hmade
    have hsave := (Leads.saved hload htask hmade houtput hplace).run_eq
    refine ⟨by rw [hprint], by rw [hsave], ?_, run_run_of_saved hload htask hmade houtput hplace⟩
    rw [hprint, hsave]
    exact FileTree.read_put_self hplace _
  · intro tree request other htask hinput hsame
    exact ⟨(leads_run request tree).tree_eq_of_question htask,
      run_eq_of_question htask hinput hsame⟩

/-- A catalog is saved as a JSON document under a path with a detour, over a file that
is there already. The question that comes next has bad names and a path of its own,
and neither matters. -/
theorem runs_keep_files_detour :
    ∃ (tree : FileTree) (saving question plain : Request) (text : String),
      saving.output = some "gen/../old.json" ∧ question.output = some "message.txt"
      ∧ isIdentifier question.function = false
      ∧ (tree.after [saving, question]).node? ["tmp", "message.txt"]
        = some (.file "ID:A\nfr:B\n---\n".toUTF8)
      ∧ (saving.printing.run tree).stdout = text
      ∧ tree.read "old.json" = .ok "[]".toUTF8
      ∧ (saving.run tree).tree.read "gen/../old.json" = .ok text.toUTF8
      ∧ saving.run (saving.run tree).tree = saving.run tree
      ∧ (question.run tree).tree = tree ∧ question.run tree = plain.run tree := by
  let tree : FileTree :=
    (((FileTree.empty ["tmp"]).add ["gen"] .directory).add ["old.json"] (.file "[]".toUTF8)).add
      ["message.txt"] (.file "ID:A\nfr:B\n---\n".toUTF8)
  let saving : Request :=
    { input := "message.txt", output := some "gen/../old.json", format := .json
      function := "translate", langName := "lang_code", activeLang := .global, verbose := false
      task := .generate }
  let plain : Request := { saving with output := none, task := .lookup "A" "fr" }
  let question : Request := { plain with output := some "message.txt", function := "not valid" }
  have hsaved : (saving.run tree).failure = none := by
    simp only [tree, saving]
    rfl
  have hplace : tree.locateNew "gen/../old.json" = .ok ["tmp", "old.json"] := by
    simp only [tree]
    rfl
  have hold : tree.read "old.json" = .ok "[]".toUTF8 := by
    simp only [tree]
    rfl
  have hcatalog : tree.node? ["tmp", "message.txt"]
      = some (.file "ID:A\nfr:B\n---\n".toUTF8) := by
    simp only [tree]
    rfl
  have hinput : tree.locate saving.input ≠ tree.locate "gen/../old.json" := by
    simp only [tree, saving]
    decide
  have hname : isIdentifier "not valid" = false := by rfl
  obtain ⟨hframe, hsave, hquestion⟩ := runs_keep_files
  obtain ⟨-, -, htext, hagain⟩ := hsave tree saving "gen/../old.json" rfl rfl hsaved
  -- Of the two requests one saves elsewhere, and the other saves nothing.
  have hkept := hframe tree [saving, question] ["tmp", "message.txt"] <| by
    rintro front request back heq ⟨htask, -, path, hpath, hlocate⟩
    match front with
    | [] =>
        cases heq
        cases hpath
        rw [FileTree.after, List.foldl_nil, hplace] at hlocate
        simp at hlocate
    | [first] =>
        cases heq
        cases htask
    | first :: second :: front => simp at heq
  obtain ⟨hfiles, hanswer⟩ := hquestion tree question plain nofun rfl rfl
  exact ⟨tree, saving, question, plain, _, rfl, rfl, hname, hkept.trans hcatalog, rfl, hold, htext,
    hagain hinput, hfiles, hanswer.symm⟩

end Request

end Phrasebook
