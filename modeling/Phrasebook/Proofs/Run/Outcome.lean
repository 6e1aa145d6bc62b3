import Phrasebook.Run.Basic

/-!
# `Phrasebook.Proofs.Run.Outcome`: the ways a run can go

A run that cannot load its catalog ends there. With a catalog, a question is
answered at once. An artifact needs names that are accepted, and if it is to be
saved, a place for its file. `Request.Leads` has one constructor for each of these
ways, with all that decides it, and `leads_iff` shows that every run goes the one
way that its request and its file tree call for. Facts about runs are proved by
cases on `Leads`.
-/

set_option autoImplicit false

namespace Phrasebook

namespace Request

variable {request : Request} {tree : FileTree}

/-- The text of the artifact of a catalog. Where it goes to makes no
difference. -/
def artifact (request : Request) (catalog : Catalog) : Except Failure String :=
  match Cascade.Options.ofNames request.function request.langName request.activeLang with
  | .error invalid => .error (.invalidIdentifier invalid)
  | .ok options => .ok (request.format.render options catalog)

/-- What is printed for a task that asks something of a catalog. -/
def answer? (request : Request) (catalog : Catalog) : Option String :=
  match request.task with
  | .generate => none
  | .check => some catalog.summary
  | .lookup message lang => some ((Table.ofCatalog catalog).lookup message lang ++ "\n")

/-- The first thing that a run does. -/
def loading (request : Request) (tree : FileTree) : Logged Catalog :=
  load request.input (tree.read request.input)

/-- `Leads request tree outcome`: the request, carried out on `tree`, comes to
`outcome`. -/
inductive Leads (request : Request) (tree : FileTree) : Outcome → Prop where
  /-- There is no catalog. -/
  | unloaded {events : List Event} {failure : Failure}
      (loaded : request.loading tree = ⟨events, .error failure⟩) :
      Leads request tree ⟨"", tree, events, some failure⟩
  /-- The catalog answers a question. -/
  | answered {events : List Event} {catalog : Catalog} {text : String}
      (loaded : request.loading tree = ⟨events, .ok catalog⟩)
      (answer : request.answer? catalog = some text) :
      Leads request tree ⟨text, tree, events ++ (request.plan catalog).events, none⟩
  /-- A name for the artifact is refused. -/
  | unnamed {events : List Event} {catalog : Catalog} {failure : Failure}
      (loaded : request.loading tree = ⟨events, .ok catalog⟩) (task : request.task = .generate)
      (refused : request.artifact catalog = .error failure) :
      Leads request tree ⟨"", tree, events, some failure⟩
  /-- The artifact is printed. -/
  | printed {events : List Event} {catalog : Catalog} {text : String}
      (loaded : request.loading tree = ⟨events, .ok catalog⟩) (task : request.task = .generate)
      (made : request.artifact catalog = .ok text) (output : request.output = none) :
      Leads request tree ⟨text, tree, events, none⟩
  /-- The artifact has no place. -/
  | unsaved {events : List Event} {catalog : Catalog} {text path : String} {fault : FileFault}
      (loaded : request.loading tree = ⟨events, .ok catalog⟩) (task : request.task = .generate)
      (made : request.artifact catalog = .ok text) (output : request.output = some path)
      (place : tree.locateNew path = .error fault) :
      Leads request tree ⟨"", tree, events, some (.uncreatable path fault)⟩
  /-- The artifact is saved. -/
  | saved {events : List Event} {catalog : Catalog} {text path : String} {location : Location}
      (loaded : request.loading tree = ⟨events, .ok catalog⟩) (task : request.task = .generate)
      (made : request.artifact catalog = .ok text) (output : request.output = some path)
      (place : tree.locateNew path = .ok location) :
      Leads request tree ⟨"", tree.put location (.file text.toUTF8),
        events ++ [.outputWritten path catalog.records.length], none⟩

/-! ### One response for each way -/

/-- Without a catalog the response is the failure to load it. -/
theorem respond_of_unloaded {events : List Event} {failure : Failure}
    (h : request.loading tree = ⟨events, .error failure⟩) :
    request.respond (tree.read request.input) = ⟨events, .error failure⟩ := by
  show (request.loading tree).andThen request.plan = _
  rw [h]
  rfl

/-- With a catalog the response is what is planned for it, behind what loading it
raised. -/
theorem respond_of_loaded {events : List Event} {catalog : Catalog}
    (h : request.loading tree = ⟨events, .ok catalog⟩) :
    request.respond (tree.read request.input)
      = ⟨events ++ (request.plan catalog).events, (request.plan catalog).result⟩ := by
  show (request.loading tree).andThen request.plan = _
  rw [h]
  rfl

/-- A question is answered by printing. -/
theorem plan_result_of_answer {catalog : Catalog} {text : String}
    (h : request.answer? catalog = some text) :
    (request.plan catalog).result = .ok (.print text) := by
  unfold answer? at h
  unfold plan
  cases htask : request.task with
  | generate => rw [htask] at h; cases h
  | check => rw [htask] at h; cases h; rfl
  | lookup message lang => rw [htask] at h; cases h; rfl

/-- An artifact is printed or saved, once it has been made. -/
theorem plan_of_generate (h : request.task = .generate) (catalog : Catalog) :
    request.plan catalog = ⟨[], (request.artifact catalog).map fun text =>
      match request.output with
      | none => .print text
      | some path => .save path text catalog.records.length⟩ := by
  rw [plan, h]
  unfold generate artifact
  cases Cascade.Options.ofNames request.function request.langName request.activeLang with
  | error invalid => rfl
  | ok options =>
      cases request.output with
      | none => rfl
      | some path => rfl

/-- A request for an artifact is answered by the artifact, or by why there is none. -/
theorem respond_of_generate {events : List Event} {catalog : Catalog}
    (hload : request.loading tree = ⟨events, .ok catalog⟩) (htask : request.task = .generate) :
    request.respond (tree.read request.input)
      = ⟨events, (request.artifact catalog).map fun text =>
          match request.output with
          | none => .print text
          | some path => .save path text catalog.records.length⟩ := by
  rw [respond_of_loaded hload, plan_of_generate htask, List.append_nil]

/-! ### Every run goes its way -/

/-- What decides a way decides the run. -/
theorem Leads.run_eq {outcome : Outcome} (h : request.Leads tree outcome) :
    request.run tree = outcome := by
  unfold run
  cases h with
  | unloaded loaded => rw [respond_of_unloaded loaded]
  | answered loaded answer => rw [respond_of_loaded loaded, plan_result_of_answer answer]
  | unnamed loaded task refused =>
      rw [respond_of_generate loaded task, refused]
      rfl
  | printed loaded task made output =>
      rw [respond_of_generate loaded task, made, output]
      rfl
  | unsaved loaded task made output place =>
      rw [respond_of_generate loaded task, made, output]
      simp only [Except.map, FileTree.write, place, bind, Except.bind]
  | saved loaded task made output place =>
      rw [respond_of_generate loaded task, made, output]
      simp only [Except.map, FileTree.write, place, bind, Except.bind, pure, Except.pure]

/-- There is a way for every request and every file tree. -/
theorem exists_leads (request : Request) (tree : FileTree) :
    ∃ outcome, request.Leads tree outcome := by
  -- The questions are asked in the order in which a run comes to them.
  cases hload : request.loading tree with
  | mk events result =>
      cases result with
      | error failure => exact ⟨_, .unloaded hload⟩
      | ok catalog =>
          cases hanswer : request.answer? catalog with
          | some text => exact ⟨_, .answered hload hanswer⟩
          | none =>
              -- Every task but the artifact has an answer.
              have htask : request.task = .generate := by
                unfold answer? at hanswer
                split at hanswer
                · assumption
                · cases hanswer
                · cases hanswer
              cases hmade : request.artifact catalog with
              | error failure => exact ⟨_, .unnamed hload htask hmade⟩
              | ok text =>
                  cases houtput : request.output with
                  | none => exact ⟨_, .printed hload htask hmade houtput⟩
                  | some path =>
                      cases hplace : tree.locateNew path with
                      | error fault => exact ⟨_, .unsaved hload htask hmade houtput hplace⟩
                      | ok location => exact ⟨_, .saved hload htask hmade houtput hplace⟩

/-- Every run goes one of the ways, and only the one that is decided. -/
theorem leads_iff {outcome : Outcome} :
    request.Leads tree outcome ↔ request.run tree = outcome := by
  constructor
  · exact Leads.run_eq
  · rintro rfl
    obtain ⟨outcome, h⟩ := exists_leads request tree
    rw [h.run_eq]
    exact h

/-- Every run goes one of the ways. -/
theorem leads_run (request : Request) (tree : FileTree) :
    request.Leads tree (request.run tree) :=
  leads_iff.mpr rfl

end Request

end Phrasebook
