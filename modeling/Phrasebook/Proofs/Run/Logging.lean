import Phrasebook.Proofs.Catalog.Account
import Phrasebook.Proofs.Log.Threshold
import Phrasebook.Proofs.Run.Failing
import Phrasebook.Proofs.Run.Report
import Phrasebook.Run.Process

/-!
# `Phrasebook.Proofs.Run.Logging`: what a log has to do with a run

A run raises events, and the filter of the process picks those that the log shows.
Nothing goes the other way: a run does not look at how much the log shows
(`run_verbose`), so two processes with one request leave the same behind, apart from the
lines of their logs (`execute_shows_one_run`).

What is shown is told by the threshold alone (`execute_of_threshold`). The duplicates of
a file are raised whether it is accepted or refused (`duplicates_raised`), and no
threshold but that of errors hides them.
-/

set_option autoImplicit false

open Phrasebook.Filter (Threshold shown)

namespace Phrasebook

/-- The log up to a level has a line for each event that is shown. -/
theorem Filter.log_upTo (level : Level) (events : List Event) :
    (upTo level).log events = String.join ((shown level events).map Event.logLine) := by
  have hadmits : (upTo level).admits = fun event => decide (event.level.rank ≤ level.rank) := by
    funext event
    exact admits_upTo level event
  rw [log, hadmits, shown]

/-- A text is read from the bytes of its file. -/
theorem FileTree.exists_read_of_readText {tree : FileTree} {written text : String}
    (h : tree.readText written = .ok text) :
    ∃ bytes, tree.read written = .ok bytes ∧ String.fromUTF8? bytes = some text := by
  unfold readText at h
  cases hread : tree.read written with
  | error fault =>
      rw [hread] at h
      cases h
  | ok bytes =>
      simp only [hread] at h
      cases htext : String.fromUTF8? bytes with
      | none =>
          rw [htext] at h
          cases h
      | some decoded =>
          rw [htext] at h
          cases h
          exact ⟨bytes, rfl, htext⟩

namespace Request

variable {request : Request} {tree : FileTree}

/-- A run does not look at how much the log shows. -/
theorem run_verbose (request : Request) (tree : FileTree) (verbose : Bool) :
    { request with verbose := verbose }.run tree = request.run tree :=
  rfl

/-! ### The events of a run -/

/-- The events of a run begin with those of loading its catalog. -/
theorem Leads.events_of_loading {outcome : Outcome} (h : request.Leads tree outcome) :
    (request.loading tree).events <+: outcome.events := by
  cases h with
  | unloaded loaded => exact ⟨[], by rw [loaded, List.append_nil]⟩
  | answered loaded => exact ⟨_, by rw [loaded]⟩
  | unnamed loaded => exact ⟨[], by rw [loaded, List.append_nil]⟩
  | printed loaded => exact ⟨[], by rw [loaded, List.append_nil]⟩
  | unsaved loaded => exact ⟨[], by rw [loaded, List.append_nil]⟩
  | saved loaded => exact ⟨_, by rw [loaded]⟩

/-- Loading raises the warnings of the file, whether it is accepted or refused. -/
theorem duplicates_loading {source : String} (h : tree.readText request.input = .ok source) :
    ((Catalog.warningsRaised source).map Event.duplicate).Sublist
      (request.loading tree).events := by
  obtain ⟨bytes, hread, htext⟩ := FileTree.exists_read_of_readText h
  rw [loading, hread, Catalog.warningsRaised]
  -- In both cases the warnings stand behind the event of reading.
  cases hparse : Catalog.parse source with
  | error rejection =>
      simp only [load, htext, hparse]
      exact List.sublist_cons_self _ _
  | ok reading =>
      simp only [load, htext, hparse, List.cons_append]
      exact (List.sublist_append_left _ _).trans (List.sublist_cons_self _ _)

/-- The duplicates of a file are among the events of every run on it, in order. -/
theorem duplicates_raised {source : String} (h : tree.readText request.input = .ok source) :
    ((Catalog.warningsRaised source).map Event.duplicate).Sublist (request.run tree).events :=
  (duplicates_loading h).trans (leads_run request tree).events_of_loading.sublist

/-- A threshold that shows warnings shows the duplicates of the file. -/
theorem duplicates_shown {source : String} (h : tree.readText request.input = .ok source)
    {level : Level} (hlevel : Level.warn.rank ≤ level.rank) :
    ((Catalog.warningsRaised source).map Event.duplicate).Sublist
      (shown level (request.run tree).events) := by
  have hall : shown level ((Catalog.warningsRaised source).map Event.duplicate)
      = (Catalog.warningsRaised source).map Event.duplicate := by
    rw [shown, List.filter_eq_self]
    intro event hevent
    obtain ⟨warning, -, rfl⟩ := List.mem_map.mp hevent
    exact decide_eq_true hlevel
  rw [← hall]
  exact (duplicates_raised h).filter _

end Request

/-! ### Processes -/

/-- The lines of a log up to a level. -/
def Outcome.logLines (outcome : Outcome) (level : Level) : List String :=
  (shown level outcome.events).map Event.logLine

/-- What a process leaves behind whose run leads to `outcome` and whose log goes up to
`level`. The exit code is zero if the run succeeded. If it failed, the code is one, and
what there is to be told of the failure stands behind the log. -/
def Outcome.exit (outcome : Outcome) (level : Level) : Exit :=
  match outcome.failure with
  | none => ⟨0, outcome.stdout, String.join (outcome.logLines level), outcome.tree⟩
  | some failure =>
    ⟨1, outcome.stdout, String.join (outcome.logLines level) ++ failure.lines, outcome.tree⟩

/-- The lines up to a stricter level are among those up to a laxer one. -/
theorem Outcome.logLines_sublist {strict lax : Level} (h : strict.rank ≤ lax.rank)
    (outcome : Outcome) : (outcome.logLines strict).Sublist (outcome.logLines lax) :=
  (Filter.shown_sublist h outcome.events).map Event.logLine

/-- A process leaves what its run leads to. Of its filter, only the threshold counts. -/
theorem execute_of_threshold (tree : FileTree) {environment : Environment}
    {words : List String} {request : Request} {level : Level}
    (hparse : CommandLine.parse environment.input words = .ok request)
    (hlevel : Threshold request.verbose environment.filter level) :
    execute tree environment words = (request.run tree).exit level := by
  rw [execute, hparse]
  show Exit.mk _ _ _ _ = _
  rw [Filter.choose_eq hlevel, Filter.log_upTo, Outcome.exit]
  cases hfailure : (request.run tree).failure with
  | none =>
      show Exit.mk 0 _ (_ ++ "") _ = _
      rw [String.append_empty]
      rfl
  | some failure =>
      show Exit.mk 1 _ (_ ++ failure.report) _ = _
      rw [failure.report_eq_lines]
      rfl

/-- The log does not enter into the exit code. -/
theorem Outcome.code_exit (outcome : Outcome) (level other : Level) :
    (outcome.exit level).code = (outcome.exit other).code := by
  unfold exit
  cases outcome.failure <;> rfl

/-- What is printed is what the run prints. -/
theorem Outcome.stdout_exit (outcome : Outcome) (level : Level) :
    (outcome.exit level).stdout = outcome.stdout := by
  unfold exit
  cases outcome.failure <;> rfl

/-- The files are as the run leaves them. -/
theorem Outcome.tree_exit (outcome : Outcome) (level : Level) :
    (outcome.exit level).tree = outcome.tree := by
  unfold exit
  cases outcome.failure <;> rfl

/-- The threshold of a process that asks for no details, where no filter is written, is
that of warnings. -/
theorem Filter.Threshold.eq_warn {level : Level} (h : Threshold false none level) :
    level = .warn := by
  cases h
  rfl

/-- Logging alters no result. Two processes on one file tree, whose requests differ at
most in how much of the log they show, have one run behind them. Each leaves what this
run leads to, with the lines up to its own threshold on standard error, and behind them
the report if the run failed (`Outcome.exit`). So exit code, standard output and files are
the same, the stricter log is part of the laxer one, and by default every duplicate of the
input file is shown. -/
theorem execute_shows_one_run (tree : FileTree) {first second : Environment}
    {words others : List String} {request : Request} {verbose : Bool} {level other : Level}
    (hfirst : CommandLine.parse first.input words = .ok request)
    (hsecond : CommandLine.parse second.input others = .ok { request with verbose := verbose })
    (hlevel : Threshold request.verbose first.filter level)
    (hother : Threshold verbose second.filter other) :
    execute tree first words = (request.run tree).exit level
      ∧ execute tree second others = (request.run tree).exit other
      ∧ (execute tree first words).code = (execute tree second others).code
      ∧ (execute tree first words).stdout = (execute tree second others).stdout
      ∧ (execute tree first words).tree = (execute tree second others).tree
      ∧ (level.rank ≤ other.rank →
          ((request.run tree).logLines level).Sublist ((request.run tree).logLines other))
      ∧ (request.verbose = false → first.filter = none → ∀ source,
          tree.readText request.input = .ok source →
          ((Catalog.warningsRaised source).map (Event.logLine ∘ Event.duplicate)).Sublist
            ((request.run tree).logLines level)) := by
  have hone := execute_of_threshold tree hfirst hlevel
  have htwo := execute_of_threshold tree hsecond hother
  -- The second request has the same run, since a run does not look at `verbose`.
  rw [Request.run_verbose] at htwo
  rw [hone, htwo]
  refine ⟨rfl, rfl, Outcome.code_exit _ _ _, ?_, ?_, ?_, ?_⟩
  · rw [Outcome.stdout_exit, Outcome.stdout_exit]
  · rw [Outcome.tree_exit, Outcome.tree_exit]
  · intro hstrict
    exact Outcome.logLines_sublist hstrict _
  · intro hquiet hunset source hread
    rw [hquiet, hunset] at hlevel
    have hwarn : Level.warn.rank ≤ level.rank := by rw [hlevel.eq_warn]
    rw [← List.map_map]
    exact (Request.duplicates_shown hread hwarn).map Event.logLine

/-- A file with a duplicate that is refused at its end, without the details and with
them. -/
theorem execute_shows_one_run_refused :
    ∃ (tree : FileTree) (request : Request),
      tree.readText "message.txt" = .ok "ID:A\n---\nID:A\n---\nfr:x\n"
      ∧ (execute tree ⟨none, none⟩ ["check"]).code = 1
      ∧ (execute tree ⟨none, some "off"⟩ ["-v", "check"]).code = 1
      ∧ (execute tree ⟨none, none⟩ ["check"]).stderr
        = "WARN transtab::syntax: duplicate record is unreachable line=3 id=A\n"
          ++ "Error: cannot load translations from `message.txt`\n\nCaused by:\n"
          ++ "    line 5: translation line outside of a record\n"
      ∧ (execute tree ⟨none, some "off"⟩ ["-v", "check"]).stderr
        = "DEBUG transtab::syntax: read translation source path=message.txt bytes=23\n"
          ++ "WARN transtab::syntax: duplicate record is unreachable line=3 id=A\n"
          ++ "Error: cannot load translations from `message.txt`\n\nCaused by:\n"
          ++ "    line 5: translation line outside of a record\n"
      ∧ ["WARN transtab::syntax: duplicate record is unreachable line=3 id=A\n"].Sublist
        ((request.run tree).logLines .warn)
      ∧ ((request.run tree).logLines .warn).Sublist ((request.run tree).logLines .debug) := by
  let request : Request :=
    { input := "message.txt", output := none, format := .c, function := "translate"
      langName := "lang_code", activeLang := .global, verbose := false, task := .check }
  let tree : FileTree := (FileTree.empty ["tmp"]).add ["message.txt"]
    (.file "ID:A\n---\nID:A\n---\nfr:x\n".toUTF8)
  let duplicate : Warning := .duplicateRecord 3 "A"
  let rejection : Rejection := ⟨5, .orphanWording, [duplicate]⟩
  have hbytes : tree.read request.input = .ok "ID:A\n---\nID:A\n---\nfr:x\n".toUTF8 := by
    simp only [tree, request]
    rfl
  have hread := FileTree.readText_of_read hbytes
  have hwarnings : (Catalog.warningsRaised "ID:A\n---\nID:A\n---\nfr:x\n").map
      (Event.logLine ∘ Event.duplicate)
      = ["WARN transtab::syntax: duplicate record is unreachable line=3 id=A\n"] := by
    decide
  have hload : request.loading tree
      = ⟨[.sourceRead "message.txt" 23, .duplicate duplicate],
        .error (.malformed "message.txt" rejection)⟩ := by
    have htext : String.fromUTF8? "ID:A\n---\nID:A\n---\nfr:x\n".toUTF8
        = some "ID:A\n---\nID:A\n---\nfr:x\n" := dif_pos (String.isValidUTF8 _)
    have hparse : Catalog.parse "ID:A\n---\nID:A\n---\nfr:x\n" = .error rejection := by decide
    rw [Request.loading, hbytes]
    simp only [load, htext, hparse]
    rfl
  have hrun := Request.Leads.run_eq (.unloaded hload)
  have hfirst : CommandLine.parse none ["check"] = .ok request := rfl
  have hsecond : CommandLine.parse none ["-v", "check"]
      = .ok { request with verbose := true } := rfl
  let plain : Environment := ⟨none, none⟩
  let silent : Environment := ⟨none, some "off"⟩
  have hlevel : Threshold request.verbose plain.filter .warn := .unwritten
  have hother : Threshold true silent.filter .debug := .details _
  obtain ⟨hone, htwo, hcode, -, -, hpart, hdefault⟩ :=
    execute_shows_one_run tree hfirst hsecond hlevel hother
  have hraised := hdefault rfl rfl _ hread
  rw [hwarnings] at hraised
  have hcodeOne : (execute tree plain ["check"]).code = 1 := by
    rw [hone, hrun]
    rfl
  refine ⟨tree, request, hread, hcodeOne, hcode ▸ hcodeOne, ?_, ?_, hraised, hpart (by decide)⟩
  · show (execute tree plain ["check"]).stderr = _
    rw [hone, hrun]
    decide +kernel
  · show (execute tree silent ["-v", "check"]).stderr = _
    rw [htwo, hrun]
    decide +kernel

end Phrasebook
