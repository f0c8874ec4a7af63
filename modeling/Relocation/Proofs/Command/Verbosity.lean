import Relocation.Proofs.Command.Agreement

/-!
# What verbosity changes

A verbose run logs everything, and the session has its old threshold again afterwards. Nothing that
a run does depends on what is logged, so all else is the same.

* `Command.threshold_run` — **the threshold is put back**, however a run ends,
* `Command.run_eq_filter` — a run that is not verbose is a verbose one with fewer records,
* `Command.run_verbose` — **verbosity changes the log only**.
-/

namespace Relocation

/-- All records pass the threshold of a verbose run. -/
theorem Record.passes_debug (r : Record) : r.passes .debug = true := by
  obtain ⟨level, channel, message⟩ := r
  cases level with
  | debug => rfl
  | info => rfl
  | warning => rfl
  | error => rfl
  | critical => rfl

namespace Command

variable {session : Session} {refusal : Option String} {arguments arguments' : List String}
  {o : Options}

/-! ## The threshold of a session -/

/-- A run with another threshold leaves the old one, whatever is done in between. -/
theorem threshold_withThreshold (threshold : Threshold) (body : Session → Run) :
    (session.withThreshold threshold body).session.threshold = session.threshold :=
  rfl

/-- **The threshold is put back.** However a run ends, the session has the threshold that it had
before. -/
theorem threshold_run (session : Session) (refusal : Option String) (arguments : List String) :
    (run session refusal arguments).session.threshold = session.threshold := by
  rw [run]
  cases Options.parse arguments with
  | error stop => rfl
  | ok o =>
    dsimp only
    split
    · exact threshold_withThreshold .debug _
    · rfl

/-! ## The records of a run -/

/-- All that a run logs, heavy or not. -/
def logged (session : Session) (refusal : Option String) (o : Options) : List Record :=
  (Task.left (perform o) (session.journal refusal)).records

/-- What is done does not depend on verbosity. -/
theorem perform_verbose (o : Options) (verbose : Bool) :
    perform { o with verbose } = perform o :=
  rfl

theorem run_of_quiet (h : Options.parse arguments = .ok o) (hverbose : o.verbose = false) :
    run session refusal arguments = session.carryOut refusal (perform o) := by
  rw [run, h]
  simp only [hverbose, Bool.false_eq_true, if_false]

theorem run_of_verbose (h : Options.parse arguments = .ok o) (hverbose : o.verbose = true) :
    run session refusal arguments =
      { session.carryOut refusal (perform o) with records := logged session refusal o } := by
  have hrecords : (logged session refusal o).filter (·.passes .debug) = logged session refusal o :=
    List.filter_eq_self.mpr fun r _ => r.passes_debug
  rw [run, h, ← hrecords]
  simp only [hverbose, if_true]
  rfl

/-- A run that is not verbose is a verbose one without the records that are too light. -/
theorem run_eq_filter (hquiet : Options.parse arguments = .ok { o with verbose := false })
    (hverbose : Options.parse arguments' = .ok { o with verbose := true }) :
    run session refusal arguments =
      { run session refusal arguments' with
        records := (run session refusal arguments').records.filter
          (·.passes session.threshold) } := by
  rw [run_of_quiet hquiet rfl, run_of_verbose hverbose rfl, perform_verbose, perform_verbose]
  rfl

/-- **Verbosity changes the log only.** Two runs whose arguments differ in verbosity and in nothing
else end alike, with or without an exit code, print the same, and leave the same disk. The verbose
one logs what the other logs, in the same order, and maybe more. Afterwards the threshold of the log
is what it was before, as it is after every run. -/
theorem run_verbose (session : Session) (refusal : Option String)
    (hquiet : Options.parse arguments = .ok { o with verbose := false })
    (hverbose : Options.parse arguments' = .ok { o with verbose := true }) :
    (run session refusal arguments').outcome = (run session refusal arguments).outcome ∧
      (run session refusal arguments').stdout = (run session refusal arguments).stdout ∧
      (run session refusal arguments').stderr = (run session refusal arguments).stderr ∧
      (run session refusal arguments').help = (run session refusal arguments).help ∧
      (run session refusal arguments').misuse = (run session refusal arguments).misuse ∧
      (run session refusal arguments').session.disk = (run session refusal arguments).session.disk ∧
      (run session refusal arguments).records.Sublist (run session refusal arguments').records ∧
      ∀ arguments, (run session refusal arguments).session.threshold = session.threshold := by
  rw [run_eq_filter hquiet hverbose]
  exact ⟨rfl, rfl, rfl, rfl, rfl, rfl, List.filter_sublist, threshold_run session refusal⟩

/-! ## Three empty files -/

/-- A disk with three empty files. -/
def diskOfEmptyFiles : Disk :=
  ⟨[], [(["a.js"], .file []), (["b.js"], .file []), (["n.js"], .file [])], []⟩

/-- Arguments for it that ask for a table. -/
def emptyFilesArguments : List String :=
  ["--original", "a.js", "--refactored", "b.js", "--new-file", "n.js"]

/-- The same, read. -/
def emptyFilesOptions : Options :=
  { before := some "a.js", after := some "b.js", newFiles := [some "n.js"], newDirs := [],
    format := .table, output := none, html := none, verbose := false }

/-- A verbose run over three empty files. -/
theorem run_verbose_empty_files :
    (run ⟨diskOfEmptyFiles, .info⟩ none (emptyFilesArguments ++ ["--verbose"])).outcome =
        (run ⟨diskOfEmptyFiles, .info⟩ none emptyFilesArguments).outcome ∧
      (run ⟨diskOfEmptyFiles, .info⟩ none
        (emptyFilesArguments ++ ["--verbose"])).session.threshold = .info := by
  have hquiet : Options.parse emptyFilesArguments =
      .ok { emptyFilesOptions with verbose := false } := by decide
  have hverbose : Options.parse (emptyFilesArguments ++ ["--verbose"]) =
      .ok { emptyFilesOptions with verbose := true } := by decide
  have h := run_verbose ⟨diskOfEmptyFiles, .info⟩ none hquiet hverbose
  exact ⟨h.1, h.2.2.2.2.2.2.2 _⟩

end Command

end Relocation
