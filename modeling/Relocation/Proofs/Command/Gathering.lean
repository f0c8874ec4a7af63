import Relocation.Proofs.Command.ExitCode

/-!
# Input before output

A run first gathers all of its input and then delivers its reports. Gathering only looks: if it goes
well, the world is as it was, and if it does not, a report on standard error is all that it leaves.

* `Command.perform_eq_gather` — a run is gathering and then delivering,
* `Command.observes_gather` — gathering that goes well leaves the world alone,
* `Command.InputFails` — the first trouble of a run is with its input,
* `Command.run_of_inputFails` — **a failure of the input leaves no trace**, and nothing is ever
  delivered.
-/

namespace Relocation.Command

open Relocation.Task

variable {session : Session} {refusal : Option String} {arguments : List String} {o : Options}
  {j : Journal World} {e : InputError} {message : String}

/-! ## Gathering and delivering -/

/-- Select the new files, read all files and compare them. -/
def gather (o : Options) : Task World Ending Comparison := do
  let files ← selectFiles o
  let before ← pathOf o.before
  let after ← pathOf o.after
  let w ← Task.current
  (compared (Provider.ofDisk w.disk before after files)).rescue (endVerification o)

/-- Give out the report and write the HTML report. -/
def deliver (o : Options) (c : Comparison) : Task World Ending ExitCode := do
  (present o c).rescue (endVerification o)
  finish o c

/-- A run whose verification failed has ended. -/
theorem endVerification_bind {α β : Type} (failure : Failure) (f : α → Task World Ending β) :
    endVerification o failure >>= f = endVerification o failure := by
  cases failure with
  | input e => rfl
  | report message => rfl
  | abort a => rfl

/-- **A run is gathering and then delivering.** -/
theorem perform_eq_gather (o : Options) : perform o = gather o >>= deliver o := by
  have hverification (d : Disk) (before after : Path) (files : List Path) :
      verification d before after files o =
        (compared (Provider.ofDisk d before after files)).rescue (endVerification o) >>= fun c =>
          (present o c).rescue (endVerification o) >>= fun _ => pure c := by
    have hpresent (c : Comparison) : (present o c >>= fun _ => pure c).rescue (endVerification o) =
        (present o c).rescue (endVerification o) >>= fun _ => pure c :=
      rescue_bind fun failure => endVerification_bind failure _
    rw [verification, verify_eq, rescue_bind fun failure => endVerification_bind failure _]
    simp only [hpresent]
  simp only [perform_eq, gather, conclude, hverification, bind_assoc, pure_bind]
  rfl

/-! ## Gathering only looks -/

theorem observes_pathOf (value : Value) : Observes (pathOf value) := by
  cases value with
  | some text => exact observes_pure _
  | none => exact observes_throw _

theorem observes_pathsOf (values : List Value) : Observes (pathsOf values) := by
  induction values with
  | nil => exact observes_pure _
  | cons value values ih =>
    exact (observes_pathOf value).bind fun p => ih.bind fun paths => observes_pure _

theorem observes_fail {α : Type} (records : List Record) (message : String) :
    Observes (fail records message : Task World Ending α) := by
  intro j a h
  rw [outcome_fail] at h
  cases h

theorem observes_discoverIn (value : Value) : Observes (discoverIn value) := by
  apply (observes_pathOf value).bind
  intro root
  apply observes_current.bind
  intro w
  split
  · exact (observes_log _).bind fun _ => observes_pure _
  · exact observes_fail _ _
  · exact observes_throw _

theorem observes_discoverAll (values : List Value) : Observes (discoverAll values) := by
  induction values with
  | nil => exact observes_pure _
  | cons value values ih =>
    exact (observes_discoverIn value).bind fun found => ih.bind fun more => observes_pure _

theorem observes_selectFiles (o : Options) : Observes (selectFiles o) := by
  apply (observes_pathsOf _).bind
  intro named
  apply (observes_discoverAll _).bind
  intro found
  dsimp only
  split
  · exact observes_fail _ _
  · exact observes_pure _

theorem observes_readInput (d : Disk) (p : Path) :
    Observes (readInput d p : Task World Failure String) := by
  unfold readInput
  split
  · exact observes_pure _
  · exact observes_throw _
  · exact (observes_log _).bind fun _ => observes_throw _

theorem observes_readInputs (d : Disk) (paths : List Path) :
    Observes (readInputs d paths : Task World Failure (List SourceFile)) := by
  induction paths with
  | nil => exact observes_pure _
  | cons p paths ih =>
    exact (observes_readInput d p).bind fun content => ih.bind fun files => observes_pure _

theorem observes_compared (d : Disk) (before after : Path) (files : List Path) :
    Observes (compared (Provider.ofDisk d before after files) : Task World Failure Comparison) :=
  (observes_readInput d before).bind fun _ => (observes_readInput d after).bind fun _ =>
    (observes_readInputs d files).bind fun _ => (observes_logAll _).bind fun _ =>
      (observes_log _).bind fun _ => observes_pure _

/-- **Gathering that goes well leaves the world alone.** -/
theorem observes_gather (o : Options) : Observes (gather o) :=
  (observes_selectFiles o).bind fun _ => (observes_pathOf _).bind fun _ =>
    (observes_pathOf _).bind fun _ => observes_current.bind fun _ =>
      (observes_compared _ _ _ _).rescue fun _ _ _ => outcome_endVerification_ne_ok

/-! ## Trouble with the input -/

/-- Among directories of new files there is one that cannot be searched, and nothing is wrong with
those before it. -/
inductive DiscoveryFails (d : Disk) : List Value → InputError → Prop
  | here {text : String} {e : InputError}
      (h : discover d (.ofString text) sourceExtensions = .ok (.error e)) (values : List Value) :
      DiscoveryFails d (some text :: values) e
  | later {text : String} {survey : Survey} {values : List Value} {e : InputError}
      (h : discover d (.ofString text) sourceExtensions = .ok (.ok survey))
      (hrest : DiscoveryFails d values e) : DiscoveryFails d (some text :: values) e

/-- Among files there is one that cannot be read, other than for a null character in its path, and
those before it can. -/
inductive ReadFails (d : Disk) : List Path → InputError → Prop
  | here {p : Path} {fault : ReadFault} (h : d.readText p = .error fault)
      (hfault : fault ≠ .disk .nullCharacter) (paths : List Path) :
      ReadFails d (p :: paths) ⟨p, fault.message⟩
  | later {p : Path} {text : String} {paths : List Path} {e : InputError}
      (h : d.readText p = .ok text) (hrest : ReadFails d paths e) : ReadFails d (p :: paths) e

/-- What can be wrong with the input of a run. -/
inductive Trouble where
  /-- the arguments cannot be read -/
  | misuse (stop : Stop)
  /-- there is no new file -/
  | nothingSelected
  /-- a directory cannot be searched or a file cannot be read -/
  | input (e : InputError)

/-- What standard error gets to see of it. Reading the arguments prints to streams of its own. -/
def Trouble.report : Trouble → String
  | misuse _ => ""
  | nothingSelected => "No new files selected for verification\n"
  | input e => s!"Analysis failed: {e.text}\n"

/-- **The first trouble of a run is with its input.** The order is that of the arguments, the
directories of new files, the choice of a new file, the old text, the new text and the new files. -/
inductive InputFails (d : Disk) (arguments : List String) : Trouble → Prop
  | misuse {stop : Stop} (h : Options.parse arguments = .error stop) :
      InputFails d arguments (.misuse stop)
  | discovery {o : Options} {named : List String} {e : InputError}
      (hparse : Options.parse arguments = .ok o) (hnamed : o.newFiles = named.map some)
      (h : DiscoveryFails d o.newDirs e) : InputFails d arguments (.input e)
  | nothingSelected {o : Options} (hparse : Options.parse arguments = .ok o)
      (hnamed : o.newFiles = []) (h : Finds d o.newDirs []) :
      InputFails d arguments .nothingSelected
  | reading {o : Options} {files : List Path} {before after : String} {e : InputError}
      (hparse : Options.parse arguments = .ok o) (hfiles : Selects d o files)
      (hbefore : o.before = some before) (hafter : o.after = some after)
      (h : ReadFails d (.ofString before :: .ofString after :: files) e) :
      InputFails d arguments (.input e)

/-! ## Reports of trouble -/

section Reports

variable {α β : Type}

/-- From a journal, a task ends the run with a report and leaves nothing else in the world. -/
def Reports (t : Task World Ending α) (j : Journal World) (message : String) : Prop :=
  outcome t j = .error .reported ∧
    (left t j).state = { j.state with stderr := j.state.stderr ++ message ++ "\n" }

theorem reports_fail (records : List Record) (message : String) (j : Journal World) :
    Reports (fail records message : Task World Ending α) j message :=
  ⟨rfl, rfl⟩

theorem Reports.bind {t : Task World Ending α} (h : Reports t j message)
    (f : α → Task World Ending β) : Reports (t >>= f) j message := by
  have hrun := run_bind_of_error (f := f) h.1
  refine ⟨congrArg Prod.fst hrun, ?_⟩
  rw [← h.2]
  exact congrArg (fun r => r.2.state) hrun

theorem Reports.after {t : Task World Ending α} {f : α → Task World Ending β} {a : α}
    (ha : outcome t j = .ok a) (ht : Observes t) (h : Reports (f a) (left t j) message) :
    Reports (t >>= f) j message := by
  refine ⟨outcome_bind_eq_error_iff.mpr (.inr ⟨a, ha, h.1⟩), ?_⟩
  rw [left_bind, ha, ← ht j a ha]
  exact h.2

/-- From a journal, a task fails for want of an input and leaves the world alone. -/
def Lacks (t : Task World Failure α) (j : Journal World) (e : InputError) : Prop :=
  outcome t j = .error (.input e) ∧ (left t j).state = j.state

theorem Lacks.bind {t : Task World Failure α} (h : Lacks t j e) (f : α → Task World Failure β) :
    Lacks (t >>= f) j e := by
  have hrun := run_bind_of_error (f := f) h.1
  exact ⟨congrArg Prod.fst hrun, (congrArg (fun r => r.2.state) hrun).trans h.2⟩

theorem Lacks.after {t : Task World Failure α} {f : α → Task World Failure β} {a : α}
    (ha : outcome t j = .ok a) (ht : Observes t) (h : Lacks (f a) (left t j) e) :
    Lacks (t >>= f) j e := by
  refine ⟨outcome_bind_eq_error_iff.mpr (.inr ⟨a, ha, h.1⟩), ?_⟩
  rw [left_bind, ha, ← ht j a ha]
  exact h.2

theorem Lacks.reports {t : Task World Failure α} (h : Lacks t j e) :
    Reports (t.rescue (endVerification o)) j s!"Analysis failed: {e.text}" := by
  rw [Reports, outcome_rescue, left_rescue, h.1, ← h.2]
  exact reports_fail [] _ _

end Reports

section Input

variable {d : Disk} {values : List Value} {paths files : List Path} {before after : Path}

theorem reports_discoverAll (h : DiscoveryFails d values e) (hdisk : j.state.disk = d) :
    Reports (discoverAll values) j s!"Analysis failed: {e.text}" := by
  induction h generalizing j with
  | @here text e h values =>
    apply Reports.bind
    refine .after (a := .ofString text) rfl (observes_pathOf _) ?_
    refine .after (a := j.state) rfl observes_current ?_
    rw [hdisk, h]
    exact reports_fail _ _ _
  | @later text survey values e h _ ih =>
    have hfound := (outcome_discoverIn_eq_ok_iff (j := j)).mpr ⟨text, survey, rfl, hdisk ▸ h, rfl⟩
    refine .after hfound (observes_discoverIn _) (.bind (ih ?_) _)
    rw [observes_discoverIn _ j _ hfound, hdisk]

theorem lacks_readInput {p : Path} {fault : ReadFault} (h : d.readText p = .error fault)
    (hfault : fault ≠ .disk .nullCharacter) :
    Lacks (readInput d p : Task World Failure String) j ⟨p, fault.message⟩ := by
  unfold readInput
  rw [h]
  split
  · next heq => cases heq
  · next heq =>
    cases heq
    exact absurd rfl hfault
  · next heq =>
    cases heq
    exact ⟨rfl, rfl⟩

theorem lacks_readInputs (h : ReadFails d paths e) :
    Lacks (readInputs d paths : Task World Failure (List SourceFile)) j e := by
  induction h generalizing j with
  | here h hfault paths => exact (lacks_readInput h hfault).bind _
  | later h _ ih =>
    exact .after (outcome_readInput_eq_ok_iff.mpr h) (observes_readInput d _) (ih.bind _)

theorem lacks_compared (h : ReadFails d (before :: after :: files) e) :
    Lacks (compared (Provider.ofDisk d before after files)) j e := by
  rcases h with ⟨hbefore, hfault, _⟩ | ⟨hbefore, ⟨hafter, hfault, _⟩ | ⟨hafter, hfiles⟩⟩
  · exact (lacks_readInput hbefore hfault).bind _
  · exact .after (outcome_readInput_eq_ok_iff.mpr hbefore) (observes_readInput d _)
      ((lacks_readInput hafter hfault).bind _)
  · exact .after (outcome_readInput_eq_ok_iff.mpr hbefore) (observes_readInput d _)
      (.after (outcome_readInput_eq_ok_iff.mpr hafter) (observes_readInput d _)
        ((lacks_readInputs hfiles).bind _))

end Input

/-- Gathering reports the first trouble that comes after the arguments. -/
theorem reports_gather {trouble : Trouble} (h : InputFails j.state.disk arguments trouble)
    (hparse : Options.parse arguments = .ok o) :
    ∃ message, trouble.report = message ++ "\n" ∧ Reports (gather o) j message := by
  cases h with
  | misuse hstop =>
    rw [hparse] at hstop
    cases hstop
  | @discovery o' named e hparse' hnamed h =>
    obtain rfl := Except.ok.inj (hparse.symm.trans hparse')
    have hpaths := (outcome_pathsOf_eq_ok_iff (j := j)).mpr ⟨named, hnamed, rfl⟩
    refine ⟨_, rfl, .bind (.after hpaths (observes_pathsOf _) (.bind ?_ _)) _⟩
    exact reports_discoverAll h (by rw [observes_pathsOf _ j _ hpaths])
  | nothingSelected hparse' hnamed h =>
    obtain rfl := Except.ok.inj (hparse.symm.trans hparse')
    refine ⟨"No new files selected for verification", rfl, .bind ?_ _⟩
    have hpaths := (outcome_pathsOf_eq_ok_iff (j := j)).mpr ⟨[], hnamed, rfl⟩
    refine .after hpaths (observes_pathsOf _) ?_
    have hfound := (outcome_discoverAll_eq_ok_iff (j := left (pathsOf o.newFiles) j)).mpr
      (by rwa [observes_pathsOf _ j _ hpaths])
    exact .after hfound (observes_discoverAll _) (reports_fail _ _ _)
  | @reading o' files before after e hparse' hfiles hbefore hafter h =>
    obtain rfl := Except.ok.inj (hparse.symm.trans hparse')
    have hselected := outcome_selectFiles_eq_ok_iff.mpr hfiles
    refine ⟨_, rfl, .after hselected (observes_selectFiles o) ?_⟩
    rw [hbefore, hafter]
    refine .after (a := .ofString before) rfl (observes_pathOf _) ?_
    refine .after (a := .ofString after) rfl (observes_pathOf _) ?_
    refine .after rfl observes_current (lacks_compared ?_).reports
    change ReadFails (left (selectFiles o) j).state.disk _ _
    rwa [observes_selectFiles o j _ hselected]

/-! ## A failure of the input leaves no trace -/

/-- The run that does a task for given options. -/
def runOf (session : Session) (refusal : Option String) (o : Options)
    (t : Task World Ending ExitCode) : Run :=
  let threshold := if o.verbose then .debug else session.threshold
  let (outcome, journal) := t.start { disk := session.disk, refusal }
  { outcome := outcomeOf outcome
    stdout := journal.state.stdout
    stderr := journal.state.stderr
    help := ""
    misuse := ""
    records := journal.records.filter (·.passes threshold)
    session := { session with disk := journal.state.disk } }

theorem run_eq_runOf (hparse : Options.parse arguments = .ok o) :
    run session refusal arguments = runOf session refusal o (gather o >>= deliver o) := by
  rw [run, hparse, ← perform_eq_gather, runOf]
  dsimp only
  cases o.verbose with
  | true => rfl
  | false => rfl

/-- Trouble that is reported while gathering is all there is to a run. -/
theorem runOf_of_reports (h : Reports (gather o) (session.journal refusal) message)
    (deliver : Comparison → Task World Ending ExitCode) :
    runOf session refusal o (gather o >>= deliver) =
      ⟨.ok .usage, "", message ++ "\n", "", "",
        (left (gather o) (session.journal refusal)).records.filter
          (·.passes (if o.verbose then .debug else session.threshold)), session⟩ := by
  have hstart : (gather o >>= deliver).start { disk := session.disk, refusal } =
      (.error .reported, left (gather o) (session.journal refusal)) :=
    run_bind_of_error h.1
  simp only [runOf, hstart, h.2]
  simp [outcomeOf, Session.journal]

/-- **A failure of the input leaves no trace.** If the first trouble of a run is with its input, the
exit code is that for misuse, nothing goes to standard output, standard error gets the report of
that trouble and nothing else, and disk and log level stay as they were. Nothing is delivered: the
run is the same whatever would be done with a comparison. -/
theorem run_of_inputFails (session : Session) (refusal : Option String) (arguments : List String)
    {trouble : Trouble} (h : InputFails session.disk arguments trouble) :
    (∃ code, (run session refusal arguments).outcome = .ok code ∧ code.toNat = 2) ∧
      (run session refusal arguments).stdout = "" ∧
      (run session refusal arguments).stderr = trouble.report ∧
      (run session refusal arguments).session = session ∧
      ∀ o, Options.parse arguments = .ok o → ∀ deliver : Comparison → Task World Ending ExitCode,
        runOf session refusal o (gather o >>= deliver) = run session refusal arguments := by
  cases hparse : Options.parse arguments with
  | error stop =>
    cases h with
    | misuse hstop =>
      rw [run, hparse]
      refine ⟨⟨.usage, rfl, rfl⟩, rfl, rfl, rfl, ?_⟩
      intro o hread
      cases hread
    | discovery hparse' => cases hparse.symm.trans hparse'
    | nothingSelected hparse' => cases hparse.symm.trans hparse'
    | reading hparse' => cases hparse.symm.trans hparse'
  | ok o =>
    obtain ⟨message, hreport, hreports⟩ :=
      reports_gather (j := session.journal refusal) h hparse
    rw [run_eq_runOf hparse, runOf_of_reports hreports, hreport]
    refine ⟨⟨.usage, rfl, rfl⟩, rfl, rfl, rfl, ?_⟩
    rintro o' ⟨⟩ deliver'
    exact runOf_of_reports hreports deliver'

/-! ## A new file that is no text -/

/-- A disk with a new file whose only byte starts no character. -/
def diskWithBadFile : Disk :=
  ⟨[], [(["a.js"], .file []), (["b.js"], .file []), (["n.js"], .file [0xff])], []⟩

/-- Arguments that ask for all reports. -/
def allReportsArguments : List String :=
  ["--original", "a.js", "--refactored", "b.js", "--new-file", "b.js", "--new-file", "n.js",
    "--format", "json", "--output", "out/r.json", "--html", "out/r.html"]

/-- Reading fails at the last file, and neither report nor its directory comes to be. -/
theorem run_of_inputFails_bad_file :
    InputFails diskWithBadFile allReportsArguments (.input ⟨.ofString "n.js",
        "'utf-8' codec can't decode byte 0xff in position 0: invalid start byte"⟩) ∧
      (run ⟨diskWithBadFile, .info⟩ none allReportsArguments).session.disk = diskWithBadFile := by
  have hparse : Options.parse allReportsArguments = .ok
      { before := some "a.js", after := some "b.js", newFiles := [some "b.js", some "n.js"],
        newDirs := [], format := .json, output := some "out/r.json", html := some "out/r.html",
        verbose := false } := by decide
  have hempty {p : Path} {paths : List Path} {e : InputError}
      (h : diskWithBadFile.readText p = .ok "") (hrest : ReadFails diskWithBadFile paths e) :
      ReadFails diskWithBadFile (p :: paths) e := .later h hrest
  have hfault : diskWithBadFile.readText (.ofString "n.js") =
      .error (.encoding ⟨0, [0xff], .invalidStart⟩) := by decide
  have hfails : InputFails diskWithBadFile allReportsArguments (.input ⟨.ofString "n.js",
      "'utf-8' codec can't decode byte 0xff in position 0: invalid start byte"⟩) :=
    .reading hparse ⟨["b.js", "n.js"], [], rfl, .nil, rfl, by decide⟩ rfl rfl (hempty (by decide)
      (hempty (by decide) (hempty (by decide) (.here hfault (by decide) []))))
  exact ⟨hfails, congrArg Session.disk (run_of_inputFails ⟨_, .info⟩ none _ hfails).2.2.2.1⟩

end Relocation.Command
