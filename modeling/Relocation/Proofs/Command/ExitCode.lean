import Relocation.Proofs.Command.Phases
import Relocation.Proofs.Ignore.Containment

/-!
# Exit codes

A run ends with an exit code unless it comes upon something that nobody takes care of. This module
tells exactly when that is.

* `Command.Aborts` — the run meets such a thing, after steps without trouble,
* `Command.Succeeds` — no step of the run meets any trouble,
* `Command.Fit` — a simple condition on arguments and disk that rules out the former,
* `Command.exists_exitCode_iff` — **a run has an exit code exactly if it does not abort**, the
  codes other than that for misuse stand for success, and a run that is fit has a code.
-/

namespace Relocation.Command

open Relocation.Task

variable {d : Disk} {refusal : Option String} {o : Options} {c : Comparison} {a : Abort}

/-- All texts of a run can be had, and this is their comparison. -/
def Reaches (d : Disk) (o : Options) (c : Comparison) : Prop :=
  ∃ files before after, Selects d o files ∧ o.before = some before ∧ o.after = some after ∧
    Compares d (.ofString before) (.ofString after) files c

/-- The report is given out. -/
def Presents (d : Disk) (refusal : Option String) (o : Options) (c : Comparison) : Prop :=
  (reported d o c).2 = .ok () ∧ (reportFile? o = none → refusal = none)

/-- What becomes of the attempt to write the HTML report into a file, after the other report. -/
def pageOutcome (d : Disk) (o : Options) (c : Comparison) (output : String) : Except Fault Unit :=
  ((reported d o c).1.writeReport (.ofString output) (Utf8.encode (htmlReport c).toList)).2

/-- **A run that nobody takes care of**: the first step that meets trouble is one of these. -/
inductive Aborts (d : Disk) (refusal : Option String) (o : Options) : Abort → Prop
  /-- a new file is not named -/
  | newFile (h : none ∈ o.newFiles) : Aborts d refusal o .noPath
  /-- something is wrong with a directory of new files -/
  | newDir {named : List String} {a : Abort} (hnamed : o.newFiles = named.map some)
      (h : DiscoveryAborts d o.newDirs a) : Aborts d refusal o a
  /-- the file before or after the refactor is not named -/
  | input {files : List Path} (hfiles : Selects d o files)
      (h : o.before = none ∨ o.after = none) : Aborts d refusal o .noPath
  /-- the path of a file that is to be read holds a null character -/
  | null {files : List Path} {before after : String} (hfiles : Selects d o files)
      (hbefore : o.before = some before) (hafter : o.after = some after)
      (h : NullMet d (.ofString before :: .ofString after :: files)) :
      Aborts d refusal o (.fault .nullCharacter)
  /-- the report cannot be written, and the system did not even refuse -/
  | report {c : Comparison} {fault : Fault} (hc : Reaches d o c)
      (h : (reported d o c).2 = .error fault) (hescapes : fault.escapes = true) :
      Aborts d refusal o (.fault fault)
  /-- the same for the HTML report -/
  | page {c : Comparison} {output : String} {fault : Fault} (hc : Reaches d o c)
      (hpresented : Presents d refusal o c) (hhtml : requested o.html = some output)
      (h : pageOutcome d o c output = .error fault) (hescapes : fault.escapes = true) :
      Aborts d refusal o (.fault fault)

/-- A run without any trouble. -/
def Succeeds (d : Disk) (refusal : Option String) (o : Options) (c : Comparison) : Prop :=
  Reaches d o c ∧ Presents d refusal o c ∧
    ∀ output, requested o.html = some output → pageOutcome d o c output = .ok ()

/-! ## Verification -/

section Verification

variable {j : Journal World} {before after : Path} {files : List Path}

theorem outcome_endVerification_ne_ok {α : Type} {failure : Failure} {x : α} :
    outcome (endVerification o failure : Task World Ending α) j ≠ .ok x := by
  cases failure with
  | input e => exact nofun
  | report message => exact nofun
  | abort a => exact nofun

theorem outcome_endVerification_eq_aborted_iff {α : Type} {failure : Failure} :
    outcome (endVerification o failure : Task World Ending α) j = .error (.aborted a) ↔
      failure = .abort a := by
  cases failure with
  | input e => exact ⟨nofun, nofun⟩
  | report message => exact ⟨nofun, nofun⟩
  | abort a' => simp [endVerification]

/-- The verification of a run. -/
def verification (d : Disk) (before after : Path) (files : List Path) (o : Options) :
    Task World Ending Comparison :=
  (verify (Provider.ofDisk d before after files) (present o)).rescue (endVerification o)

theorem outcome_verification_eq_ok_iff :
    outcome (verification d before after files o) j = .ok c ↔
      Compares d before after files c ∧ Presents j.state.disk j.state.refusal o c := by
  rw [verification, outcome_rescue_eq_ok_iff, verify_eq]
  simp only [outcome_endVerification_ne_ok, and_false, exists_false, or_false,
    outcome_bind_eq_ok_iff, outcome_compared_eq_ok_iff, outcome_present_eq_ok_iff,
    disk_left keeps_compared, refusal_left keeps_compared, outcome_pure, Except.ok.injEq]
  constructor
  · rintro ⟨_, hc, _, hpresents, rfl⟩
    exact ⟨hc, hpresents⟩
  · rintro ⟨hc, hpresents⟩
    exact ⟨c, hc, (), hpresents, rfl⟩

theorem outcome_verification_eq_aborted_iff :
    outcome (verification d before after files o) j = .error (.aborted a) ↔
      NullMet d (before :: after :: files) ∧ a = .fault .nullCharacter ∨
        ∃ c fault, Compares d before after files c ∧
          (reported j.state.disk o c).2 = .error fault ∧ fault.escapes = true ∧
          a = .fault fault := by
  rw [verification, outcome_rescue_eq_error_iff, verify_eq]
  simp only [outcome_endVerification_eq_aborted_iff, exists_eq_right, outcome_bind_eq_error_iff,
    outcome_compared_eq_ok_iff, outcome_compared_eq_abort_iff, outcome_present_eq_abort_iff,
    disk_left keeps_compared, outcome_pure, reduceCtorEq, and_false, exists_false, or_false,
    exists_and_left]

/-- A verification that goes well leaves its report and nothing else on the disk. -/
theorem disk_left_verification (h : outcome (verification d before after files o) j = .ok c) :
    (left (verification d before after files o) j).state.disk = (reported j.state.disk o c).1 := by
  have hcompares :=
    (outcome_compared_eq_ok_iff (j := j)).mpr (outcome_verification_eq_ok_iff.mp h).1
  rw [verification, outcome_rescue_eq_ok_iff] at h
  have hverify : outcome (verify (Provider.ofDisk d before after files) (present o)) j = .ok c :=
    h.resolve_right fun ⟨_, _, hok⟩ => outcome_endVerification_ne_ok hok
  rw [verification, left_rescue, hverify, verify_eq, left_bind, hcompares]
  dsimp only
  rw [disk_left_bind fun _ => keeps_pure _, disk_left_present, disk_left keeps_compared]

end Verification

/-! ## The run -/

/-- The exit code for a comparison. -/
def codeOf (c : Comparison) : ExitCode :=
  if c.passed then .passed else .failed

/-- The last step of a run. -/
def finish (o : Options) (c : Comparison) : Task World Ending ExitCode :=
  match requested o.html with
  | some output => do
    writeHtml output c
    return codeOf c
  | none => return codeOf c

/-- The part of a run that comes after the choice of its files. -/
def conclude (d : Disk) (before after : Path) (files : List Path) (o : Options) :
    Task World Ending ExitCode := do
  let c ← verification d before after files o
  finish o c

theorem perform_eq (o : Options) :
    perform o = selectFiles o >>= fun files => pathOf o.before >>= fun before =>
      pathOf o.after >>= fun after => Task.current >>= fun w =>
        conclude w.disk before after files o := by
  refine bind_congr fun files => bind_congr fun before => bind_congr fun after =>
    bind_congr fun w => bind_congr fun c => ?_
  unfold finish
  cases requested o.html with
  | some output => rfl
  | none => rfl

section Conclusion

variable {j : Journal World} {before after : Path} {files : List Path} {code : ExitCode}

theorem outcome_finish_eq_aborted_iff (hdisk : j.state.disk = (reported d o c).1) :
    outcome (finish o c) j = .error (.aborted a) ↔
      ∃ output fault, requested o.html = some output ∧ pageOutcome d o c output = .error fault ∧
        fault.escapes = true ∧ a = .fault fault := by
  unfold finish
  cases hhtml : requested o.html with
  | some output =>
    simp only [outcome_bind_eq_error_iff, outcome_writeHtml_eq_aborted_iff, outcome_pure, hdisk,
      reduceCtorEq, and_false, exists_false, or_false, Option.some.injEq]
    simp [pageOutcome]
  | none => simp

theorem outcome_finish_eq_ok_iff (hdisk : j.state.disk = (reported d o c).1) :
    outcome (finish o c) j = .ok code ↔
      (∀ output, requested o.html = some output → pageOutcome d o c output = .ok ()) ∧
        code = codeOf c := by
  unfold finish
  cases hhtml : requested o.html with
  | some output =>
    simp only [outcome_bind_eq_ok_iff, outcome_writeHtml_eq_ok_iff, outcome_pure, hdisk,
      Option.some.injEq]
    simp [pageOutcome, eq_comm]
  | none => simp [eq_comm]

theorem outcome_conclude_eq_aborted_iff (hdisk : j.state.disk = d) :
    outcome (conclude d before after files o) j = .error (.aborted a) ↔
      NullMet d (before :: after :: files) ∧ a = .fault .nullCharacter ∨
        ∃ c fault, Compares d before after files c ∧ fault.escapes = true ∧ a = .fault fault ∧
          ((reported d o c).2 = .error fault ∨ Presents d j.state.refusal o c ∧
            ∃ output, requested o.html = some output ∧
              pageOutcome d o c output = .error fault) := by
  rw [conclude, outcome_bind_eq_error_iff, outcome_verification_eq_aborted_iff, hdisk]
  -- the HTML report meets the disk that the verification leaves, which depends on its success
  constructor
  · rintro ((⟨hnull, rfl⟩ | ⟨c, fault, hc, hreport, hescapes, rfl⟩) | ⟨c, hverified, hfinish⟩)
    · exact .inl ⟨hnull, rfl⟩
    · exact .inr ⟨c, fault, hc, hescapes, rfl, .inl hreport⟩
    · rw [outcome_finish_eq_aborted_iff (disk_left_verification hverified), hdisk] at hfinish
      obtain ⟨output, fault, hhtml, hpage, hescapes, rfl⟩ := hfinish
      obtain ⟨hc, hpresents⟩ := outcome_verification_eq_ok_iff.mp hverified
      rw [hdisk] at hpresents
      exact .inr ⟨c, fault, hc, hescapes, rfl, .inr ⟨hpresents, output, hhtml, hpage⟩⟩
  · rintro (⟨hnull, rfl⟩ | ⟨c, fault, hc, hescapes, rfl, hreport |
      ⟨hpresents, output, hhtml, hpage⟩⟩)
    · exact .inl (.inl ⟨hnull, rfl⟩)
    · exact .inl (.inr ⟨c, fault, hc, hreport, hescapes, rfl⟩)
    · have hverified : outcome (verification d before after files o) j = .ok c :=
        outcome_verification_eq_ok_iff.mpr ⟨hc, by rwa [hdisk]⟩
      refine .inr ⟨c, hverified, ?_⟩
      rw [outcome_finish_eq_aborted_iff (disk_left_verification hverified), hdisk]
      exact ⟨output, fault, hhtml, hpage, hescapes, rfl⟩

theorem outcome_conclude_eq_ok_iff (hdisk : j.state.disk = d) :
    outcome (conclude d before after files o) j = .ok code ↔
      ∃ c, Compares d before after files c ∧ Presents d j.state.refusal o c ∧
        (∀ output, requested o.html = some output → pageOutcome d o c output = .ok ()) ∧
        code = codeOf c := by
  rw [conclude, outcome_bind_eq_ok_iff]
  refine exists_congr fun c => ?_
  constructor
  · rintro ⟨hverified, hfinish⟩
    rw [outcome_finish_eq_ok_iff (disk_left_verification hverified), hdisk] at hfinish
    obtain ⟨hc, hpresents⟩ := outcome_verification_eq_ok_iff.mp hverified
    rw [hdisk] at hpresents
    exact ⟨hc, hpresents, hfinish⟩
  · rintro ⟨hc, hpresents, hfinish⟩
    have hverified : outcome (verification d before after files o) j = .ok c :=
      outcome_verification_eq_ok_iff.mpr ⟨hc, by rwa [hdisk]⟩
    refine ⟨hverified, ?_⟩
    rwa [outcome_finish_eq_ok_iff (disk_left_verification hverified), hdisk]

/-- **A run without an exit code**, step by step. -/
theorem outcome_perform_eq_aborted_iff :
    outcome (perform o) j = .error (.aborted a) ↔
      Aborts j.state.disk j.state.refusal o a := by
  simp only [perform_eq, outcome_bind_eq_error_iff, outcome_selectFiles_eq_aborted_iff,
    outcome_selectFiles_eq_ok_iff, outcome_pathOf_eq_aborted_iff, outcome_pathOf_eq_ok_iff,
    outcome_current, left_current, reduceCtorEq, false_or, Except.ok.injEq, exists_eq_left',
    outcome_conclude_eq_aborted_iff, disk_left (keeps_selectFiles o), disk_left (keeps_pathOf _),
    refusal_left (keeps_selectFiles o), refusal_left (keeps_pathOf _)]
  constructor
  · rintro ((⟨hnone, rfl⟩ | ⟨named, hnamed, h⟩) | ⟨files, hfiles, ⟨hnone, rfl⟩ |
      ⟨_, ⟨before, hbefore, rfl⟩, ⟨hnone, rfl⟩ | ⟨_, ⟨after, hafter, rfl⟩, ⟨hnull, rfl⟩ |
        ⟨c, fault, hc, hescapes, rfl, hreport | ⟨hpresents, output, hhtml, hpage⟩⟩⟩⟩⟩)
    · exact .newFile hnone
    · exact .newDir hnamed h
    · exact .input hfiles (.inl hnone)
    · exact .input hfiles (.inr hnone)
    · exact .null hfiles hbefore hafter hnull
    · exact .report ⟨files, before, after, hfiles, hbefore, hafter, hc⟩ hreport hescapes
    · exact .page ⟨files, before, after, hfiles, hbefore, hafter, hc⟩ hpresents hhtml hpage
        hescapes
  · rintro (hnone | ⟨hnamed, h⟩ | ⟨hfiles, hnone⟩ | ⟨hfiles, hbefore, hafter, hnull⟩ |
      ⟨⟨files, before, after, hfiles, hbefore, hafter, hc⟩, hreport, hescapes⟩ |
      ⟨⟨files, before, after, hfiles, hbefore, hafter, hc⟩, hpresents, hhtml, hpage, hescapes⟩)
    · exact .inl (.inl ⟨hnone, rfl⟩)
    · exact .inl (.inr ⟨_, hnamed, h⟩)
    · refine .inr ⟨_, hfiles, ?_⟩
      cases hbefore : o.before with
      | none => exact .inl ⟨rfl, rfl⟩
      | some before =>
        have hafter := hnone.resolve_left (by simp [hbefore])
        exact .inr ⟨_, ⟨before, rfl, rfl⟩, .inl ⟨hafter, rfl⟩⟩
    · exact .inr ⟨_, hfiles, .inr ⟨_, ⟨_, hbefore, rfl⟩, .inr ⟨_, ⟨_, hafter, rfl⟩,
        .inl ⟨hnull, rfl⟩⟩⟩⟩
    · exact .inr ⟨_, hfiles, .inr ⟨_, ⟨_, hbefore, rfl⟩, .inr ⟨_, ⟨_, hafter, rfl⟩,
        .inr ⟨_, _, hc, hescapes, rfl, .inl hreport⟩⟩⟩⟩
    · exact .inr ⟨_, hfiles, .inr ⟨_, ⟨_, hbefore, rfl⟩, .inr ⟨_, ⟨_, hafter, rfl⟩,
        .inr ⟨_, _, hc, hescapes, rfl, .inr ⟨hpresents, _, hhtml, hpage⟩⟩⟩⟩⟩

/-- **A run that goes well**, step by step. -/
theorem outcome_perform_eq_ok_iff :
    outcome (perform o) j = .ok code ↔
      ∃ c, Succeeds j.state.disk j.state.refusal o c ∧ code = codeOf c := by
  simp only [perform_eq, outcome_bind_eq_ok_iff, outcome_selectFiles_eq_ok_iff,
    outcome_pathOf_eq_ok_iff, outcome_current, left_current, Except.ok.injEq, exists_eq_left',
    outcome_conclude_eq_ok_iff, disk_left (keeps_selectFiles o), disk_left (keeps_pathOf _),
    refusal_left (keeps_selectFiles o), refusal_left (keeps_pathOf _)]
  constructor
  · rintro ⟨files, hfiles, _, ⟨before, hbefore, rfl⟩, _, ⟨after, hafter, rfl⟩, c, hc, hpresents,
      hpage, hcode⟩
    exact ⟨c, ⟨⟨files, before, after, hfiles, hbefore, hafter, hc⟩, hpresents, hpage⟩, hcode⟩
  · rintro ⟨c, ⟨⟨files, before, after, hfiles, hbefore, hafter, hc⟩, hpresents, hpage⟩, hcode⟩
    exact ⟨files, hfiles, _, ⟨before, hbefore, rfl⟩, _, ⟨after, hafter, rfl⟩, c, hc, hpresents,
      hpage, hcode⟩

end Conclusion

/-! ## The outcome of a run -/

section Run

variable {session : Session} {arguments : List String}

/-- The journal that a run starts from. -/
def Session.journal (session : Session) (refusal : Option String) : Journal World :=
  ⟨{ disk := session.disk, refusal }, []⟩

theorem outcome_run_of_parse (h : Options.parse arguments = .ok o) :
    (run session refusal arguments).outcome =
      outcomeOf (outcome (perform o) (session.journal refusal)) := by
  rw [run, h]
  dsimp only
  split
  · rfl
  · rfl

theorem outcome_run_of_stop {stop : Stop} (h : Options.parse arguments = .error stop) :
    (run session refusal arguments).outcome = .ok .usage := by
  rw [run, h]
  rfl

theorem outcome_run_eq_error_iff :
    (run session refusal arguments).outcome = .error a ↔
      ∃ o, Options.parse arguments = .ok o ∧ Aborts session.disk refusal o a := by
  cases hparse : Options.parse arguments with
  | error stop => simp [outcome_run_of_stop hparse]
  | ok o =>
    have haborts : outcome (perform o) (session.journal refusal) = .error (.aborted a) ↔
        Aborts session.disk refusal o a := outcome_perform_eq_aborted_iff
    simp only [outcome_run_of_parse hparse, Except.ok.injEq, exists_eq_left', ← haborts]
    -- a run that was reported has an exit code all the same
    rcases outcome (perform o) (session.journal refusal) with (_ | a') | code
    · simp [outcomeOf]
    · simp [outcomeOf]
    · simp [outcomeOf]

theorem outcome_run_eq_ok_iff {code : ExitCode} (hcode : code ≠ .usage) :
    (run session refusal arguments).outcome = .ok code ↔
      ∃ o c, Options.parse arguments = .ok o ∧ Succeeds session.disk refusal o c ∧
        code = codeOf c := by
  cases hparse : Options.parse arguments with
  | error stop => simp [outcome_run_of_stop hparse, Ne.symm hcode]
  | ok o =>
    have hsucceeds : outcome (perform o) (session.journal refusal) = .ok code ↔
        ∃ c, Succeeds session.disk refusal o c ∧ code = codeOf c := outcome_perform_eq_ok_iff
    simp only [outcome_run_of_parse hparse, Except.ok.injEq, exists_and_left, exists_eq_left',
      ← hsucceeds]
    rcases outcome (perform o) (session.journal refusal) with (_ | a') | code'
    · simp [outcomeOf, Ne.symm hcode]
    · simp [outcomeOf]
    · simp [outcomeOf]

end Run

/-! ## Arguments and disks that are fit -/

/-- Arguments and a disk with which no run aborts. -/
structure Fit (d : Disk) (o : Options) : Prop where
  /-- whatever is read or searched is named -/
  named : ∀ value ∈ o.before :: o.after :: (o.newFiles ++ o.newDirs), value ≠ none
  /-- no path that is read holds a null character, and no name on the disk does -/
  inputs : ∀ text, some text ∈ o.before :: o.after :: o.newFiles →
    Disk.hasNull (.ofString text) = false
  names : ∀ entry ∈ d.entries, ∀ name ∈ entry.1, '\x00' ∉ name.toList
  /-- no directory has a path or a name in it that is too long -/
  short : ∀ text, some text ∈ o.newDirs → ¬Disk.TooLong (.ofString text)
  /-- no line of their ignore files is refused -/
  lines : ∀ text place lines, some text ∈ o.newDirs →
    d.folder? (.ofString text) = .ok (some place) →
    ignoreLines d (.ofString text) place = .ok lines →
    ∀ line ∈ lines, ∃ rule, Ignore.Rule.compile line = .ok rule
  /-- no report goes to a path with a null character or with very many names -/
  outputs : ∀ text, reportFile? o = some text ∨ requested o.html = some text →
    Disk.hasNull (.ofString text) = false ∧
      (Path.ofString text).segments.length ≤ Disk.longestChain

theorem exists_of_discoveryAborts {values : List Value} (h : DiscoveryAborts d values a) :
    none ∈ values ∨ ∃ text, some text ∈ values ∧
      ((∃ fault, d.folder? (.ofString text) = .error fault) ∨
        ∃ place lines fault, d.folder? (.ofString text) = .ok (some place) ∧
          ignoreLines d (.ofString text) place = .ok lines ∧
          Ignore.compileAll lines = .error fault) := by
  induction h with
  | noPath values => exact .inl List.mem_cons_self
  | folder h values => exact .inr ⟨_, List.mem_cons_self, .inl ⟨_, h⟩⟩
  | rule hfolder hlines h values =>
    exact .inr ⟨_, List.mem_cons_self, .inr ⟨_, _, _, hfolder, hlines, h⟩⟩
  | later h hrest ih =>
    refine ih.imp (List.mem_cons_of_mem _) ?_
    rintro ⟨text, hmem, hcause⟩
    exact ⟨text, List.mem_cons_of_mem _ hmem, hcause⟩

theorem Fit.not_discoveryAborts (h : Fit d o) : ¬DiscoveryAborts d o.newDirs a := by
  intro haborts
  obtain hnone | ⟨text, hmem, ⟨fault, hfolder⟩ |
      ⟨place, lines, fault, hfolder, hlines, hcompile⟩⟩ :=
    exists_of_discoveryAborts haborts
  · exact h.named none (by simp [hnone]) rfl
  · exact h.short text hmem (Disk.tooLong_of_folder? hfolder).1
  · have hrules :=
      Ignore.compileAll_eq_ok_iff.mpr ⟨h.lines text place lines hmem hfolder hlines, rfl⟩
    rw [hcompile] at hrules
    cases hrules

theorem Fit.hasNull_of_finds (h : Fit d o) {values : List Value} {found : List Path}
    (hfinds : Finds d values found) : ∀ p ∈ found, Disk.hasNull p = false := by
  induction hfinds with
  | nil => exact nofun
  | cons hsurvey hrest ih =>
    refine List.forall_mem_append.mpr ⟨?_, ih⟩
    intro p hp
    obtain ⟨names, hnames, rfl⟩ := List.mem_map.mp hp
    obtain ⟨place, lines, rules, hfolder, -, -, hlevels⟩ := discover_eq_ok_iff.mp hsurvey
    obtain ⟨hroot, -, -⟩ := Disk.folder?_eq_some_iff.mp hfolder
    obtain ⟨entry, hentry⟩ := Walk.mem_entries_of_mem_found hlevels hnames
    unfold Disk.hasNull at hroot
    simp only [Disk.hasNull, Path.join, List.any_append, hroot, Bool.false_or,
      List.any_eq_false, List.contains_iff_mem]
    exact fun name hname => h.names _ hentry name (List.mem_append_right place hname)

theorem Fit.not_nullMet (h : Fit d o) {files : List Path} {before after : String}
    (hfiles : Selects d o files) (hbefore : o.before = some before)
    (hafter : o.after = some after) :
    ¬NullMet d (.ofString before :: .ofString after :: files) := by
  rintro ⟨done, p, rest, hsplit, -, hnull⟩
  have hp : p ∈ Path.ofString before :: Path.ofString after :: files := by simp [hsplit]
  obtain ⟨named, found, hnamed, hfound, rfl, -⟩ := hfiles
  have hclear : Disk.hasNull p = false := by
    rcases List.mem_cons.mp hp with rfl | hp
    · exact h.inputs before (by simp [hbefore])
    rcases List.mem_cons.mp hp with rfl | hp
    · exact h.inputs after (by simp [hafter])
    rcases List.mem_append.mp hp with hp | hp
    · obtain ⟨text, htext, rfl⟩ := List.mem_map.mp hp
      exact h.inputs text (by simp [hnamed, htext])
    · exact h.hasNull_of_finds hfound p hp
  rw [hclear] at hnull
  cases hnull

/-- A report to a path that is fit is written or refused. -/
theorem Fit.not_escapes (h : Fit d o) {text : String} {d' : Disk} {bytes : List UInt8}
    {fault : Fault} (htext : reportFile? o = some text ∨ requested o.html = some text)
    (hwrite : (d'.writeReport (.ofString text) bytes).2 = .error fault) :
    fault.escapes = false := by
  obtain ⟨hnull, hlength⟩ := h.outputs text htext
  rw [← Bool.not_eq_true]
  intro hescapes
  rcases Disk.escapes_of_writeReport hwrite hescapes with hnull' | hlength'
  · rw [hnull] at hnull'
    cases hnull'
  · omega

/-- **Arguments and a disk that are fit** leave nothing to abort on. -/
theorem Fit.not_aborts (h : Fit d o) : ¬Aborts d refusal o a := by
  rintro (hnone | ⟨-, hdirs⟩ | ⟨-, hnone | hnone⟩ | ⟨hfiles, hbefore, hafter, hnull⟩ |
    ⟨-, hreport, hescapes⟩ | ⟨-, -, hhtml, hpage, hescapes⟩)
  · exact h.named none (by simp [hnone]) rfl
  · exact h.not_discoveryAborts hdirs
  · exact h.named none (by simp [hnone]) rfl
  · exact h.named none (by simp [hnone]) rfl
  · exact h.not_nullMet hfiles hbefore hafter hnull
  · unfold reported at hreport
    split at hreport
    · next output houtput =>
      rw [h.not_escapes (.inl houtput) hreport] at hescapes
      cases hescapes
    · cases hreport
  · rw [h.not_escapes (.inr hhtml) hpage] at hescapes
    cases hescapes

theorem toNat_mem (code : ExitCode) : code.toNat ∈ [0, 1, 2] := by
  cases code <;> decide

/-- **A run has an exit code exactly if it does not abort.** The codes other than that for misuse
stand for runs without any trouble, so that all trouble that does not abort the run gives that
code. A run that is fit does not abort. -/
theorem exists_exitCode_iff (session : Session) (refusal : Option String)
    (arguments : List String) :
    ((∃ code, (run session refusal arguments).outcome = .ok code ∧ code.toNat ∈ [0, 1, 2]) ↔
        ∀ o, Options.parse arguments = .ok o → ∀ a, ¬Aborts session.disk refusal o a) ∧
      (∀ code ≠ .usage, (run session refusal arguments).outcome = .ok code ↔
        ∃ o c, Options.parse arguments = .ok o ∧ Succeeds session.disk refusal o c ∧
          code = codeOf c) ∧
      ((∀ o, Options.parse arguments = .ok o → Fit session.disk o) →
        ∃ code, (run session refusal arguments).outcome = .ok code ∧
          code.toNat ∈ [0, 1, 2]) := by
  have hcode : (∃ code, (run session refusal arguments).outcome = .ok code ∧
      code.toNat ∈ [0, 1, 2]) ↔
      ∀ o, Options.parse arguments = .ok o → ∀ a, ¬Aborts session.disk refusal o a := by
    constructor
    · rintro ⟨code, hok, -⟩ o hparse a haborts
      have herror := outcome_run_eq_error_iff.mpr ⟨o, hparse, haborts⟩
      rw [hok] at herror
      cases herror
    · intro hnot
      cases houtcome : (run session refusal arguments).outcome with
      | ok code => exact ⟨code, rfl, toNat_mem code⟩
      | error a =>
        obtain ⟨o, hparse, haborts⟩ := outcome_run_eq_error_iff.mp houtcome
        exact absurd haborts (hnot o hparse a)
  exact ⟨hcode, fun _ => outcome_run_eq_ok_iff,
    fun hfit => hcode.mpr fun o hparse _ => (hfit o hparse).not_aborts⟩

/-! ## A directory of new files -/

/-- Two empty files and an empty directory of new files, whose ignore file has one line. -/
def treeIgnoring (line : String) : Disk :=
  ⟨[], [(["a.js"], .file []), (["b.js"], .file []), (["new"], .folder),
    (["new", ".gitignore"], .file (Utf8.encode (line.toList ++ ['\n'])))], []⟩

/-- Arguments for it. -/
def newDirArguments : List String :=
  ["--original", "a.js", "--refactored", "b.js", "--new-dir", "new"]

/-- The same, read. -/
def newDirOptions : Options :=
  { before := some "a.js", after := some "b.js", newFiles := [], newDirs := [some "new"],
    format := .table, output := none, html := none, verbose := false }

theorem parse_newDirArguments : Options.parse newDirArguments = .ok newDirOptions := by
  decide

theorem ignoreFiles_treeIgnoring (line : String) :
    ignoreFiles (treeIgnoring line) ["new"] =
      [([".gitignore"], .file (Utf8.encode (line.toList ++ ['\n'])))] := by
  exact List.mergeSort_singleton _

/-- An ignore file with ordinary lines does no harm. -/
theorem exists_exitCode_of_log_files :
    ∃ code, (run ⟨treeIgnoring "*.log", .info⟩ none newDirArguments).outcome = .ok code ∧
      code.toNat ∈ [0, 1, 2] := by
  refine (exists_exitCode_iff ⟨treeIgnoring "*.log", .info⟩ none newDirArguments).2.2 ?_
  intro o hparse
  rw [parse_newDirArguments] at hparse
  cases hparse
  have hlines : ignoreLines (treeIgnoring "*.log") (.ofString "new") ["new"] =
      .ok ["*.log".toList] := by
    rw [ignoreLines, ignoreFiles_treeIgnoring]
    decide
  have hfolder : (treeIgnoring "*.log").folder? (.ofString "new") = .ok (some ["new"]) := by decide
  exact {
    named := by decide
    inputs := by
      intro text htext
      have hnames : text = "a.js" ∨ text = "b.js" := by simpa [newDirOptions] using htext
      rcases hnames with rfl | rfl
      · decide
      · decide
    names := by decide
    short := by
      intro text htext
      obtain rfl : text = "new" := by simpa [newDirOptions] using htext
      unfold Disk.TooLong
      decide
    lines := by
      intro text place lines htext hplace hread
      obtain rfl : text = "new" := by simpa [newDirOptions] using htext
      rw [hfolder] at hplace
      cases hplace
      rw [hlines] at hread
      cases hread
      rw [List.forall_mem_singleton]
      exact ⟨_, rfl⟩
    outputs := by
      intro text htext
      rcases htext with htext | htext
      · cases htext
      · cases htext }

/-- **A lone exclamation mark in an ignore file** ends the run without an exit code. -/
theorem outcome_lone_mark :
    (run ⟨treeIgnoring "!", .info⟩ none newDirArguments).outcome =
      .error (.badRule (.senseless ['!'])) := by
  have hlines : ignoreLines (treeIgnoring "!") (.ofString "new") ["new"] = .ok [['!']] := by
    rw [ignoreLines, ignoreFiles_treeIgnoring]
    decide
  have hfolder : (treeIgnoring "!").folder? (.ofString "new") = .ok (some ["new"]) := by decide
  have hnamed : newDirOptions.newFiles = ([] : List String).map some := rfl
  exact outcome_run_eq_error_iff.mpr ⟨newDirOptions, parse_newDirArguments,
    .newDir hnamed (.rule hfolder hlines rfl [])⟩

end Relocation.Command
