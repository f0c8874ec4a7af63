import Relocation.Command.Run
import Relocation.Proofs.Discovery.Walk
import Relocation.Proofs.Disk.Faults
import Relocation.Proofs.Task

/-!
# The phases of a run

What comes of each phase of a run, told by the disk and by whether standard output takes anything:
when it goes well, and when it ends the run without an exit code. In all other cases the phase ends
the run with a report.
-/

namespace Relocation.Command

open Relocation.Task

variable {j : Journal World} {a : Abort}

/-- What decides how a run goes on: the disk, and whether standard output takes anything. -/
def World.setting (w : World) : Disk × Option String :=
  (w.disk, w.refusal)

theorem disk_left {ε α : Type} {t : Task World ε α} (h : Keeps World.setting t)
    (j : Journal World) : (left t j).state.disk = j.state.disk :=
  congrArg Prod.fst (h j)

theorem refusal_left {ε α : Type} {t : Task World ε α} (h : Keeps World.setting t)
    (j : Journal World) : (left t j).state.refusal = j.state.refusal :=
  congrArg Prod.snd (h j)

theorem disk_left_bind {ε α β : Type} {t : Task World ε α} {f : α → Task World ε β}
    (hf : ∀ a, Keeps World.setting (f a)) :
    (left (t >>= f) j).state.disk = (left t j).state.disk := by
  rw [left_bind]
  cases outcome t j with
  | ok a => exact disk_left (hf a) _
  | error e => rfl

/-! ## Paths -/

theorem keeps_pathOf (value : Value) : Keeps World.setting (pathOf value) := by
  cases value with
  | some text => exact keeps_pure _
  | none => exact keeps_throw _

theorem outcome_pathOf_eq_ok_iff {value : Value} {p : Path} :
    outcome (pathOf value) j = .ok p ↔ ∃ text, value = some text ∧ p = .ofString text := by
  cases value with
  | some text => simp [pathOf, eq_comm]
  | none => simp [pathOf]

theorem outcome_pathOf_eq_aborted_iff {value : Value} :
    outcome (pathOf value) j = .error (.aborted a) ↔ value = none ∧ a = .noPath := by
  cases value with
  | some text => simp [pathOf]
  | none => simp [pathOf, eq_comm]

theorem keeps_pathsOf (values : List Value) : Keeps World.setting (pathsOf values) := by
  induction values with
  | nil => exact keeps_pure _
  | cons value values ih =>
    exact (keeps_pathOf value).bind fun p => ih.bind fun paths => keeps_pure _

theorem outcome_pathsOf_eq_ok_iff {values : List Value} {paths : List Path} :
    outcome (pathsOf values) j = .ok paths ↔
      ∃ texts : List String, values = texts.map some ∧ paths = texts.map .ofString := by
  induction values generalizing j paths with
  | nil =>
    constructor
    · rintro ⟨⟩
      exact ⟨[], rfl, rfl⟩
    · rintro ⟨texts, htexts, rfl⟩
      rw [List.map_eq_nil_iff.mp htexts.symm]
      rfl
  | cons value values ih =>
    simp only [pathsOf, outcome_bind_eq_ok_iff, outcome_pathOf_eq_ok_iff, ih, outcome_pure,
      Except.ok.injEq]
    constructor
    · rintro ⟨_, ⟨text, rfl, rfl⟩, _, ⟨texts, rfl, rfl⟩, rfl⟩
      exact ⟨text :: texts, rfl, rfl⟩
    · rintro ⟨texts, htexts, rfl⟩
      cases texts with
      | nil => cases htexts
      | cons text texts =>
        cases htexts
        exact ⟨_, ⟨text, rfl, rfl⟩, _, ⟨texts, rfl, rfl⟩, rfl⟩

theorem outcome_pathsOf_eq_aborted_iff {values : List Value} :
    outcome (pathsOf values) j = .error (.aborted a) ↔ none ∈ values ∧ a = .noPath := by
  induction values generalizing j with
  | nil => simp [pathsOf]
  | cons value values ih =>
    simp only [pathsOf, outcome_bind_eq_error_iff, outcome_pathOf_eq_ok_iff,
      outcome_pathOf_eq_aborted_iff, ih, outcome_pure]
    cases value with
    | some text => simp
    | none => simp

/-! ## Discovery -/

theorem outcome_fail {α : Type} (records : List Record) (message : String) (j : Journal World) :
    outcome (fail records message : Task World Ending α) j = .error .reported :=
  rfl

theorem keeps_fail {α : Type} (records : List Record) (message : String) :
    Keeps World.setting (fail records message : Task World Ending α) :=
  fun _ => rfl

theorem keeps_discoverIn (value : Value) : Keeps World.setting (discoverIn value) := by
  refine (keeps_pathOf value).bind fun root => keeps_current.bind fun w => ?_
  split
  · exact (keeps_log _).bind fun _ => keeps_pure _
  · exact keeps_fail _ _
  · exact keeps_throw _

theorem outcome_discoverIn_some (text : String) (j : Journal World) :
    outcome (discoverIn (some text)) j =
      match discover j.state.disk (.ofString text) sourceExtensions with
      | .ok (.ok survey) => .ok (survey.paths (.ofString text))
      | .ok (.error _) => .error .reported
      | .error a => .error (.aborted a) := by
  simp only [discoverIn, pathOf, outcome_bind, outcome_pure, outcome_current, left_pure,
    left_current]
  rcases discover j.state.disk (.ofString text) sourceExtensions with a | (e | survey)
  · rfl
  · rfl
  · rfl

theorem outcome_discoverIn_eq_ok_iff {value : Value} {paths : List Path} :
    outcome (discoverIn value) j = .ok paths ↔
      ∃ text survey, value = some text ∧
        discover j.state.disk (.ofString text) sourceExtensions = .ok (.ok survey) ∧
        paths = survey.paths (.ofString text) := by
  cases value with
  | none => exact ⟨nofun, nofun⟩
  | some text =>
    rw [outcome_discoverIn_some]
    rcases hsurvey : discover j.state.disk (.ofString text) sourceExtensions with a | (e | survey)
    · simp [hsurvey]
    · simp [hsurvey]
    · simp only [Except.ok.injEq, Option.some.injEq]
      constructor
      · rintro rfl
        exact ⟨text, survey, rfl, hsurvey, rfl⟩
      · rintro ⟨_, survey', rfl, hsurvey', rfl⟩
        rw [hsurvey] at hsurvey'
        cases hsurvey'
        rfl

theorem outcome_discoverIn_eq_aborted_iff {value : Value} :
    outcome (discoverIn value) j = .error (.aborted a) ↔
      value = none ∧ a = .noPath ∨
        ∃ text, value = some text ∧
          discover j.state.disk (.ofString text) sourceExtensions = .error a := by
  cases value with
  | none =>
    change Except.error (Ending.aborted .noPath) = Except.error (Ending.aborted a) ↔ _
    simp [eq_comm]
  | some text =>
    rw [outcome_discoverIn_some]
    rcases hsurvey : discover j.state.disk (.ofString text) sourceExtensions with a' | (e | survey)
    · simp [hsurvey]
    · simp [hsurvey]
    · simp [hsurvey]

/-- The files found in directories, one directory after another. -/
inductive Finds (d : Disk) : List Value → List Path → Prop
  | nil : Finds d [] []
  | cons {text : String} {survey : Survey} {values : List Value} {found : List Path}
      (h : discover d (.ofString text) sourceExtensions = .ok (.ok survey))
      (hrest : Finds d values found) :
      Finds d (some text :: values) (survey.paths (.ofString text) ++ found)

/-- Among directories there is one that nobody takes care of, and nothing is wrong with those
before it. -/
inductive DiscoveryAborts (d : Disk) : List Value → Abort → Prop
  /-- it is not named -/
  | noPath (values : List Value) : DiscoveryAborts d (none :: values) .noPath
  /-- its path cannot be asked about -/
  | folder {text : String} {fault : Fault} (h : d.folder? (.ofString text) = .error fault)
      (values : List Value) : DiscoveryAborts d (some text :: values) (.fault fault)
  /-- its ignore files have a line that is refused -/
  | rule {text : String} {place : Location} {lines : List (List Char)} {fault : Ignore.Fault}
      (hfolder : d.folder? (.ofString text) = .ok (some place))
      (hlines : ignoreLines d (.ofString text) place = .ok lines)
      (h : Ignore.compileAll lines = .error fault)
      (values : List Value) : DiscoveryAborts d (some text :: values) (.badRule fault)
  | later {text : String} {survey : Survey} {values : List Value} {a : Abort}
      (h : discover d (.ofString text) sourceExtensions = .ok (.ok survey))
      (hrest : DiscoveryAborts d values a) : DiscoveryAborts d (some text :: values) a

theorem keeps_discoverAll (values : List Value) : Keeps World.setting (discoverAll values) := by
  induction values with
  | nil => exact keeps_pure _
  | cons value values ih =>
    exact (keeps_discoverIn value).bind fun found => ih.bind fun more => keeps_pure _

theorem outcome_discoverAll_eq_ok_iff {values : List Value} {paths : List Path} :
    outcome (discoverAll values) j = .ok paths ↔ Finds j.state.disk values paths := by
  induction values generalizing j paths with
  | nil =>
    constructor
    · rintro ⟨⟩
      exact .nil
    · rintro ⟨⟩
      rfl
  | cons value values ih =>
    simp only [discoverAll, outcome_bind_eq_ok_iff, outcome_discoverIn_eq_ok_iff, ih, outcome_pure,
      Except.ok.injEq, disk_left (keeps_discoverIn value)]
    constructor
    · rintro ⟨_, ⟨text, survey, rfl, hsurvey, rfl⟩, more, hmore, rfl⟩
      exact .cons hsurvey hmore
    · rintro (_ | ⟨hsurvey, hmore⟩)
      exact ⟨_, ⟨_, _, rfl, hsurvey, rfl⟩, _, hmore, rfl⟩

theorem outcome_discoverAll_eq_aborted_iff {values : List Value} :
    outcome (discoverAll values) j = .error (.aborted a) ↔
      DiscoveryAborts j.state.disk values a := by
  induction values generalizing j with
  | nil => exact ⟨nofun, nofun⟩
  | cons value values ih =>
    simp only [discoverAll, outcome_bind_eq_error_iff, outcome_discoverIn_eq_ok_iff,
      outcome_discoverIn_eq_aborted_iff, ih, outcome_pure, disk_left (keeps_discoverIn value),
      discover_eq_error_iff]
    constructor
    · rintro ((⟨rfl, rfl⟩ | ⟨text, rfl, ⟨fault, hfolder, rfl⟩ |
        ⟨place, lines, fault, hfolder, hlines, hrules, rfl⟩⟩) |
        ⟨_, ⟨text, survey, rfl, hsurvey, rfl⟩, hrest | ⟨_, -, ⟨⟩⟩⟩)
      · exact .noPath _
      · exact .folder hfolder _
      · exact .rule hfolder hlines hrules _
      · exact .later hsurvey hrest
    · rintro (_ | hfolder | ⟨hfolder, hlines, hrules⟩ | ⟨hsurvey, hrest⟩)
      · exact .inl (.inl ⟨rfl, rfl⟩)
      · exact .inl (.inr ⟨_, rfl, .inl ⟨_, hfolder, rfl⟩⟩)
      · exact .inl (.inr ⟨_, rfl, .inr ⟨_, _, _, hfolder, hlines, hrules, rfl⟩⟩)
      · exact .inr ⟨_, ⟨_, _, rfl, hsurvey, rfl⟩, .inl hrest⟩

/-! ## The new files -/

/-- The new files of a run: those named and those found, and at least one. -/
def Selects (d : Disk) (o : Options) (files : List Path) : Prop :=
  ∃ (named : List String) (found : List Path), o.newFiles = named.map some ∧
    Finds d o.newDirs found ∧ files = named.map .ofString ++ found ∧ files ≠ []

theorem keeps_selectFiles (o : Options) : Keeps World.setting (selectFiles o) := by
  refine (keeps_pathsOf _).bind fun named => (keeps_discoverAll _).bind fun found => ?_
  dsimp only
  split
  · exact keeps_fail _ _
  · exact keeps_pure _

theorem outcome_selectFiles_eq_ok_iff {o : Options} {files : List Path} :
    outcome (selectFiles o) j = .ok files ↔ Selects j.state.disk o files := by
  simp only [selectFiles, outcome_bind_eq_ok_iff, outcome_pathsOf_eq_ok_iff,
    outcome_discoverAll_eq_ok_iff, disk_left (keeps_pathsOf _)]
  constructor
  · rintro ⟨_, ⟨named, hnamed, rfl⟩, found, hfound, h⟩
    split at h
    · cases h
    · next hne =>
      cases h
      exact ⟨named, found, hnamed, hfound, rfl, by simpa using hne⟩
  · rintro ⟨named, found, hnamed, hfound, rfl, hne⟩
    refine ⟨_, ⟨named, hnamed, rfl⟩, found, hfound, ?_⟩
    rw [if_neg (by simpa using hne)]
    rfl

theorem outcome_selectFiles_eq_aborted_iff {o : Options} :
    outcome (selectFiles o) j = .error (.aborted a) ↔
      none ∈ o.newFiles ∧ a = .noPath ∨
        ∃ named : List String, o.newFiles = named.map some ∧
          DiscoveryAborts j.state.disk o.newDirs a := by
  simp only [selectFiles, outcome_bind_eq_error_iff, outcome_pathsOf_eq_ok_iff,
    outcome_pathsOf_eq_aborted_iff, outcome_discoverAll_eq_aborted_iff,
    disk_left (keeps_pathsOf _)]
  refine or_congr_right ?_
  constructor
  · rintro ⟨_, ⟨named, hnamed, rfl⟩, h | ⟨found, -, h⟩⟩
    · exact ⟨named, hnamed, h⟩
    · split at h <;> cases h
  · rintro ⟨named, hnamed, h⟩
    exact ⟨_, ⟨named, hnamed, rfl⟩, .inl h⟩

/-! ## Reading -/

section Reading

variable {d : Disk} {p before after : Path} {paths files : List Path}

theorem keeps_readInput (d : Disk) (p : Path) :
    Keeps World.setting (readInput d p : Task World Failure String) := by
  unfold readInput
  split
  · exact keeps_pure _
  · exact keeps_throw _
  · exact (keeps_log _).bind fun _ => keeps_throw _

theorem outcome_readInput_eq_ok_iff {text : String} :
    outcome (readInput d p : Task World Failure String) j = .ok text ↔
      d.readText p = .ok text := by
  unfold readInput
  split
  · next h => simp [h]
  · next h => simp [h]
  · next h => simp [outcome_bind, h]

theorem outcome_readInput_eq_abort_iff :
    outcome (readInput d p : Task World Failure String) j = .error (.abort a) ↔
      Disk.hasNull p = true ∧ a = .fault .nullCharacter := by
  rw [← Disk.readText_eq_null_iff (d := d)]
  unfold readInput
  split
  · next h => simp [h]
  · next h => simp [h, eq_comm]
  · next hfault h => simp [outcome_bind, h, imp_false.mp hfault]

/-- Source files are the texts of paths. -/
def Reads (d : Disk) (paths : List Path) (files : List SourceFile) : Prop :=
  List.Forall₂ (fun p file => ∃ text, d.readText p = .ok text ∧ file = ⟨p.text, text⟩) paths files

/-- Among paths there is one with a null character, and those before it can be read. -/
def NullMet (d : Disk) (paths : List Path) : Prop :=
  ∃ done p rest, paths = done ++ p :: rest ∧ (∀ q ∈ done, ∃ text, d.readText q = .ok text) ∧
    Disk.hasNull p = true

theorem nullMet_cons_iff : NullMet d (p :: paths) ↔
    Disk.hasNull p = true ∨ (∃ text, d.readText p = .ok text) ∧ NullMet d paths := by
  constructor
  · rintro ⟨done, q, rest, hsplit, hdone, hnull⟩
    cases done with
    | nil =>
      cases hsplit
      exact .inl hnull
    | cons first done =>
      cases hsplit
      obtain ⟨hfirst, hdone⟩ := List.forall_mem_cons.mp hdone
      exact .inr ⟨hfirst, done, q, rest, rfl, hdone, hnull⟩
  · rintro (hnull | ⟨hread, done, q, rest, rfl, hdone, hnull⟩)
    · exact ⟨[], p, paths, rfl, nofun, hnull⟩
    · exact ⟨p :: done, q, rest, rfl, List.forall_mem_cons.mpr ⟨hread, hdone⟩, hnull⟩

theorem keeps_readInputs (d : Disk) (paths : List Path) :
    Keeps World.setting (readInputs d paths : Task World Failure (List SourceFile)) := by
  induction paths with
  | nil => exact keeps_pure _
  | cons p paths ih =>
    exact (keeps_readInput d p).bind fun content => ih.bind fun files => keeps_pure _

theorem outcome_readInputs_eq_ok_iff {sources : List SourceFile} :
    outcome (readInputs d paths : Task World Failure (List SourceFile)) j = .ok sources ↔
      Reads d paths sources := by
  induction paths generalizing j sources with
  | nil =>
    constructor
    · rintro ⟨⟩
      exact .nil
    · rintro ⟨⟩
      rfl
  | cons p paths ih =>
    simp only [readInputs, outcome_bind_eq_ok_iff, outcome_readInput_eq_ok_iff, ih, outcome_pure,
      Except.ok.injEq]
    constructor
    · rintro ⟨text, htext, more, hmore, rfl⟩
      exact .cons ⟨text, htext, rfl⟩ hmore
    · rintro (_ | ⟨⟨text, htext, rfl⟩, hmore⟩)
      exact ⟨text, htext, _, hmore, rfl⟩

theorem outcome_readInputs_eq_abort_iff :
    outcome (readInputs d paths : Task World Failure (List SourceFile)) j = .error (.abort a) ↔
      NullMet d paths ∧ a = .fault .nullCharacter := by
  induction paths generalizing j with
  | nil =>
    constructor
    · exact nofun
    · rintro ⟨⟨done, p, rest, hsplit, -⟩, -⟩
      simp at hsplit
  | cons p paths ih =>
    -- only a path that is reached counts, so both sides recurse on the first path being read
    simp only [readInputs, outcome_bind_eq_error_iff, outcome_readInput_eq_ok_iff,
      outcome_readInput_eq_abort_iff, ih, outcome_pure, nullMet_cons_iff, reduceCtorEq, and_false,
      exists_false, or_false, or_and_right, and_assoc, exists_and_right]

/-- The comparison of what is read. -/
def Compares (d : Disk) (before after : Path) (files : List Path) (c : Comparison) : Prop :=
  ∃ old new sources, d.readText before = .ok old ∧ d.readText after = .ok new ∧
    Reads d files sources ∧ c = Comparison.ofTexts old new sources

/-- The part of a verification before its result is presented. -/
def compared {σ ε : Type} (provider : Provider σ ε) : Task σ ε Comparison := do
  let before ← provider.before
  let after ← provider.after
  let newFiles ← provider.newFiles
  let comparison := Comparison.ofTexts before after newFiles
  Task.logAll (Comparison.records before after newFiles)
  Task.log comparison.verificationRecord
  return comparison

theorem verify_eq {σ ε : Type} (provider : Provider σ ε) (present : Comparison → Task σ ε Unit) :
    verify provider present = do
      let c ← compared provider
      present c
      return c := by
  simp [verify, compared]

theorem keeps_compared : Keeps World.setting (compared (Provider.ofDisk d before after files)) :=
  (keeps_readInput d before).bind fun _ => (keeps_readInput d after).bind fun _ =>
    (keeps_readInputs d files).bind fun _ => (keeps_logAll _).bind fun _ =>
      (keeps_log _).bind fun _ => keeps_pure _

theorem outcome_compared_eq_ok_iff {c : Comparison} :
    outcome (compared (Provider.ofDisk d before after files)) j = .ok c ↔
      Compares d before after files c := by
  simp only [compared, Provider.ofDisk, outcome_bind_eq_ok_iff, outcome_readInput_eq_ok_iff,
    outcome_readInputs_eq_ok_iff, outcome_logAll, outcome_log, outcome_pure, Except.ok.injEq,
    exists_const, true_and]
  constructor
  · rintro ⟨old, hold, new, hnew, sources, hsources, rfl⟩
    exact ⟨old, new, sources, hold, hnew, hsources, rfl⟩
  · rintro ⟨old, new, sources, hold, hnew, hsources, rfl⟩
    exact ⟨old, hold, new, hnew, sources, hsources, rfl⟩

theorem outcome_compared_eq_abort_iff :
    outcome (compared (Provider.ofDisk d before after files)) j = .error (.abort a) ↔
      NullMet d (before :: after :: files) ∧ a = .fault .nullCharacter := by
  simp only [compared, Provider.ofDisk, outcome_bind_eq_error_iff, outcome_readInput_eq_ok_iff,
    outcome_readInput_eq_abort_iff, outcome_readInputs_eq_ok_iff, outcome_readInputs_eq_abort_iff,
    outcome_logAll, outcome_log, outcome_pure, nullMet_cons_iff, reduceCtorEq, and_false,
    exists_false, or_false, or_and_right, and_assoc, exists_and_right]

end Reading

/-! ## Reports -/

section Reports

variable {o : Options} {c : Comparison}

theorem outcome_writeFile (p : Path) (text : String) (j : Journal World) :
    outcome (writeFile p text) j = (j.state.disk.writeReport p (Utf8.encode text.toList)).2 := by
  simp only [writeFile, outcome_bind, outcome_current, left_current]
  rcases j.state.disk.writeReport p (Utf8.encode text.toList) with ⟨d, fault | _⟩
  · rfl
  · rfl

/-- Writing a file changes the disk and nothing else. -/
theorem state_left_writeFile (p : Path) (text : String) (j : Journal World) :
    (left (writeFile p text) j).state =
      { j.state with disk := (j.state.disk.writeReport p (Utf8.encode text.toList)).1 } := by
  simp only [writeFile, left_bind, outcome_current, left_current]
  rcases j.state.disk.writeReport p (Utf8.encode text.toList) with ⟨d, fault | _⟩
  · rfl
  · rfl

theorem disk_left_writeFile (p : Path) (text : String) (j : Journal World) :
    (left (writeFile p text) j).state.disk =
      (j.state.disk.writeReport p (Utf8.encode text.toList)).1 := by
  rw [state_left_writeFile]

/-- Whoever handles the failure to write a file leaves the disk as the attempt left it. -/
theorem disk_left_rescue_writeFile {ε : Type} {handle : Fault → Task World ε Unit} (p : Path)
    (text : String) (hhandle : ∀ fault, Keeps World.setting (handle fault)) :
    (left ((writeFile p text).rescue handle) j).state.disk =
      (j.state.disk.writeReport p (Utf8.encode text.toList)).1 := by
  rw [left_rescue, ← disk_left_writeFile]
  cases outcome (writeFile p text) j with
  | ok _ => rfl
  | error fault => exact disk_left (hhandle fault) _

/-- Where the report goes, if it goes into a file. -/
def reportFile? (o : Options) : Option String :=
  match o.format with
  | .json => requested o.output
  | _ => none

/-- The disk with the report on it, and whether it could be written there. -/
def reported (d : Disk) (o : Options) (c : Comparison) : Disk × Except Fault Unit :=
  match reportFile? o with
  | some output => d.writeReport (.ofString output) (Utf8.encode c.document.toList)
  | none => (d, .ok ())

theorem format_of_reportFile? {output : String} (h : reportFile? o = some output) :
    o.format = .json ∧ requested o.output = some output := by
  unfold reportFile? at h
  split at h
  · next hformat => exact ⟨hformat, h⟩
  · cases h

/-- A report that goes into a file. -/
theorem outcome_present_of_file {output : String} (h : reportFile? o = some output) :
    outcome (present o c) j =
      match (reported j.state.disk o c).2 with
      | .ok () => .ok ()
      | .error fault => .error (if fault.escapes then .abort (.fault fault)
          else .report fault.message) := by
  obtain ⟨hformat, houtput⟩ := format_of_reportFile? h
  simp only [present, hformat, houtput, outcome_bind, outcome_rescue, outcome_writeFile, reported,
    h]
  rcases j.state.disk.writeReport (.ofString output) (Utf8.encode c.document.toList) with
    ⟨d, (⟨why, p⟩ | _ | _) | _⟩
  · rfl
  · rfl
  · rfl
  · rfl

theorem disk_left_present_of_file {output : String} (h : reportFile? o = some output) :
    (left (present o c) j).state.disk = (reported j.state.disk o c).1 := by
  obtain ⟨hformat, houtput⟩ := format_of_reportFile? h
  simp only [present, hformat, houtput, reported, h]
  rw [disk_left_bind fun _ => keeps_log _]
  refine disk_left_rescue_writeFile _ _ fun fault => ?_
  split
  · exact keeps_throw _
  · exact keeps_throw _

/-- A report that goes to standard output. -/
theorem exists_present_eq_print (h : reportFile? o = none) : ∃ text, present o c = print text := by
  unfold reportFile? at h
  unfold present
  split
  · next hformat houtput =>
    rw [hformat, houtput] at h
    cases h
  · exact ⟨_, rfl⟩
  · exact ⟨_, rfl⟩

theorem outcome_print (text : String) (j : Journal World) :
    outcome (print text) j =
      match j.state.refusal with
      | some message => .error (.report message)
      | none => .ok () := by
  simp only [print, outcome_bind, outcome_current, left_current]
  cases j.state.refusal with
  | some message => rfl
  | none => rfl

theorem keeps_print (text : String) : Keeps World.setting (print text) := by
  refine keeps_current.bind fun w => ?_
  split
  · exact keeps_throw _
  · exact keeps_update fun _ => rfl

theorem outcome_present_eq_ok_iff {x : Unit} :
    outcome (present o c) j = .ok x ↔
      (reported j.state.disk o c).2 = .ok () ∧ (reportFile? o = none → j.state.refusal = none) := by
  cases h : reportFile? o with
  | some output =>
    rw [outcome_present_of_file h]
    rcases (reported j.state.disk o c).2 with fault | _
    · simp
    · simp
  | none =>
    obtain ⟨text, htext⟩ := exists_present_eq_print (c := c) h
    rw [htext, outcome_print, reported, h]
    cases j.state.refusal with
    | some message => simp
    | none => simp

theorem outcome_present_eq_abort_iff :
    outcome (present o c) j = .error (.abort a) ↔
      ∃ fault, (reported j.state.disk o c).2 = .error fault ∧ fault.escapes = true ∧
        a = .fault fault := by
  cases h : reportFile? o with
  | some output =>
    rw [outcome_present_of_file h]
    rcases (reported j.state.disk o c).2 with fault | _
    · cases hescapes : fault.escapes with
      | true =>
        simp only [hescapes, if_true, Except.error.injEq, Failure.abort.injEq, exists_eq_left',
          true_and]
        exact eq_comm
      | false => simp [hescapes]
    · simp
  | none =>
    obtain ⟨text, htext⟩ := exists_present_eq_print (c := c) h
    rw [htext, outcome_print, reported, h]
    cases j.state.refusal with
    | some message => simp
    | none => simp

theorem disk_left_present : (left (present o c) j).state.disk = (reported j.state.disk o c).1 := by
  cases h : reportFile? o with
  | some output => exact disk_left_present_of_file h
  | none =>
    obtain ⟨text, htext⟩ := exists_present_eq_print (c := c) h
    rw [htext, disk_left (keeps_print text), reported, h]

theorem outcome_writeHtml_eq_aborted_iff {output : String} :
    outcome (writeHtml output c) j = .error (.aborted a) ↔
      ∃ fault, (j.state.disk.writeReport (.ofString output)
          (Utf8.encode (htmlReport c).toList)).2 = .error fault ∧
        fault.escapes = true ∧ a = .fault fault := by
  simp only [writeHtml, outcome_bind_eq_error_iff, outcome_rescue_eq_error_iff, outcome_writeFile,
    outcome_log, reduceCtorEq, and_false, exists_false, or_false]
  refine exists_congr fun fault => and_congr_right fun _ => ?_
  rcases fault with ⟨why, p⟩ | _ | _
  · simp [outcome_fail, Fault.escapes]
  · simp [Fault.escapes, eq_comm]
  · simp [Fault.escapes, eq_comm]

theorem outcome_writeHtml_eq_ok_iff {output : String} {x : Unit} :
    outcome (writeHtml output c) j = .ok x ↔
      (j.state.disk.writeReport (.ofString output) (Utf8.encode (htmlReport c).toList)).2 =
        .ok () := by
  simp only [writeHtml, outcome_bind_eq_ok_iff, outcome_rescue_eq_ok_iff, outcome_writeFile,
    outcome_log, and_true]
  constructor
  · rintro ⟨_, h | ⟨fault, -, h⟩⟩
    · exact h
    · split at h
      · cases h
      · cases h
  · intro h
    exact ⟨(), .inl h⟩

end Reports

end Relocation.Command
