import Relocation.Proofs.Command.Agreement
import Relocation.Proofs.Command.Targets
import Relocation.Proofs.Discovery.Growth
import Relocation.Proofs.Disk.Rewriting

/-!
# Running the command again

A run that goes well leaves reports and the directories that they are in. If the reports do not take
the place of an input, another run with the same arguments reads what the first one read, finds the
same new files, and writes the reports that are already there. Only one thing can stop it: a
directory with the name of an ignore file, made below a directory of new files on the way to a
report.

* `Command.Apart` — the targets of a run are none of its inputs,
* `Command.reaches_of_changes` — the inputs are the same after the reports are written,
* `Command.exists_delivered_again` — reports that are written again change nothing,
* `Command.run_touches_and_repeats` — **a run touches only its targets, and repeating it changes
  nothing**, unless it has made such a directory.
-/

namespace Relocation

/-- A tree as the system can hold it: well-formed, without `..` as a name, and all directories that
may not be listed are there. -/
structure Disk.IsSound (d : Disk) : Prop where
  wellFormed : d.WellFormed
  isUpright : d.IsUpright
  unlistable : ∀ p ∈ d.unlistable, ∃ place, d.locate p = .ok place ∧ d.find? place = some .folder

/-! ## What is left alone -/

section

variable {d d' : Disk} {paths : List Path} {place : Location}

/-- What is at a place stays there if no report goes to it. -/
theorem Disk.Touches.find?_eq (h : d.Touches paths d') (hplace : ∀ t ∈ paths, d.normal t ≠ place)
    {e : Entry} (hfind : d.find? place = some e) : d'.find? place = some e := by
  cases h.touched place with
  | same heq => rw [heq, hfind]
  | file ht hnormal => exact absurd hnormal.symm (hplace _ ht)
  | folder _ _ _ _ hmissing =>
    rw [hmissing] at hfind
    cases hfind

/-- So does the text of a file. -/
theorem readText_of_changes {p : Path} {text : String} (h : Disk.Changes paths d d')
    (hp : ∀ t ∈ paths, d.normal t ≠ d.normal p) (hread : d.readText p = .ok text) :
    d'.readText p = .ok text := by
  rw [Disk.readText, Outcome.bind_eq_ok_iff] at hread ⊢
  obtain ⟨bytes, hbytes, htext⟩ := hread
  refine ⟨bytes, ?_, htext⟩
  rw [Outcome.mapError_eq_ok_iff, Disk.readFile_eq_ok_iff] at hbytes ⊢
  obtain ⟨hnull, place, hlocate, hfind⟩ := hbytes
  have hplace := Disk.eq_normal_of_locate hlocate
  exact ⟨hnull, place, h.grows.locate_eq hlocate,
    h.touches.find?_eq (fun t ht => hplace ▸ hp t ht) hfind⟩

/-- Reports that go elsewhere add nothing but directories below a place. -/
theorem deepens_of_changes (h : Disk.Changes paths d d')
    (hplace : ∀ t ∈ paths, ∀ names, names ≠ [] → d.normal t ≠ place ++ names) :
    d.Deepens d' place := by
  intro names hnames
  cases h.touches.touched (place ++ names) with
  | same heq => exact .inl heq
  | file ht hnormal => exact absurd hnormal.symm (hplace _ ht names hnames)
  | folder _ _ _ _ hmissing hfolder => exact .inr ⟨hmissing, hfolder⟩

variable {root : Path} {extensions : List String} {s : Survey}

/-- **Discovery finds the same files** after reports were written elsewhere, unless they have
brought a directory with the name of an ignore file. -/
theorem exists_discover_of_changes (hd : d.IsSound) (h : Disk.Changes paths d d')
    (hroot : ∀ t ∈ paths, ∀ names, names ≠ [] → d.normal t ≠ d.normal root ++ names)
    (hclear : d'.HasNoIgnoreFolder (d.normal root))
    (hs : discover d root extensions = .ok (.ok s)) :
    ∃ s', discover d' root extensions = .ok (.ok s') ∧ s'.paths root = s.paths root := by
  obtain ⟨place, -, -, hfolder, -⟩ := discover_eq_ok_iff.mp hs
  obtain ⟨hnull, hlocate, hfind⟩ := Disk.folder?_eq_some_iff.mp hfolder
  obtain rfl := Disk.eq_normal_of_locate hlocate
  have hfolder' : d'.folder? root = .ok (some (d.normal root)) :=
    Disk.folder?_eq_some_iff.mpr ⟨hnull, h.grows.locate_eq hlocate, h.grows.folder _ hfind⟩
  have hup := h.isUpright hd.wellFormed hd.isUpright
  refine exists_discover_of_deepens hd.wellFormed (h.wellFormed hd.wellFormed)
    (deepens_of_changes h hroot) hfolder hfolder' hclear h.unlistable ?_ hs
  -- a directory that was made was not there to be unlistable
  intro names hmissing hmade hmem
  obtain ⟨place, hlocate', hplace⟩ := hd.unlistable _ hmem
  have hnames : ".." ∉ names := fun hmem' =>
    hup _ (Option.isSome_of_eq_some hmade) (List.mem_append_right _ hmem')
  rw [Disk.eq_normal_of_locate hlocate', Disk.normal_join, Disk.foldl_climb_of_notMem hnames,
    hmissing] at hplace
  cases hplace

/-- What discovery finds is below its root. -/
theorem exists_normal_of_mem_paths (hd : d.WellFormed) (hup : d.IsUpright)
    (hs : discover d root extensions = .ok (.ok s)) {p : Path} (hp : p ∈ s.paths root) :
    ∃ names, names ≠ [] ∧ d.normal p = d.normal root ++ names := by
  obtain ⟨place, _, _, hfolder, -, -, hlevels⟩ := discover_eq_ok_iff.mp hs
  obtain rfl := Disk.eq_normal_of_locate (Disk.folder?_eq_some_iff.mp hfolder).2.1
  obtain ⟨names, hnames, rfl⟩ := List.mem_map.mp hp
  obtain ⟨dir, name, bytes, rfl, -, hfind, -⟩ := (Walk.mem_found_iff hd hlevels).mp hnames
  refine ⟨_, List.append_ne_nil_of_right_ne_nil dir (List.cons_ne_nil name []), ?_⟩
  -- no name leads up again, so the names end below the root
  have hnames : ".." ∉ dir ++ [name] := fun hmem =>
    hup _ (Option.isSome_of_eq_some hfind) (List.mem_append_right _ hmem)
  rw [Disk.normal_join, Disk.foldl_climb_of_notMem hnames]

end

namespace Command

variable {d d' : Disk} {session : Session} {refusal : Option String} {arguments : List String}
  {o : Options} {c : Comparison}

/-- **The targets of a run are apart from its inputs**: none is a file that is read, and none is
below a directory of new files. -/
structure Apart (d : Disk) (o : Options) : Prop where
  file : ∀ t ∈ targets o, ∀ text, some text ∈ o.before :: o.after :: o.newFiles →
    d.normal t ≠ d.normal (.ofString text)
  folder : ∀ t ∈ targets o, ∀ text, some text ∈ o.newDirs → ∀ names, names ≠ [] →
    d.normal t ≠ d.normal (.ofString text) ++ names

/-- No directory of new files has a directory below it with the name of an ignore file. -/
def IsClear (d : Disk) (o : Options) : Prop :=
  ∀ text, some text ∈ o.newDirs → d.HasNoIgnoreFolder (d.normal (.ofString text))

/-! ## The same input -/

section

variable {values : List Value} {found files : List Path}

theorem exists_mem_of_finds (hd : d.IsSound) (h : Finds d values found) {p : Path}
    (hp : p ∈ found) :
    ∃ text names, some text ∈ values ∧ names ≠ [] ∧
      d.normal p = d.normal (.ofString text) ++ names := by
  induction h with
  | nil => cases hp
  | @cons text survey values more hsurvey _ ih =>
    rcases List.mem_append.mp hp with hp | hp
    · obtain ⟨names, hnames, hnormal⟩ :=
        exists_normal_of_mem_paths hd.wellFormed hd.isUpright hsurvey hp
      exact ⟨text, names, List.mem_cons_self, hnames, hnormal⟩
    · obtain ⟨text', names, hmem, hnames, hnormal⟩ := ih hp
      exact ⟨text', names, List.mem_cons_of_mem _ hmem, hnames, hnormal⟩

theorem finds_of_changes (hd : d.IsSound) (hapart : Apart d o) (hclear : IsClear d' o)
    (hchanges : Disk.Changes (targets o) d d') (hvalues : ∀ value ∈ values, value ∈ o.newDirs)
    (h : Finds d values found) : Finds d' values found := by
  induction h with
  | nil => exact .nil
  | @cons text survey values more hsurvey _ ih =>
    rw [List.forall_mem_cons] at hvalues
    obtain ⟨htext, hvalues⟩ := hvalues
    have hnone := hclear text htext
    rw [hchanges.normal_eq] at hnone
    obtain ⟨survey', hsurvey', hpaths⟩ := exists_discover_of_changes hd hchanges
      (fun t ht => hapart.folder t ht text htext) hnone hsurvey
    rw [← hpaths]
    exact .cons hsurvey' (ih hvalues)

theorem reads_of_changes {sources : List SourceFile} {paths : List Path}
    (hchanges : Disk.Changes paths d d')
    (hfiles : ∀ p ∈ files, ∀ t ∈ paths, d.normal t ≠ d.normal p) (h : Reads d files sources) :
    Reads d' files sources := by
  induction h with
  | nil => exact .nil
  | cons hread _ ih =>
    rw [List.forall_mem_cons] at hfiles
    obtain ⟨text, htext, hfile⟩ := hread
    exact .cons ⟨text, readText_of_changes hchanges hfiles.1 htext, hfile⟩ (ih hfiles.2)

/-- **The input is the same** after the reports of the run were written. -/
theorem reaches_of_changes (hd : d.IsSound) (hapart : Apart d o) (hclear : IsClear d' o)
    (hchanges : Disk.Changes (targets o) d d') (h : Reaches d o c) : Reaches d' o c := by
  obtain ⟨files, before, after, hfiles, hbefore, hafter, old, new, sources, hold, hnew, hreads,
    rfl⟩ := h
  obtain ⟨named, found, hnamed, hfound, rfl, hne⟩ := hfiles
  have hselects : Selects d' o (named.map .ofString ++ found) :=
    ⟨named, found, hnamed, finds_of_changes hd hapart hclear hchanges (fun _ h => h) hfound, rfl,
      hne⟩
  have hread {text content : String} (htext : some text ∈ o.before :: o.after :: o.newFiles)
      (h : d.readText (.ofString text) = .ok content) :
      d'.readText (.ofString text) = .ok content :=
    readText_of_changes hchanges (fun t ht => hapart.file t ht text htext) h
  refine ⟨_, before, after, hselects, hbefore, hafter, old, new, sources, ?_, ?_, ?_, rfl⟩
  · exact hread (by simp [hbefore]) hold
  · exact hread (by simp [hafter]) hnew
  · refine reads_of_changes hchanges (fun p hp t ht => ?_) hreads
    rcases List.mem_append.mp hp with hp | hp
    · obtain ⟨text, htext, rfl⟩ := List.mem_map.mp hp
      exact hapart.file t ht text (by simp [hnamed, htext])
    · obtain ⟨text, names, htext, hnames, hnormal⟩ := exists_mem_of_finds hd hfound hp
      rw [hnormal]
      exact hapart.folder t ht text htext names hnames

end

/-! ## The same reports -/

/-- What a run delivers to a disk, by the two writes that it consists of. -/
structure Delivered (d : Disk) (o : Options) (c : Comparison) (middle d' : Disk) : Prop where
  report : reported d o c = (middle, .ok ())
  page : ∀ output, requested o.html = some output →
    middle.writeReport (.ofString output) (Utf8.encode (htmlReport c).toList) = (d', .ok ())
  noPage : requested o.html = none → middle = d'

theorem delivered_of_delivers (h : Delivers d refusal o c) :
    Delivered d o c (reported d o c).1 (paged (reported d o c).1 o c) where
  report := Prod.ext rfl h.1.1
  page := fun output hhtml => paged_eq hhtml (h.2 output hhtml)
  noPage := by
    intro hhtml
    rw [paged, hhtml]

theorem Delivered.delivers {middle : Disk} (h : Delivered d o c middle d')
    (hrefusal : reportFile? o = none → refusal = none) :
    Delivers d refusal o c ∧ paged (reported d o c).1 o c = d' := by
  obtain ⟨hreport, hpage, hnoPage⟩ := h
  refine ⟨⟨⟨by rw [hreport], hrefusal⟩, fun output hhtml => ?_⟩, ?_⟩
  · rw [pageOutcome, hreport, hpage output hhtml]
  · rw [hreport, paged]
    cases hhtml : requested o.html with
    | none => exact hnoPage hhtml
    | some output => exact congrArg Prod.fst (hpage output hhtml)

/-- **Reports that are written again** change nothing. -/
theorem exists_delivered_again {middle : Disk} (hd : d'.WellFormed)
    (h : Delivered d o c middle d') : ∃ middle', Delivered d' o c middle' d' := by
  obtain ⟨hreport, hpage, hnoPage⟩ := h
  cases hfile : reportFile? o with
  | none =>
    have hnone (d : Disk) : reported d o c = (d, .ok ()) := by
      rw [reported, hfile]
    refine ⟨d', hnone d', fun output hhtml => ?_, fun _ => rfl⟩
    exact Disk.writeReport_again hd (hpage output hhtml)
  | some file =>
    have hsome (d : Disk) :
        reported d o c = d.writeReport (.ofString file) (Utf8.encode c.document.toList) := by
      rw [reported, hfile]
    rw [hsome] at hreport
    -- the second report may have gone over the first one, so two reports are taken together
    cases hhtml : requested o.html with
    | none =>
      obtain rfl := hnoPage hhtml
      refine ⟨middle, ?_, fun output houtput => ?_, fun _ => rfl⟩
      · rw [hsome, Disk.writeReport_again hd hreport]
      · rw [hhtml] at houtput
        cases houtput
    | some output =>
      obtain ⟨middle', hreport', hpage'⟩ :=
        Disk.writeReport_twice hd hreport (hpage output hhtml)
      refine ⟨middle', by rw [hsome, hreport'], fun output' houtput => ?_, fun hnone => ?_⟩
      · rw [hhtml] at houtput
        cases houtput
        exact hpage'
      · rw [hhtml] at hnone
        cases hnone

/-! ## Two runs -/

/-- A run with the same arguments, right after a run, ends and prints like it and changes
nothing. -/
def Repeats (session : Session) (refusal : Option String) (arguments : List String) : Prop :=
  let r := run session refusal arguments
  let r' := run r.session refusal arguments
  r'.outcome = r.outcome ∧ r'.stdout = r.stdout ∧ r'.stderr = r.stderr ∧ r'.help = r.help ∧
    r'.misuse = r.misuse ∧ r'.session = r.session

/-- A run that goes well repeats if it leaves no directory with the name of an ignore file. -/
theorem repeats_of_isClear (hd : session.disk.IsSound) (hparse : Options.parse arguments = .ok o)
    (hapart : Apart session.disk o) (hsucceeds : Succeeds session.disk refusal o c)
    (hclear : IsClear (run session refusal arguments).session.disk o) :
    Repeats session refusal arguments := by
  obtain ⟨hreaches, hdelivers⟩ := hsucceeds
  have hdelivers : Delivers session.disk refusal o c := hdelivers
  have hchanges := changes_run session refusal hparse
  obtain ⟨records, hrun⟩ := exists_run_eq_of_succeeds hparse hreaches hdelivers
  have hdisk : (run session refusal arguments).session.disk =
      paged (reported session.disk o c).1 o c := by rw [hrun]
  have hreaches' := reaches_of_changes hd hapart hclear hchanges hreaches
  have hwell := hchanges.wellFormed hd.wellFormed
  rw [hdisk] at hreaches' hwell
  -- the second run starts from what the first one left, so its input and its reports are the same
  obtain ⟨middle, hdelivered⟩ := exists_delivered_again hwell (delivered_of_delivers hdelivers)
  obtain ⟨hdelivers', hpaged⟩ := hdelivered.delivers hdelivers.1.2
  rw [Repeats, hrun]
  obtain ⟨records', hrun'⟩ :=
    @exists_run_eq_of_succeeds { session with disk := paged (reported session.disk o c).1 o c }
      refusal arguments o c hparse hreaches' hdelivers'
  rw [hrun']
  exact ⟨rfl, rfl, rfl, rfl, rfl, by rw [hpaged]⟩

/-- Where a run goes well, no directory of new files has a directory below it with the name of an
ignore file. -/
theorem isClear_of_reaches (hd : d.WellFormed) (h : Reaches d o c) : IsClear d o := by
  obtain ⟨files, -, -, ⟨named, found, -, hfound, -⟩, -⟩ := h
  have hclear {values : List Value} {found : List Path} (h : Finds d values found) :
      ∀ text, some text ∈ values → d.HasNoIgnoreFolder (d.normal (.ofString text)) := by
    induction h with
    | nil => exact nofun
    | @cons text survey values more hsurvey _ ih =>
      intro text' htext
      rcases List.mem_cons.mp htext with heq | htext
      · obtain rfl := Option.some.inj heq
        obtain ⟨place, lines, -, hfolder, hlines, -⟩ := discover_eq_ok_iff.mp hsurvey
        obtain rfl := Disk.eq_normal_of_locate (Disk.folder?_eq_some_iff.mp hfolder).2.1
        intro names hfind
        exact getLast?_ne_of_folder hd hlines (by simp) hfind (by simp)
      · exact ih text' htext
  exact hclear hfound

/-- **A run touches only its targets, and repeating it changes nothing.** A run changes no file but
those that its reports go to, removes nothing, and makes no directory but those that were missing on
the way there; a run that cannot read its arguments changes nothing at all. If a run ends with zero
or one and its targets are apart from its inputs, running the command again on what it left ends and
prints the same and changes nothing, exactly if the run has left no directory with the name of an
ignore file below a directory of new files. -/
theorem run_touches_and_repeats (session : Session) (refusal : Option String)
    (arguments : List String) :
    (∀ stop, Options.parse arguments = .error stop →
        (run session refusal arguments).session = session) ∧
      ∀ o, Options.parse arguments = .ok o →
        session.disk.Touches (targets o) (run session refusal arguments).session.disk ∧
        ∀ code, (run session refusal arguments).outcome = .ok code → code.toNat ∈ [0, 1] →
          session.disk.IsSound → Apart session.disk o →
          (IsClear (run session refusal arguments).session.disk o ↔
            Repeats session refusal arguments) := by
  refine ⟨fun stop => session_run_of_stop, fun o hparse => ?_⟩
  have hchanges := changes_run session refusal hparse
  refine ⟨hchanges.touches, fun code hcode htoNat hd hapart => ?_⟩
  have hne : code ≠ .usage := by
    rintro rfl
    exact absurd htoNat (by decide)
  constructor
  · obtain ⟨o', c, hparse', hsucceeds, -⟩ := (outcome_run_eq_ok_iff hne).mp hcode
    obtain rfl := Except.ok.inj (hparse.symm.trans hparse')
    exact repeats_of_isClear hd hparse hapart hsucceeds
  · -- a second run that goes well has read all ignore files, so none of them is a directory
    rintro ⟨houtcome, -⟩
    rw [hcode] at houtcome
    obtain ⟨o', c, hparse', hsucceeds, -⟩ := (outcome_run_eq_ok_iff hne).mp houtcome
    obtain rfl := Except.ok.inj (hparse.symm.trans hparse')
    exact isClear_of_reaches (hchanges.wellFormed hd.wellFormed) hsucceeds.1

/-! ## A report below a directory of new files and back -/

/-- Three empty files and an empty directory of new files. -/
def storehouse : Disk :=
  ⟨[], [(["a.js"], .file []), (["b.js"], .file []), (["n.js"], .file []), (["new"], .folder)], []⟩

/-- Arguments for it that ask for a report in a file. -/
def storingArguments (output : String) : List String :=
  ["--original", "a.js", "--refactored", "b.js", "--new-file", "n.js", "--new-dir", "new",
    "--format", "json", "--output", output]

/-- The same, read. -/
def storingOptions (output : String) : Options :=
  { before := some "a.js", after := some "b.js", newFiles := [some "n.js"],
    newDirs := [some "new"], format := .json, output := some output, html := none,
    verbose := false }

/-- The comparison of its three files. -/
def emptyComparison : Comparison :=
  .ofTexts "" "" [⟨"n.js", ""⟩]

theorem isSound_storehouse : storehouse.IsSound where
  wellFormed := ⟨by decide, by decide, by decide⟩
  isUpright := Disk.isUpright_of_entries (by decide)
  unlistable := nofun

theorem discover_storehouse :
    discover storehouse (.ofString "new") sourceExtensions = .ok (.ok ⟨[], 0⟩) := by
  have hlines : ignoreLines storehouse (.ofString "new") ["new"] = .ok [] := by
    rw [ignoreLines, ignoreFiles, List.mergeSort_of_pairwise (by decide)]
    rfl
  refine discover_eq_ok_iff.mpr ⟨["new"], [], [], by decide, hlines, rfl, ?_⟩
  have hvisit : Walk.visit storehouse (Ignore.ignores []) (sourceExtensions.map Text.lower)
      ["new"] [] = [] := by
    rw [Walk.visit, List.mergeSort_of_pairwise (by decide)]
    rfl
  rw [Walk.levels_succ_eq_ok_iff, List.flatMap_singleton, hvisit]
  exact ⟨rfl, ⟨[], 0⟩, Walk.levels_nil _ _, rfl, rfl⟩

theorem reaches_storehouse (output : String) :
    Reaches storehouse (storingOptions output) emptyComparison := by
  have hempty : ∀ name ∈ ["a.js", "b.js", "n.js"],
      storehouse.readText (.ofString name) = .ok "" := by decide
  exact ⟨[.ofString "n.js"], "a.js", "b.js",
    ⟨["n.js"], [], rfl, .cons discover_storehouse .nil, rfl, by decide⟩, rfl, rfl,
    "", "", [⟨"n.js", ""⟩], hempty _ (by decide), hempty _ (by decide),
    .cons ⟨"", hempty _ (by decide), by decide⟩ .nil, rfl⟩

/-- The report of a run on it, if it is asked for at a given place, is the only target. -/
theorem targets_storingOptions {output : String} (h : requested (some output) = some output) :
    targets (storingOptions output) = [.ofString output] := by
  have hfile : reportFile? (storingOptions output) = some output := h
  rw [targets, hfile]
  rfl

/-- It is apart from the inputs if it goes to none of them. -/
theorem apart_storehouse {output : String} {place : Location}
    (hrequested : requested (some output) = some output)
    (hplace : storehouse.normal (.ofString output) = place)
    (hinputs : place ∉ [["a.js"], ["b.js"], ["n.js"]]) (hnew : place.head? ≠ some "new") :
    Apart storehouse (storingOptions output) := by
  have htarget : ∀ t ∈ targets (storingOptions output), storehouse.normal t = place := by
    rw [targets_storingOptions hrequested]
    simpa using hplace
  constructor
  · intro t ht text htext heq
    rw [htarget t ht] at heq
    have hnames : text = "a.js" ∨ text = "b.js" ∨ text = "n.js" := by
      simpa [storingOptions] using htext
    rw [heq] at hinputs
    rcases hnames with rfl | rfl | rfl
    · exact hinputs (by decide)
    · exact hinputs (by decide)
    · exact hinputs (by decide)
  · intro t ht text htext names _ heq
    rw [htarget t ht] at heq
    obtain rfl : text = "new" := by simpa [storingOptions] using htext
    rw [heq] at hnew
    exact hnew rfl

/-- A run on it that can write its report goes well. -/
theorem exists_run_storehouse {output : String} {d' : List UInt8 → Disk}
    (hrequested : requested (some output) = some output)
    (hparse : Options.parse (storingArguments output) = .ok (storingOptions output))
    (hwrite : ∀ bytes, storehouse.writeReport (.ofString output) bytes = (d' bytes, .ok ())) :
    ∃ bytes records, run ⟨storehouse, .info⟩ none (storingArguments output) =
      ⟨.ok .passed, "", "", "", "", records, ⟨d' bytes, .info⟩⟩ := by
  have hfile : reportFile? (storingOptions output) = some output := hrequested
  have hreported : reported storehouse (storingOptions output) emptyComparison =
      (d' (Utf8.encode emptyComparison.document.toList), .ok ()) := by
    rw [reported, hfile]
    exact hwrite _
  obtain ⟨records, hrun⟩ := @exists_run_eq_of_succeeds ⟨storehouse, .info⟩ none _ _ _ hparse
    (reaches_storehouse output) ⟨⟨congrArg Prod.snd hreported, fun _ => rfl⟩, fun _ h => by cases h⟩
  have hpassed : codeOf emptyComparison = .passed := by decide
  have hprinted : printedReport (storingOptions output) emptyComparison = "" := by
    simp only [printedReport, storingOptions, hrequested]
  refine ⟨Utf8.encode emptyComparison.document.toList, records, ?_⟩
  rw [hrun, hpassed, hprinted, paged, hreported]
  rfl

/-- A report is written by way of a directory that is made for it below the new files, and again. -/
theorem repeats_storehouse :
    (run ⟨storehouse, .info⟩ none (storingArguments "new/x/../../out/r.json")).outcome =
        .ok .passed ∧
      Repeats ⟨storehouse, .info⟩ none (storingArguments "new/x/../../out/r.json") := by
  have hparse : Options.parse (storingArguments "new/x/../../out/r.json") =
      .ok (storingOptions "new/x/../../out/r.json") := by decide
  obtain ⟨bytes, records, hrun⟩ := @exists_run_storehouse _ (fun bytes =>
    ⟨[], storehouse.entries ++ [(["new", "x"], .folder), (["out"], .folder),
      (["out", "r.json"], .file bytes)], []⟩) rfl hparse fun _ => rfl
  have houtcome : (run ⟨storehouse, .info⟩ none
      (storingArguments "new/x/../../out/r.json")).outcome = .ok .passed := by
    rw [hrun]
  have hrepeats := ((run_touches_and_repeats ⟨storehouse, .info⟩ none _).2 _ hparse).2 _ houtcome
    (by decide) isSound_storehouse (apart_storehouse rfl rfl (by decide) (by decide))
  refine ⟨houtcome, hrepeats.mp fun text _ => ?_⟩
  rw [hrun]
  refine Disk.hasNoIgnoreFolder_of_entries ?_ _
  simp [storehouse, ignoreFileName]

/-- What is left of it by a report that was written by way of a directory with the name of an ignore
file. -/
def spoiltStorehouse (bytes : List UInt8) : Disk :=
  { storehouse with entries := storehouse.entries ++
      [(["new", ignoreFileName], .folder), (["r.json"], .file bytes)] }

theorem discover_spoiltStorehouse (bytes : List UInt8) :
    discover (spoiltStorehouse bytes) (.ofString "new") sourceExtensions =
      .ok (.error ⟨.ofString "new", "failed to read .gitignore files " ++
        "([Errno 21] Is a directory: 'new/.gitignore')"⟩) := by
  have hfiles : ignoreFiles (spoiltStorehouse bytes) ["new"] = [([ignoreFileName], .folder)] := by
    rw [ignoreFiles]
    exact List.mergeSort_singleton _
  have hlines : ignoreLines (spoiltStorehouse bytes) (.ofString "new") ["new"] =
      .error ⟨.ofString "new", "failed to read .gitignore files " ++
        "([Errno 21] Is a directory: 'new/.gitignore')"⟩ := by
    rw [ignoreLines, hfiles]
    rfl
  exact discover_of_ignoreLines_error rfl hlines

/-- If the directory that is made on the way has the name of an ignore file, the run goes well as
before, but it cannot be repeated: now there is an ignore file that cannot be read. -/
theorem not_repeats_after_ignore_folder :
    storehouse.IsSound ∧
      Options.parse (storingArguments "new/.gitignore/../../r.json") =
        .ok (storingOptions "new/.gitignore/../../r.json") ∧
      Apart storehouse (storingOptions "new/.gitignore/../../r.json") ∧
      (run ⟨storehouse, .info⟩ none
        (storingArguments "new/.gitignore/../../r.json")).outcome = .ok .passed ∧
      (run (run ⟨storehouse, .info⟩ none
          (storingArguments "new/.gitignore/../../r.json")).session none
        (storingArguments "new/.gitignore/../../r.json")).outcome = .ok .usage := by
  have hparse : Options.parse (storingArguments "new/.gitignore/../../r.json") =
      .ok (storingOptions "new/.gitignore/../../r.json") := by decide
  obtain ⟨bytes, records, hrun⟩ :=
    @exists_run_storehouse _ spoiltStorehouse rfl hparse fun _ => rfl
  refine ⟨isSound_storehouse, hparse, apart_storehouse rfl rfl (by decide) (by decide),
    by rw [hrun], ?_⟩
  rw [hrun]
  have hfails : InputFails (spoiltStorehouse bytes)
      (storingArguments "new/.gitignore/../../r.json") (.input _) :=
    .discovery hparse (show _ = ["n.js"].map some from rfl)
      (.here (discover_spoiltStorehouse bytes) [])
  obtain ⟨message, -, hreports⟩ :=
    @reports_gather _ _ (Session.journal ⟨spoiltStorehouse bytes, .info⟩ none) _ hfails hparse
  rw [run_eq_runOf hparse, runOf_of_reports hreports]

end Command

end Relocation
