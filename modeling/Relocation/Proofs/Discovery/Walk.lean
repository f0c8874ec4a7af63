import Relocation.Discovery
import Relocation.Proofs.Disk.Tree
import Relocation.Proofs.Outcome

/-!
# The walk of discovery

`Walk.levels` goes through a tree level by level. `Walk.level` is one of these levels and
`Walk.entriesAt` what the walk meets there, so that a survey is the sum of what was met at every
depth, and a place is met exactly if all directories that lead to it are entered.

* `discover_eq_ok_iff`, `discover_eq_error_iff` — what a discovery is made of, and how it fails
  without an error for the user,
* `Walk.levels_eq_ok_iff` — **a run of the walk**, told by all its levels,
* `Walk.mem_level_iff` — the directories of a level are those that can be reached,
* `Walk.level_eq_nil` — the walk ends before it has gone through more levels than there are entries,
* `Walk.mem_metWith_iff` — what is met with some fate: all that has it where the walk comes,
* `Walk.mem_found_iff` — **what is found**: the files of the tree that are reached, not left out,
  and have one of the suffixes.
-/

namespace Relocation

/-! ## Parts of a discovery -/

/-- A discovery whose root is a directory and whose ignore files can be read and compiled comes to
its walk. -/
theorem discover_of_compileAll {d : Disk} {root : Path} {place : Location}
    {lines : List (List Char)} {rules : List Ignore.Rule}
    (hfolder : d.folder? root = .ok (some place))
    (hlines : ignoreLines d root place = .ok lines) (hrules : Ignore.compileAll lines = .ok rules)
    (extensions : List String) :
    discover d root extensions = .ok (Walk.levels d (Ignore.ignores rules)
      (extensions.map Text.lower) root place (d.entries.length + 1) [[]]) := by
  rw [discover, Outcome.bind_eq_ok_iff]
  refine ⟨some place, Outcome.mapError_eq_ok_iff.mpr hfolder, ?_⟩
  simp only [hlines]
  exact Outcome.bind_eq_ok_iff.mpr ⟨rules, Outcome.mapError_eq_ok_iff.mpr hrules, rfl⟩

/-- A discovery succeeds when its root is a directory, all ignore files can be read and compiled,
and the walk meets no directory that may not be listed. -/
theorem discover_eq_ok_iff {d : Disk} {root : Path} {extensions : List String} {s : Survey} :
    discover d root extensions = .ok (.ok s) ↔
      ∃ place lines rules, d.folder? root = .ok (some place) ∧
        ignoreLines d root place = .ok lines ∧ Ignore.compileAll lines = .ok rules ∧
        Walk.levels d (Ignore.ignores rules) (extensions.map Text.lower) root place
          (d.entries.length + 1) [[]] = .ok s := by
  rw [discover, Outcome.bind_eq_ok_iff]
  simp only [Outcome.mapError_eq_ok_iff]
  constructor
  · rintro ⟨found, hfolder, h⟩
    cases found with
    | none => cases h
    | some place =>
      cases hlines : ignoreLines d root place with
      | error e =>
        simp only [hlines] at h
        cases h
      | ok lines =>
        simp only [hlines] at h
        obtain ⟨rules, hrules, h⟩ := Outcome.bind_eq_ok_iff.mp h
        rw [Outcome.mapError_eq_ok_iff] at hrules
        exact ⟨place, lines, rules, hfolder, hlines, hrules, Outcome.pure_eq_ok_iff.mp h⟩
  · rintro ⟨place, lines, rules, hfolder, hlines, hrules, hlevels⟩
    have hwalk := discover_of_compileAll hfolder hlines hrules extensions
    rw [discover, Outcome.bind_eq_ok_iff, hlevels] at hwalk
    simpa only [Outcome.mapError_eq_ok_iff] using hwalk

/-- A discovery whose ignore files cannot be read ends with the error that reading them ends with.
-/
theorem discover_of_ignoreLines_error {d : Disk} {root : Path} {extensions : List String}
    {place : Location} {e : InputError} (hfolder : d.folder? root = .ok (some place))
    (hlines : ignoreLines d root place = .error e) :
    discover d root extensions = .ok (.error e) := by
  rw [discover, Outcome.bind_eq_ok_iff]
  refine ⟨some place, Outcome.mapError_eq_ok_iff.mpr hfolder, ?_⟩
  simp only [hlines]
  rfl

/-- A discovery that nobody takes care of: the path cannot be asked about, or a line is refused. -/
theorem discover_eq_error_iff {d : Disk} {root : Path} {extensions : List String} {a : Abort} :
    discover d root extensions = .error a ↔
      (∃ fault, d.folder? root = .error fault ∧ a = .fault fault) ∨
        ∃ place lines fault, d.folder? root = .ok (some place) ∧
          ignoreLines d root place = .ok lines ∧ Ignore.compileAll lines = .error fault ∧
          a = .badRule fault := by
  rw [discover, Outcome.bind_eq_error_iff]
  simp only [Outcome.mapError_eq_ok_iff, Outcome.mapError_eq_error_iff]
  refine or_congr_right ?_
  constructor
  · rintro ⟨found, hfolder, h⟩
    cases found with
    | none => cases h
    | some place =>
      cases hlines : ignoreLines d root place with
      | error e =>
        simp only [hlines] at h
        cases h
      | ok lines =>
        simp only [hlines] at h
        obtain hcompile | ⟨rules, -, h⟩ := Outcome.bind_eq_error_iff.mp h
        · obtain ⟨fault, hrules, rfl⟩ := Outcome.mapError_eq_error_iff.mp hcompile
          exact ⟨place, lines, fault, hfolder, hlines, hrules, rfl⟩
        · cases h
  · rintro ⟨place, lines, fault, hfolder, hlines, hrules, rfl⟩
    refine ⟨some place, hfolder, ?_⟩
    simp only [hlines]
    exact Outcome.bind_eq_error_iff.mpr
      (.inl (Outcome.mapError_eq_error_iff.mpr ⟨fault, hrules, rfl⟩))

namespace Walk

variable (d : Disk) (ignored : List Char → Bool) (accepted : List String) (root : Location)

/-! ## Levels -/

/-- The directories that the walk goes through at some depth below the root. -/
def level : Nat → List Location
  | 0 => [[]]
  | depth + 1 => withFate .entered ((level depth).flatMap (visit d ignored accepted root))

/-- What the walk meets in the directories at some depth. -/
def entriesAt (depth : Nat) : List (Location × Fate) :=
  (level d ignored accepted root depth).flatMap (visit d ignored accepted root)

variable {d ignored accepted root} {path : Path}

theorem level_succ (depth : Nat) :
    level d ignored accepted root (depth + 1) =
      withFate .entered (entriesAt d ignored accepted root depth) := rfl

theorem entriesAt_eq_nil {depth : Nat} (h : level d ignored accepted root depth = []) :
    entriesAt d ignored accepted root depth = [] := by
  rw [entriesAt, h]
  rfl

/-! ## Runs -/

variable (d ignored accepted root) in
/-- All that the walk meets with some fate, from one depth on and at so many depths. -/
def metWith (f : Fate) (depth rounds : Nat) : List Location :=
  (List.range' depth rounds).flatMap fun k => withFate f (entriesAt d ignored accepted root k)

theorem metWith_succ (f : Fate) (depth rounds : Nat) :
    metWith d ignored accepted root f depth (rounds + 1) =
      withFate f (entriesAt d ignored accepted root depth) ++
        metWith d ignored accepted root f (depth + 1) rounds := by
  rw [metWith, List.range'_succ, List.flatMap_cons]
  rfl

theorem mem_withFate {f : Fate} {met : List (Location × Fate)} {names : Location} :
    names ∈ withFate f met ↔ (names, f) ∈ met := by
  rw [withFate, List.mem_map]
  constructor
  · rintro ⟨⟨_, f'⟩, hmem, rfl⟩
    obtain ⟨hmem, hf⟩ := List.mem_filter.mp hmem
    exact beq_iff_eq.mp hf ▸ hmem
  · intro hmem
    exact ⟨_, List.mem_filter.mpr ⟨hmem, beq_self_eq_true f⟩, rfl⟩

theorem levels_nil (path : Path) (rounds : Nat) :
    levels d ignored accepted path root rounds [] = .ok ⟨[], 0⟩ := by
  cases rounds <;> rfl

/-- **A step of the walk.** It fails if some directory of the level may not be listed, else it adds
what it finds there to what is found further down. -/
theorem levels_succ_eq_ok_iff {path : Path} {rounds : Nat} {level : List Location} {s : Survey} :
    levels d ignored accepted path root (rounds + 1) level = .ok s ↔
      unlistable? d path level = none ∧
        ∃ deeper, levels d ignored accepted path root rounds
            (withFate .entered (level.flatMap (visit d ignored accepted root))) = .ok deeper ∧
          s.found =
            withFate .found (level.flatMap (visit d ignored accepted root)) ++ deeper.found ∧
          s.skipped =
            (withFate .skipped (level.flatMap (visit d ignored accepted root))).length +
              deeper.skipped := by
  rw [levels]
  cases hlist : unlistable? d path level with
  | some p => simp
  | none =>
    cases level with
    | nil =>
      simp only [List.isEmpty_nil, if_true, List.flatMap_nil, true_and]
      constructor
      · intro h
        cases h
        exact ⟨⟨[], 0⟩, levels_nil path rounds, rfl, rfl⟩
      · rintro ⟨deeper, hdeeper, hfound, hskipped⟩
        cases (levels_nil path rounds).symm.trans hdeeper
        cases s
        simp_all [withFate]
    | cons names rest =>
      simp only [List.isEmpty_cons, Bool.false_eq_true, if_false, Outcome.bind_eq_ok_iff,
        Outcome.pure_eq_ok_iff, true_and]
      refine exists_congr fun deeper => and_congr_right fun _ => ?_
      cases s
      simp [eq_comm]

/-- **A run of the walk**, told by all its levels. It needs that all directories of these levels
may be listed, and its survey is what was found and skipped there. -/
theorem levels_eq_ok_iff {rounds depth : Nat} {s : Survey} :
    levels d ignored accepted path root rounds (level d ignored accepted root depth) = .ok s ↔
      (∀ k ∈ List.range' depth rounds,
        unlistable? d path (level d ignored accepted root k) = none) ∧
      s.found = metWith d ignored accepted root .found depth rounds ∧
      s.skipped = (metWith d ignored accepted root .skipped depth rounds).length := by
  induction rounds generalizing depth s with
  | zero =>
    cases s
    simp [levels, metWith, eq_comm]
  | succ rounds ih =>
    rw [levels_succ_eq_ok_iff, List.range'_succ, List.forall_mem_cons, metWith_succ, metWith_succ,
      List.length_append, and_assoc]
    refine and_congr_right fun _ => ?_
    change (∃ deeper, levels d ignored accepted path root rounds
      (level d ignored accepted root (depth + 1)) = .ok deeper ∧ _) ↔ _
    constructor
    · rintro ⟨deeper, hdeeper, hfound, hskipped⟩
      obtain ⟨hlist, hf, hs⟩ := ih.mp hdeeper
      exact ⟨hlist, hf ▸ hfound, hs ▸ hskipped⟩
    · rintro ⟨hlist, hfound, hskipped⟩
      exact ⟨⟨_, _⟩, ih.mpr ⟨hlist, rfl, rfl⟩, hfound, hskipped⟩

/-- A run of the walk from the root of the tree. -/
theorem levels_root_eq_ok_iff {rounds : Nat} {s : Survey} :
    levels d ignored accepted path root rounds [[]] = .ok s ↔
      (∀ k < rounds, unlistable? d path (level d ignored accepted root k) = none) ∧
      s.found = metWith d ignored accepted root .found 0 rounds ∧
      s.skipped = (metWith d ignored accepted root .skipped 0 rounds).length := by
  change levels d ignored accepted path root rounds (level d ignored accepted root 0) = .ok s ↔ _
  rw [levels_eq_ok_iff]
  simp [List.mem_range'_1]

/-- What is found is on the disk. -/
theorem mem_entries_of_mem_found {path : Path} {rounds : Nat} {s : Survey} {names : Location}
    (h : levels d ignored accepted path root rounds [[]] = .ok s) (hnames : names ∈ s.found) :
    ∃ entry, (root ++ names, entry) ∈ d.entries := by
  rw [(levels_root_eq_ok_iff.mp h).2.1] at hnames
  obtain ⟨depth, -, hmem⟩ := List.mem_flatMap.mp hnames
  obtain ⟨dir, -, hvisit⟩ := List.mem_flatMap.mp (mem_withFate.mp hmem)
  obtain ⟨⟨name, entry⟩, hchild, hname⟩ := List.mem_map.mp hvisit
  obtain ⟨rfl, -⟩ := Prod.mk.inj hname
  refine ⟨entry, ?_⟩
  rw [← List.append_assoc]
  exact Disk.mem_children.mp (List.mem_mergeSort.mp hchild)

/-- A walk over directories that may all be listed succeeds. -/
theorem exists_levels_eq_ok (hlist : d.unlistable = []) (path : Path) (rounds : Nat)
    (start : List Location) :
    ∃ s, levels d ignored accepted path root rounds start = .ok s := by
  induction rounds generalizing start with
  | zero => exact ⟨⟨[], 0⟩, rfl⟩
  | succ rounds ih =>
    obtain ⟨deeper, hdeeper⟩ :=
      ih (withFate .entered (start.flatMap (visit d ignored accepted root)))
    refine ⟨⟨_, _⟩, levels_succ_eq_ok_iff.mpr ⟨?_, deeper, hdeeper, rfl, rfl⟩⟩
    simp [unlistable?, hlist]

/-! ## Fates -/

/-- A directory is entered unless it is called `.git` or is left out, with or without a slash at
the end. -/
theorem fate_eq_entered_iff {names : Location} {entry : Entry} :
    fate ignored accepted names entry = .entered ↔
      entry = .folder ∧ names.getLast?.getD "" ≠ ".git" ∧
        ignored (Path.joined names).toList = false ∧
        ignored ((Path.joined names).toList ++ ['/']) = false := by
  cases entry with
  | file bytes =>
    simp only [fate, Entry.isFolder]
    grind
  | folder =>
    simp only [fate, Entry.isFolder]
    grind

/-- A file is found if it is not left out and has one of the suffixes. -/
theorem fate_eq_found_iff {names : Location} {entry : Entry} :
    fate ignored accepted names entry = .found ↔
      entry.isFolder = false ∧ ignored (Path.joined names).toList = false ∧
        Text.lower (Path.suffix (names.getLast?.getD "")) ∈ accepted := by
  cases entry with
  | file bytes =>
    simp only [fate, Entry.isFolder, List.contains_iff_mem]
    grind
  | folder =>
    simp only [fate, Entry.isFolder]
    grind

/-! ## What is reached -/

variable (d ignored accepted root)

/-- The walk goes through a directory when it comes to it. -/
def Enters (names : Location) : Prop :=
  d.find? (root ++ names) = some .folder ∧ fate ignored accepted names .folder = .entered

/-- The walk comes to a directory: it goes through all that lead to it, and through itself. -/
def Reaches (names : Location) : Prop :=
  ∀ q, q <+: names → q ≠ [] → Enters d ignored accepted root q

variable {d ignored accepted root}

theorem reaches_nil : Reaches d ignored accepted root [] := by
  intro q hq hne
  exact absurd (List.prefix_nil.mp hq) hne

theorem reaches_append_singleton_iff {names : Location} {name : String} :
    Reaches d ignored accepted root (names ++ [name]) ↔
      Reaches d ignored accepted root names ∧ Enters d ignored accepted root (names ++ [name]) := by
  constructor
  · intro h
    refine ⟨fun q hq hne => h q (hq.trans (List.prefix_append names [name])) hne, ?_⟩
    exact h _ List.prefix_rfl (by simp)
  · rintro ⟨h, hlast⟩ q hq hne
    rcases List.prefix_concat_iff.mp hq with rfl | hq
    · exact hlast
    · exact h q hq hne

variable (hd : d.WellFormed)
include hd

theorem mem_visit_iff {names : Location} {met : Location × Fate} :
    met ∈ visit d ignored accepted root names ↔
      ∃ name entry, met.1 = names ++ [name] ∧ d.find? (root ++ names ++ [name]) = some entry ∧
        met.2 = fate ignored accepted met.1 entry := by
  rw [visit, List.mem_map]
  constructor
  · rintro ⟨⟨name, entry⟩, hmem, rfl⟩
    exact ⟨name, entry, rfl, hd.mem_children_iff.mp (List.mem_mergeSort.mp hmem), rfl⟩
  · rintro ⟨name, entry, hname, hfind, hfate⟩
    refine ⟨(name, entry), List.mem_mergeSort.mpr (hd.mem_children_iff.mpr hfind), ?_⟩
    rw [hname] at hfate
    exact Prod.ext hname.symm hfate.symm

/-- The directories of a level are those of its depth that can be reached. -/
theorem mem_level_iff {depth : Nat} {names : Location} :
    names ∈ level d ignored accepted root depth ↔
      names.length = depth ∧ Reaches d ignored accepted root names := by
  induction depth generalizing names with
  | zero =>
    rw [level, List.mem_singleton, List.length_eq_zero_iff]
    exact ⟨fun h => ⟨h, h ▸ reaches_nil⟩, And.left⟩
  | succ depth ih =>
    rw [level_succ, mem_withFate, entriesAt, List.mem_flatMap]
    constructor
    · rintro ⟨dir, hdir, hvisit⟩
      obtain ⟨hlength, hreach⟩ := ih.mp hdir
      obtain ⟨name, entry, hnames, hfind, hfate⟩ := (mem_visit_iff hd).mp hvisit
      obtain rfl : names = dir ++ [name] := hnames
      obtain ⟨rfl, -⟩ := fate_eq_entered_iff.mp hfate.symm
      rw [List.append_assoc] at hfind
      exact ⟨by simp [hlength], reaches_append_singleton_iff.mpr ⟨hreach, hfind, hfate.symm⟩⟩
    · rintro ⟨hlength, hreach⟩
      rcases List.eq_nil_or_concat names with rfl | ⟨dir, name, rfl⟩
      · cases hlength
      · rw [List.concat_eq_append] at hlength hreach ⊢
        rw [List.length_append, List.length_singleton, Nat.add_right_cancel_iff] at hlength
        obtain ⟨hreach, hfind, hfate⟩ := reaches_append_singleton_iff.mp hreach
        rw [← List.append_assoc] at hfind
        exact ⟨dir, ih.mpr ⟨hlength, hreach⟩,
          (mem_visit_iff hd).mpr ⟨name, .folder, rfl, hfind, hfate.symm⟩⟩

/-- What is met is in a directory that can be reached. -/
theorem mem_entriesAt_iff {depth : Nat} {met : Location × Fate} :
    met ∈ entriesAt d ignored accepted root depth ↔
      ∃ dir name entry, met.1 = dir ++ [name] ∧ dir.length = depth ∧
        Reaches d ignored accepted root dir ∧ d.find? (root ++ met.1) = some entry ∧
        met.2 = fate ignored accepted met.1 entry := by
  rw [entriesAt, List.mem_flatMap]
  constructor
  · rintro ⟨dir, hdir, hmet⟩
    obtain ⟨hlength, hreach⟩ := (mem_level_iff hd).mp hdir
    obtain ⟨name, entry, hname, hfind, hfate⟩ := (mem_visit_iff hd).mp hmet
    rw [List.append_assoc, ← hname] at hfind
    exact ⟨dir, name, entry, hname, hlength, hreach, hfind, hfate⟩
  · rintro ⟨dir, name, entry, hname, hlength, hreach, hfind, hfate⟩
    rw [hname, ← List.append_assoc] at hfind
    exact ⟨dir, (mem_level_iff hd).mpr ⟨hlength, hreach⟩,
      (mem_visit_iff hd).mpr ⟨name, entry, hname, hfind, hfate⟩⟩

/-! ## Where the walk ends -/

/-- No level is deeper than there are entries. -/
theorem level_eq_nil {depth : Nat} (hdepth : d.entries.length < depth) :
    level d ignored accepted root depth = [] := by
  refine List.eq_nil_iff_forall_not_mem.mpr fun names hnames => ?_
  obtain ⟨rfl, hreach⟩ := (mem_level_iff hd).mp hnames
  have hne : names ≠ [] := by
    rintro rfl
    exact Nat.not_lt_zero _ hdepth
  have hle := hd.length_le (hreach names List.prefix_rfl hne).1
  rw [List.length_append] at hle
  omega

/-- Nothing is met deeper than there are entries. -/
theorem metWith_eq_nil {depth : Nat} (hdepth : d.entries.length < depth) (f : Fate)
    (rounds : Nat) : metWith d ignored accepted root f depth rounds = [] := by
  refine List.flatMap_eq_nil_iff.mpr fun k hk => ?_
  have hk := (List.mem_range'_1.mp hk).1
  rw [entriesAt_eq_nil (level_eq_nil hd (Nat.lt_of_lt_of_le hdepth hk))]
  rfl

/-- A walk that may go deeper than there are entries meets nothing more. -/
theorem metWith_eq_of_lt {rounds : Nat} (hrounds : d.entries.length < rounds) (f : Fate) :
    metWith d ignored accepted root f 0 rounds =
      metWith d ignored accepted root f 0 (d.entries.length + 1) := by
  obtain ⟨more, rfl⟩ := Nat.exists_eq_add_of_le hrounds
  rw [metWith, ← List.range'_append_1, List.flatMap_append]
  exact (congrArg _ (metWith_eq_nil hd (by omega) f more)).trans (List.append_nil _)

theorem mem_metWith_iff {f : Fate} {rounds : Nat} (hrounds : d.entries.length < rounds)
    {names : Location} : names ∈ metWith d ignored accepted root f 0 rounds ↔
      ∃ dir name entry, names = dir ++ [name] ∧ Reaches d ignored accepted root dir ∧
        d.find? (root ++ names) = some entry ∧ fate ignored accepted names entry = f := by
  rw [metWith, List.mem_flatMap]
  constructor
  · rintro ⟨depth, -, hmem⟩
    obtain ⟨dir, name, entry, hnames, -, hreach, hfind, hfate⟩ :=
      (mem_entriesAt_iff hd).mp (mem_withFate.mp hmem)
    exact ⟨dir, name, entry, hnames, hreach, hfind, hfate.symm⟩
  · rintro ⟨dir, name, entry, rfl, hreach, hfind, hfate⟩
    have hle := hd.length_le hfind
    rw [List.length_append, List.length_append, List.length_singleton] at hle
    refine ⟨dir.length, List.mem_range'_1.mpr (by omega), mem_withFate.mpr ?_⟩
    exact (mem_entriesAt_iff hd).mpr ⟨dir, name, entry, rfl, rfl, hreach, hfind, hfate.symm⟩

/-- **What is found.** A file is found exactly if it is in a directory that the walk reaches, is not
left out, and has one of the suffixes. -/
theorem mem_found_iff {path : Path} {s : Survey} {names : Location}
    (h : levels d ignored accepted path root (d.entries.length + 1) [[]] = .ok s) :
    names ∈ s.found ↔
      ∃ dir name bytes, names = dir ++ [name] ∧ Reaches d ignored accepted root dir ∧
        d.find? (root ++ names) = some (.file bytes) ∧
        ignored (Path.joined names).toList = false ∧
        Text.lower (Path.suffix name) ∈ accepted := by
  rw [(levels_root_eq_ok_iff.mp h).2.1, mem_metWith_iff hd (Nat.lt_succ_self _)]
  constructor
  · rintro ⟨dir, name, entry, rfl, hreach, hfind, hfate⟩
    obtain ⟨hfile, hpath, hsuffix⟩ := fate_eq_found_iff.mp hfate
    cases entry with
    | folder => cases hfile
    | file bytes => exact ⟨dir, name, bytes, rfl, hreach, hfind, hpath, by simpa using hsuffix⟩
  · rintro ⟨dir, name, bytes, rfl, hreach, hfind, hpath, hsuffix⟩
    exact ⟨dir, name, .file bytes, rfl, hreach, hfind,
      fate_eq_found_iff.mpr ⟨rfl, hpath, by simpa using hsuffix⟩⟩

end Walk

end Relocation
