import Mathlib.Data.Set.Card
import Relocation.Proofs.Discovery.Walk

/-!
# What a survey holds

The survey of a walk is what was met at all depths, one depth after another, and what is met at one
depth comes in the order of places.

* `Walk.pairwise_metWith` — **the order**: shallow places come before deep ones, and places of one
  depth in the order of their names,
* `Walk.Drains` — the walk as a queue of directories, which levels only tell in another way,
* `discovery_finds` — **what discovery is for**: all files that are wanted, once each and in order,
  and the number of entries that were rejected.
-/

namespace Relocation

/-! ## The order of a walk -/

/-- A place comes before another one if it is less deep, or as deep and has smaller names. -/
def Location.Earlier (p q : Location) : Prop :=
  p.length < q.length ∨ p.length = q.length ∧ p < q

namespace Location

theorem Earlier.ne {p q : Location} (h : Earlier p q) : p ≠ q := by
  rintro rfl
  obtain h | ⟨-, h⟩ := h
  · exact Nat.lt_irrefl _ h
  · exact List.lt_irrefl p h

theorem Earlier.asymm {p q : Location} (h : Earlier p q) : ¬Earlier q p := by
  rintro (h' | ⟨hlength', h'⟩)
  · obtain h | ⟨hlength, -⟩ := h
    · exact Nat.lt_asymm h h'
    · exact Nat.ne_of_lt h' hlength.symm
  · obtain h | ⟨-, h⟩ := h
    · exact Nat.ne_of_lt h hlength'.symm
    · exact List.lt_asymm h h'

theorem Earlier.append_left {p q : Location} (h : Earlier p q) (start : Location) :
    Earlier (start ++ p) (start ++ q) := by
  obtain h | ⟨hlength, h⟩ := h
  · exact .inl (by simpa using h)
  · exact .inr ⟨by simpa using hlength, List.append_left_lt h⟩

/-- What follows does not matter to the order of different places of one depth. -/
theorem append_lt_append {p q : Location} (hlength : p.length = q.length) (h : p < q)
    (r s : Location) : p ++ r < q ++ s := by
  induction p generalizing q with
  | nil =>
    rw [List.length_nil, eq_comm, List.length_eq_zero_iff] at hlength
    exact absurd (hlength ▸ h) (List.lt_irrefl [])
  | cons a p ih =>
    cases q with
    | nil => cases hlength
    | cons b q =>
      rw [List.cons_append, List.cons_append]
      rw [List.cons_lt_cons_iff] at h ⊢
      exact h.imp_right fun h => ⟨h.1, ih (Nat.succ.inj hlength) h.2⟩

end Location

namespace Walk

variable {d : Disk} {ignored : List Char → Bool} {accepted : List String} {root : Location}
  {path : Path}

section

variable (hd : d.WellFormed)
include hd

/-- The entries of a directory come in the order of their names. -/
theorem pairwise_visit (names : Location) :
    (visit d ignored accepted root names).Pairwise fun x y => x.1 < y.1 := by
  have hsorted : ((d.children (root ++ names)).mergeSort fun a b => a.1 ≤ b.1).Pairwise
      fun a b => decide (a.1 ≤ b.1) = true := by
    refine List.pairwise_mergeSort (fun a b c => ?_) (fun a b => ?_) _
    · simpa using String.le_trans
    · simpa using String.le_total a.1 b.1
  have hnodup : (((d.children (root ++ names)).mergeSort fun a b => a.1 ≤ b.1).map
      Prod.fst).Nodup := by
    rw [((List.mergeSort_perm _ _).map Prod.fst).nodup_iff]
    exact hd.nodup_children _
  rw [visit, List.pairwise_map]
  refine (hsorted.and (List.pairwise_map.mp hnodup)).imp fun {a b} h => ?_
  have hlt : a.1 < b.1 :=
    String.not_le.mp fun hle => h.2 (String.le_antisymm (of_decide_eq_true h.1) hle)
  exact List.append_left_lt (List.cons_lt_cons_iff.mpr (.inl hlt))

/-- What is met at one depth comes in the order of the directories of that depth. -/
theorem pairwise_entriesAt_of_level {depth : Nat}
    (h : (level d ignored accepted root depth).Pairwise (· < ·)) :
    (entriesAt d ignored accepted root depth).Pairwise fun x y => x.1 < y.1 := by
  refine List.pairwise_flatMap.mpr ⟨fun names _ => pairwise_visit hd names, ?_⟩
  refine h.imp_of_mem fun {names names'} hmem hmem' hlt x hx y hy => ?_
  obtain ⟨name, -, hxname, -⟩ := (mem_visit_iff hd).mp hx
  obtain ⟨name', -, hyname, -⟩ := (mem_visit_iff hd).mp hy
  have hlength := ((mem_level_iff hd).mp hmem).1.trans ((mem_level_iff hd).mp hmem').1.symm
  rw [hxname, hyname]
  exact Location.append_lt_append hlength hlt [name] [name']

theorem pairwise_level (depth : Nat) :
    (level d ignored accepted root depth).Pairwise (· < ·) := by
  induction depth with
  | zero => exact List.pairwise_singleton _ _
  | succ depth ih =>
    rw [level_succ, withFate, List.pairwise_map]
    exact (pairwise_entriesAt_of_level hd ih).filter _

theorem pairwise_entriesAt (depth : Nat) :
    (entriesAt d ignored accepted root depth).Pairwise fun x y => x.1 < y.1 :=
  pairwise_entriesAt_of_level hd (pairwise_level hd depth)

/-- **The order of a walk.** What is met comes depth by depth, and in the order of names. -/
theorem pairwise_metWith (f : Fate) (depth rounds : Nat) :
    (metWith d ignored accepted root f depth rounds).Pairwise Location.Earlier := by
  have hlength : ∀ k, ∀ names ∈ withFate f (entriesAt d ignored accepted root k),
      names.length = k + 1 := by
    intro k names hnames
    obtain ⟨dir, name, -, hname, rfl, -⟩ := (mem_entriesAt_iff hd).mp (mem_withFate.mp hnames)
    obtain rfl : names = dir ++ [name] := hname
    rw [List.length_append, List.length_singleton]
  refine List.pairwise_flatMap.mpr ⟨fun k _ => ?_, ?_⟩
  · have hlt : (withFate f (entriesAt d ignored accepted root k)).Pairwise (· < ·) := by
      rw [withFate, List.pairwise_map]
      exact (pairwise_entriesAt hd k).filter _
    refine hlt.imp_of_mem fun hx hy hlt => .inr ⟨?_, hlt⟩
    rw [hlength k _ hx, hlength k _ hy]
  · refine (List.pairwise_lt_range' ..).imp fun {k k'} hlt x hx y hy => .inl ?_
    rw [hlength k x hx, hlength k' y hy]
    exact Nat.add_lt_add_right hlt 1

theorem nodup_metWith (f : Fate) (depth rounds : Nat) :
    (metWith d ignored accepted root f depth rounds).Nodup :=
  (pairwise_metWith hd f depth rounds).imp Location.Earlier.ne

end

/-! ## A queue of directories -/

variable (d ignored accepted root path) in
/-- The walk as a queue of directories. The first one is listed, what it holds is found or skipped,
and the directories in it are put at the end of the queue, until the queue is empty. -/
inductive Drains : (queue : List Location) → Survey → Prop where
  | nil : Drains [] ⟨[], 0⟩
  | cons {names : Location} {rest : List Location} {s : Survey}
      (listable : path.join names ∉ d.unlistable)
      (drains : Drains (rest ++ withFate .entered (visit d ignored accepted root names)) s) :
      Drains (names :: rest)
        ⟨withFate .found (visit d ignored accepted root names) ++ s.found,
          (withFate .skipped (visit d ignored accepted root names)).length + s.skipped⟩

theorem withFate_append (f : Fate) (met met' : List (Location × Fate)) :
    withFate f (met ++ met') = withFate f met ++ withFate f met' := by
  rw [withFate, List.filter_append, List.map_append]
  rfl

/-- The directories at the start of a queue are listed one after another, while the directories in
them gather at its end. -/
theorem Drains.append {start rest : List Location} {s : Survey}
    (hlist : ∀ names ∈ start, path.join names ∉ d.unlistable)
    (h : Drains d ignored accepted root path
      (rest ++ withFate .entered (start.flatMap (visit d ignored accepted root))) s) :
    Drains d ignored accepted root path (start ++ rest)
      ⟨withFate .found (start.flatMap (visit d ignored accepted root)) ++ s.found,
        (withFate .skipped (start.flatMap (visit d ignored accepted root))).length +
          s.skipped⟩ := by
  induction start generalizing rest with
  | nil => simpa [withFate] using h
  | cons names start ih =>
    rw [List.forall_mem_cons] at hlist
    rw [List.flatMap_cons, withFate_append] at h
    simp only [List.cons_append, List.flatMap_cons, withFate_append, List.append_assoc,
      List.length_append, Nat.add_assoc]
    refine Drains.cons (s := ⟨_, _⟩) hlist.1 ?_
    rw [List.append_assoc]
    exact ih hlist.2 (by rwa [List.append_assoc])

theorem unlistable?_eq_none_iff {places : List Location} :
    unlistable? d path places = none ↔ ∀ names ∈ places, path.join names ∉ d.unlistable := by
  simp [unlistable?, List.find?_eq_none]

/-- A walk level by level that comes to an end drains a queue. -/
theorem drains_of_levels {rounds depth : Nat} {s : Survey}
    (hend : level d ignored accepted root (depth + rounds) = [])
    (h : levels d ignored accepted path root rounds (level d ignored accepted root depth) = .ok s) :
    Drains d ignored accepted root path (level d ignored accepted root depth) s := by
  induction rounds generalizing depth s with
  | zero =>
    cases h
    rw [Nat.add_zero] at hend
    rw [hend]
    exact .nil
  | succ rounds ih =>
    obtain ⟨hlist, deeper, hdeeper, hfound, hskipped⟩ := levels_succ_eq_ok_iff.mp h
    have hend : level d ignored accepted root (depth + 1 + rounds) = [] := by
      rwa [Nat.add_right_comm]
    have hdrains :
        Drains d ignored accepted root path (level d ignored accepted root depth ++ []) _ :=
      .append (unlistable?_eq_none_iff.mp hlist) (ih hend hdeeper)
    rw [List.append_nil, ← hfound, ← hskipped] at hdrains
    exact hdrains

end Walk

/-! ## What discovery is for -/

/-- An entry is rejected: the predicate holds of its relative path or, if it is a directory, of this
path with a slash at the end. -/
def Rejects (ignored : List Char → Bool) (names : Location) (entry : Entry) : Prop :=
  ignored (Path.joined names).toList = true ∨
    entry = .folder ∧ ignored ((Path.joined names).toList ++ ['/']) = true

/-- An entry is skipped: it is a directory called `.git`, or it is rejected. -/
def Skips (ignored : List Char → Bool) (names : Location) (entry : Entry) : Prop :=
  entry = .folder ∧ names.getLast? = some ".git" ∨ Rejects ignored names entry

section

variable (d : Disk) (ignored : List Char → Bool) (extensions : List String) (root : Path)
  (place : Location)

/-- A directory that discovery goes into: neither it nor one that leads to it is skipped. -/
def IsVisited (dir : Location) : Prop :=
  d.find? (place ++ dir) = some .folder ∧
    ∀ names, names <+: dir → names ≠ [] → ¬Skips ignored names .folder

/-- A file that discovery is to find: it has one of the suffixes in upper or lower case, and neither
it nor a directory between the root and it is skipped. -/
def IsWanted (names : Location) : Prop :=
  (∃ bytes, d.find? (place ++ names) = some (.file bytes) ∧ ¬Skips ignored names (.file bytes)) ∧
    (∃ name, names.getLast? = some name ∧
      Text.lower (Path.suffix name) ∈ extensions.map Text.lower) ∧
    ∀ dir, dir <+: names → dir ≠ [] → dir ≠ names → ¬Skips ignored dir .folder

/-- The entries that are rejected where discovery comes to them, directories called `.git` apart. -/
def Disk.rejected : Set Location :=
  {names | names ≠ [] ∧ IsVisited d ignored place names.dropLast ∧
    ∃ entry, d.find? (place ++ names) = some entry ∧
      ¬(entry = .folder ∧ names.getLast? = some ".git") ∧ Rejects ignored names entry}

/-- A survey holds all files that are wanted, once each and in order, and counts the entries that
are rejected. -/
structure Survey.IsExact (s : Survey) : Prop where
  mem_paths_iff : ∀ p, p ∈ s.paths root ↔
    ∃ names, p = root.join names ∧ IsWanted d ignored extensions place names
  pairwise_paths : (s.paths root).Pairwise fun p q => Location.Earlier p.segments q.segments
  nodup_paths : (s.paths root).Nodup
  finite_rejected : (d.rejected ignored place).Finite
  skipped_eq : s.skipped = (d.rejected ignored place).ncard

end

theorem Survey.message_record (s : Survey) (root : Path) :
    (s.record root).message = "New file discovery completed (root=" ++ root.text ++ " files=" ++
      toString s.found.length ++ " skipped_by_gitignore=" ++ toString s.skipped ++ ")" := by
  have hfiles : " files=" = " " ++ "files=" := rfl
  rw [hfiles]
  simp only [Survey.record, String.append_assoc]
  rfl

namespace Walk

variable {d : Disk} {ignored : List Char → Bool} {accepted extensions : List String}
  {path : Path} {place : Location}

theorem fate_eq_skipped_iff {names : Location} {entry : Entry} :
    fate ignored accepted names entry = .skipped ↔
      ¬(entry = .folder ∧ names.getLast?.getD "" = ".git") ∧ Rejects ignored names entry := by
  cases entry with
  | file bytes =>
    simp only [fate, Rejects, Entry.isFolder]
    grind
  | folder =>
    simp only [fate, Rejects, Entry.isFolder]
    grind

/-- A directory is entered unless it is skipped. -/
theorem fate_folder_eq_entered_iff {names : Location} (hnames : names ≠ []) :
    fate ignored accepted names .folder = .entered ↔ ¬Skips ignored names .folder := by
  have hlast : names.getLast?.getD "" = ".git" ↔ names.getLast? = some ".git" := by
    rw [List.getLast?_eq_some_getLast hnames, Option.getD_some, Option.some_inj]
  simp [fate_eq_entered_iff, Skips, Rejects, ← hlast]

section

variable (hd : d.WellFormed)
include hd

/-- The walk comes to a directory if no directory on the way to it is skipped. -/
theorem reaches_iff {dir : Location} (hfind : d.find? (place ++ dir) = some .folder) :
    Reaches d ignored accepted place dir ↔
      ∀ names, names <+: dir → names ≠ [] → ¬Skips ignored names .folder := by
  refine forall₃_congr fun names hnames hne => ?_
  rw [Enters, fate_folder_eq_entered_iff hne]
  refine and_iff_right_of_imp fun _ => ?_
  obtain ⟨rest, rfl⟩ := hnames
  by_cases hrest : rest = []
  · rwa [hrest, List.append_nil] at hfind
  · rw [← List.append_assoc] at hfind
    exact hd.find?_of_append hfind hrest

/-- The directories that discovery goes into are those that the walk comes to. -/
theorem isVisited_iff (hplace : d.find? place = some .folder) {dir : Location} :
    IsVisited d ignored place dir ↔ Reaches d ignored accepted place dir := by
  constructor
  · rintro ⟨hfind, hskips⟩
    exact (reaches_iff hd hfind).mpr hskips
  · intro hreach
    have hfind : d.find? (place ++ dir) = some .folder := by
      by_cases hdir : dir = []
      · rwa [hdir, List.append_nil]
      · exact (hreach dir List.prefix_rfl hdir).1
    exact ⟨hfind, (reaches_iff hd hfind).mp hreach⟩

variable (hplace : d.find? place = some .folder)
include hplace

/-- **Soundness and completeness of the walk**: what is found is what is wanted. -/
theorem mem_metWith_found_iff {rounds : Nat} (hrounds : d.entries.length < rounds)
    {names : Location} :
    names ∈ metWith d ignored (extensions.map Text.lower) place .found 0 rounds ↔
      IsWanted d ignored extensions place names := by
  rw [mem_metWith_iff hd hrounds]
  constructor
  · rintro ⟨dir, name, entry, rfl, hreach, hfind, hfate⟩
    obtain ⟨hfile, hpath, hsuffix⟩ := fate_eq_found_iff.mp hfate
    cases entry with
    | folder => cases hfile
    | file bytes =>
      refine ⟨⟨bytes, hfind, by simp [Skips, Rejects, hpath]⟩, ⟨name, by simp, ?_⟩, ?_⟩
      · simpa using hsuffix
      · intro above habove hne hproper
        refine ((isVisited_iff hd hplace).mpr hreach).2 above ?_ hne
        exact (List.prefix_concat_iff.mp habove).resolve_left hproper
  · rintro ⟨⟨bytes, hfind, hskips⟩, ⟨name, hlast, hsuffix⟩, habove⟩
    obtain ⟨dir, rfl⟩ := List.getLast?_eq_some_iff.mp hlast
    have hdir : d.find? (place ++ dir) = some .folder := by
      rw [← List.append_assoc] at hfind
      exact hd.find?_of_append hfind (List.cons_ne_nil name [])
    refine ⟨dir, name, .file bytes, rfl, (reaches_iff hd hdir).mpr ?_, hfind, ?_⟩
    · intro names hnames hne
      refine habove names (hnames.trans (List.prefix_append dir [name])) hne ?_
      rintro rfl
      simpa using hnames.length_le
    · refine fate_eq_found_iff.mpr ⟨rfl, ?_, by simpa using hsuffix⟩
      simpa [Skips, Rejects] using hskips

/-- What is counted is what is rejected. -/
theorem mem_metWith_skipped_iff {rounds : Nat} (hrounds : d.entries.length < rounds)
    {names : Location} :
    names ∈ metWith d ignored accepted place .skipped 0 rounds ↔
      names ∈ d.rejected ignored place := by
  rw [mem_metWith_iff hd hrounds, Disk.rejected, Set.mem_ofPred_eq]
  constructor
  · rintro ⟨dir, name, entry, rfl, hreach, hfind, hfate⟩
    rw [List.dropLast_concat]
    obtain ⟨hgit, hrejects⟩ := fate_eq_skipped_iff.mp hfate
    refine ⟨by simp, (isVisited_iff hd hplace).mpr hreach, entry, hfind, ?_, hrejects⟩
    simpa using hgit
  · rintro ⟨hne, hvisited, entry, hfind, hgit, hrejects⟩
    have hlast := List.getLast?_eq_some_getLast hne
    refine ⟨names.dropLast, names.getLast hne, entry, (List.dropLast_append_getLast hne).symm,
      (isVisited_iff hd hplace).mp hvisited, hfind, fate_eq_skipped_iff.mpr ⟨?_, hrejects⟩⟩
    rw [hlast, Option.getD_some]
    rwa [hlast, Option.some_inj] at hgit

/-- The survey of a walk that goes deep enough holds what it should. -/
theorem isExact_of_metWith {rounds : Nat} (hrounds : d.entries.length < rounds) {s : Survey}
    (hfound : s.found = metWith d ignored (extensions.map Text.lower) place .found 0 rounds)
    (hskipped : s.skipped =
      (metWith d ignored (extensions.map Text.lower) place .skipped 0 rounds).length) :
    s.IsExact d ignored extensions path place := by
  have hpairwise : (s.paths path).Pairwise fun p q => Location.Earlier p.segments q.segments := by
    rw [Survey.paths, List.pairwise_map, hfound]
    exact (pairwise_metWith hd _ _ _).imp fun h => h.append_left path.segments
  have hrejected : d.rejected ignored place =
      ↑(metWith d ignored (extensions.map Text.lower) place .skipped 0 rounds).toFinset := by
    ext names
    rw [List.coe_toFinset, Set.mem_ofPred_eq]
    exact (mem_metWith_skipped_iff hd hplace hrounds).symm
  refine ⟨fun p => ?_, hpairwise, hpairwise.imp fun h heq => h.ne (congrArg _ heq), ?_, ?_⟩
  · rw [Survey.paths, hfound, List.mem_map]
    refine exists_congr fun names => ?_
    rw [mem_metWith_found_iff hd hplace hrounds, eq_comm, and_comm]
  · rw [hrejected]
    exact Finset.finite_toSet _
  · rw [hskipped, hrejected, Set.ncard_coe_finset]
    exact (List.toFinset_card_of_nodup (nodup_metWith hd _ _ _)).symm

end

end Walk

/-- **What discovery finds.** On a tree all of whose visited directories may be listed, the walk
ends, whatever predicate leaves entries out and whatever the suffixes are. It finds all files that
are wanted, once each and in order, and reports how many entries were rejected. -/
theorem discovery_finds {d : Disk} (hd : d.WellFormed) (ignored : List Char → Bool)
    (extensions : List String) (root : Path) {place : Location}
    (hplace : d.find? place = some .folder)
    (hlist : ∀ dir, IsVisited d ignored place dir → root.join dir ∉ d.unlistable) :
    ∃ s : Survey, s.IsExact d ignored extensions root place ∧
      Walk.Drains d ignored (extensions.map Text.lower) place root [[]] s ∧
      (∀ rounds, d.entries.length < rounds →
        Walk.levels d ignored (extensions.map Text.lower) root place rounds [[]] = .ok s) ∧
      (∀ lines rules, d.folder? root = .ok (some place) → ignoreLines d root place = .ok lines →
        Ignore.compileAll lines = .ok rules → Ignore.ignores rules = ignored →
        discover d root extensions = .ok (.ok s)) ∧
      (s.record root).message = "New file discovery completed (root=" ++ root.text ++
        " files=" ++ toString (s.paths root).length ++
        " skipped_by_gitignore=" ++ toString (d.rejected ignored place).ncard ++ ")" := by
  have hlistable : ∀ k, Walk.unlistable? d root
      (Walk.level d ignored (extensions.map Text.lower) place k) = none := by
    intro k
    refine Walk.unlistable?_eq_none_iff.mpr fun dir hdir => hlist dir ?_
    exact (Walk.isVisited_iff hd hplace).mpr ((Walk.mem_level_iff hd).mp hdir).2
  have hlevels : ∀ rounds, d.entries.length < rounds →
      Walk.levels d ignored (extensions.map Text.lower) root place rounds [[]] = .ok
        ⟨Walk.metWith d ignored (extensions.map Text.lower) place .found 0
            (d.entries.length + 1),
          (Walk.metWith d ignored (extensions.map Text.lower) place .skipped 0
            (d.entries.length + 1)).length⟩ := by
    intro rounds hrounds
    refine Walk.levels_root_eq_ok_iff.mpr ⟨fun k _ => hlistable k, ?_, ?_⟩
    · exact (Walk.metWith_eq_of_lt hd hrounds .found).symm
    · exact congrArg _ (Walk.metWith_eq_of_lt hd hrounds .skipped).symm
  have hexact : Survey.IsExact d ignored extensions root place ⟨_, _⟩ :=
    Walk.isExact_of_metWith hd hplace (Nat.lt_succ_self _) rfl rfl
  refine ⟨_, hexact, ?_, hlevels, ?_, ?_⟩
  · refine @Walk.drains_of_levels d ignored _ place root _ 0 _ ?_ (hlevels _ (Nat.lt_succ_self _))
    exact Walk.level_eq_nil hd (by omega)
  · rintro lines rules hfolder hlines hrules rfl
    exact discover_eq_ok_iff.mpr ⟨place, lines, rules, hfolder, hlines, hrules,
      hlevels _ (Nat.lt_succ_self _)⟩
  · rw [Survey.message_record, hexact.skipped_eq, Survey.paths, List.length_map]

/-- A tree with a `.git` directory, one directory that is left out and one that is not. -/
def orchard : Disk where
  cwd := []
  entries :=
    [(["new"], .folder), (["new", ".git"], .folder), (["new", ".git", "e.js"], .file []),
      (["new", "a"], .folder), (["new", "a", "c.PY"], .file []), (["new", "b.js"], .file []),
      (["new", "skip"], .folder), (["new", "skip", "d.js"], .file [])]
  unlistable := []

/-- The survey of the orchard: `.git` is passed over, one directory is skipped and counted, and the
suffix counts in either case. -/
theorem discovery_finds_orchard : ∃ s : Survey,
    s.IsExact orchard (fun path => path == "skip/".toList) [".js", ".py"] ⟨.here, ["new"]⟩ ["new"] ∧
      s.found = [["b.js"], ["a", "c.PY"]] ∧ s.skipped = 1 := by
  obtain ⟨s, hexact, -, hlevels, -, -⟩ := discovery_finds (d := orchard)
    ⟨by decide, by decide, by decide⟩ (fun path => path == "skip/".toList) [".js", ".py"]
    ⟨.here, ["new"]⟩ (show orchard.find? ["new"] = some .folder by decide) (by simp [orchard])
  have hroot : Walk.visit orchard (fun path => path == "skip/".toList)
      ([".js", ".py"].map Text.lower) ["new"] [] =
      [([".git"], .hidden), (["a"], .entered), (["b.js"], .found), (["skip"], .skipped)] := by
    rw [Walk.visit, List.mergeSort_of_pairwise (by decide)]
    decide +kernel
  have hbelow : Walk.visit orchard (fun path => path == "skip/".toList)
      ([".js", ".py"].map Text.lower) ["new"] ["a"] = [(["a", "c.PY"], .found)] := by
    rw [Walk.visit, List.mergeSort_of_pairwise (by decide)]
    decide +kernel
  refine ⟨s, hexact, ?_⟩
  obtain ⟨-, deeper, hdeeper, hfound, hskipped⟩ :=
    Walk.levels_succ_eq_ok_iff.mp (hlevels 9 (by decide))
  rw [List.flatMap_singleton, hroot] at hdeeper hfound hskipped
  have hentered : Walk.withFate .entered [([".git"], .hidden), (["a"], .entered),
      (["b.js"], .found), (["skip"], .skipped)] = [["a"]] := rfl
  obtain ⟨-, rest, hrest, hfound', hskipped'⟩ := Walk.levels_succ_eq_ok_iff.mp hdeeper
  rw [hentered, List.flatMap_singleton, hbelow] at hrest hfound' hskipped'
  cases hrest
  rw [hfound, hfound', hskipped, hskipped']
  exact ⟨rfl, rfl⟩

end Relocation
