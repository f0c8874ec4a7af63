import Relocation.Proofs.Discovery.Origins
import Relocation.Proofs.Discovery.Survey
import Relocation.Proofs.Ignore.Verdict

/-!
# Directories that are taken back

Discovery asks for a directory by its path and by its path with a slash at the end, and skips it if
either form is left out. A rule that is meant for directories only, like `!build/`, has a say on the
second form alone, so it cannot take a directory back that is left out by its bare path.

* `Walk.SkipsAt` — the walk skips an entry where it comes to it,
* `Walk.skipsAt_folder_iff`, `Walk.not_prefix_of_skipsAt` — for a directory, and what this means for
  all that is below it,
* `skipsAt_iff_and_takesBack` — **which directories are skipped**, and for which of them this is the
  verdict on the form with the slash.
-/

namespace Relocation

/-- A discovery that comes to its walk: the root is a directory, and the lines of the ignore files
below it are compiled to rules. -/
structure Ruled (d : Disk) (root : Path) (place : Location) (lines : List (List Char))
    (rules : List Ignore.Rule) : Prop where
  wellFormed : d.WellFormed
  folder : d.folder? root = .ok (some place)
  ignoreLines_eq : ignoreLines d root place = .ok lines
  compileAll_eq : Ignore.compileAll lines = .ok rules

theorem Ruled.find?_place {d : Disk} {root : Path} {place : Location} {lines : List (List Char)}
    {rules : List Ignore.Rule} (h : Ruled d root place lines rules) :
    d.find? place = some .folder :=
  (Disk.folder?_eq_some_iff.mp h.folder).2.2

/-! ## Skipped directories -/

namespace Walk

/-- The walk skips an entry where it comes to it, in the directory that holds it. -/
def SkipsAt (d : Disk) (ignored : List Char → Bool) (accepted : List String)
    (place names : Location) : Prop :=
  (names, Fate.skipped) ∈ visit d ignored accepted place names.dropLast

variable {d : Disk} {ignored : List Char → Bool} {accepted : List String} {place names : Location}

/-- A directory that is not called `.git` is skipped if one of its two forms is left out. -/
theorem skipsAt_folder_iff (hd : d.WellFormed) (hne : names ≠ [])
    (hfind : d.find? (place ++ names) = some .folder) (hgit : names.getLast? ≠ some ".git") :
    SkipsAt d ignored accepted place names ↔ ignored (Path.joined names).toList = true ∨
      ignored ((Path.joined names).toList ++ ['/']) = true := by
  have hlast : names.getLast?.getD "" ≠ ".git" := by
    rw [List.getLast?_eq_some_getLast hne] at hgit ⊢
    exact fun h => hgit (congrArg some h)
  have hnames := List.dropLast_append_getLast hne
  have hmet : d.find? (place ++ names.dropLast ++ [names.getLast hne]) = some .folder := by
    rwa [List.append_assoc, hnames]
  have hfate : SkipsAt d ignored accepted place names ↔
      fate ignored accepted names .folder = .skipped := by
    rw [SkipsAt, mem_visit_iff hd]
    constructor
    · rintro ⟨name, entry, hname, hentry, hfate⟩
      obtain rfl : name = names.getLast hne := by
        have hsame := hnames.trans hname
        exact (List.cons.inj (List.append_cancel_left hsame)).1.symm
      cases hmet.symm.trans hentry
      exact hfate.symm
    · intro hfate
      exact ⟨_, .folder, hnames.symm, hmet, hfate.symm⟩
  rw [hfate, fate_eq_skipped_iff, Rejects]
  simp [hlast]

/-- A directory that the walk comes to is gone through unless it is skipped. -/
theorem isVisited_iff_not_skipsAt (hd : d.WellFormed) (hne : names ≠ [])
    (habove : IsVisited d ignored place names.dropLast)
    (hfind : d.find? (place ++ names) = some .folder) (hgit : names.getLast? ≠ some ".git") :
    IsVisited d ignored place names ↔ ¬SkipsAt d ignored accepted place names := by
  have hskips : Skips ignored names .folder ↔ SkipsAt d ignored accepted place names := by
    rw [skipsAt_folder_iff hd hne hfind hgit, Skips, Rejects]
    simp [hgit]
  rw [← hskips]
  constructor
  · exact fun h => h.2 names List.prefix_rfl hne
  · refine fun h => ⟨hfind, fun q hq hqne => ?_⟩
    rw [← List.dropLast_append_getLast hne] at hq
    rcases List.prefix_concat_iff.mp hq with rfl | hq
    · rwa [List.dropLast_append_getLast hne]
    · exact habove.2 q hq hqne

/-- Nothing is found below a directory that is not gone through. -/
theorem not_prefix_of_not_isVisited (hd : d.WellFormed) (hplace : d.find? place = some .folder)
    (hfind : d.find? (place ++ names) = some .folder) (hnot : ¬IsVisited d ignored place names)
    {path : Path} {s : Survey}
    (hs : levels d ignored accepted path place (d.entries.length + 1) [[]] = .ok s)
    {file : Location} (hfile : file ∈ s.found) : ¬names <+: file := by
  obtain ⟨dir, name, bytes, rfl, hreach, hbytes, -⟩ := (mem_found_iff hd hs).mp hfile
  intro hnames
  rcases List.prefix_concat_iff.mp hnames with rfl | hnames
  · cases hfind.symm.trans hbytes
  · exact hnot ((isVisited_iff hd hplace).mpr fun q hq => hreach q (hq.trans hnames))

end Walk

/-- **Which directories are skipped.** A directory that the walk comes to is skipped if one of its
two forms is left out, and then nothing below it is found. This is the verdict on the form with the
slash exactly if the rules do not take the directory back. If they do, which takes a negation, the
directory is skipped all the same. -/
theorem skipsAt_iff_and_takesBack {d : Disk} {root : Path} {place : Location}
    {lines : List (List Char)} {rules : List Ignore.Rule} (h : Ruled d root place lines rules)
    (extensions : List String) {names : Location} (hne : names ≠ [])
    (habove : IsVisited d (Ignore.ignores rules) place names.dropLast)
    (hfind : d.find? (place ++ names) = some .folder) (hgit : names.getLast? ≠ some ".git") :
    (Walk.SkipsAt d (Ignore.ignores rules) (extensions.map Text.lower) place names ↔
      Ignore.ignores rules (Path.joined names).toList = true ∨
        Ignore.ignores rules ((Path.joined names).toList ++ ['/']) = true) ∧
    (IsVisited d (Ignore.ignores rules) place names ↔
      ¬Walk.SkipsAt d (Ignore.ignores rules) (extensions.map Text.lower) place names) ∧
    (Walk.SkipsAt d (Ignore.ignores rules) (extensions.map Text.lower) place names →
      ∀ s, discover d root extensions = .ok (.ok s) → ∀ file ∈ s.found, ¬names <+: file) ∧
    ((Walk.SkipsAt d (Ignore.ignores rules) (extensions.map Text.lower) place names ↔
        Ignore.ignores rules ((Path.joined names).toList ++ ['/']) = true) ↔
      ¬Ignore.TakesBack rules (Path.joined names).toList) ∧
    ((Path.joined names).toList.getLast? ≠ some '\n' →
      Ignore.TakesBack rules (Path.joined names).toList →
      ∃ r r', Ignore.Decides rules (Path.joined names).toList r ∧ r.negated = false ∧
        Ignore.Decides rules ((Path.joined names).toList ++ ['/']) r' ∧ r'.negated = true ∧
        ((∃ before middle after, rules = before ++ r :: (middle ++ r' :: after)) ∨
          r.search ((Path.joined names).toList ++ ['/']) = some .folder ∧
            r'.search ((Path.joined names).toList ++ ['/']) = some .entry)) := by
  have hskips : Walk.SkipsAt d (Ignore.ignores rules) (extensions.map Text.lower) place names ↔ _ :=
    Walk.skipsAt_folder_iff h.wellFormed hne hfind hgit
  have hvisited : IsVisited d (Ignore.ignores rules) place names ↔
      ¬Walk.SkipsAt d (Ignore.ignores rules) (extensions.map Text.lower) place names :=
    Walk.isVisited_iff_not_skipsAt h.wellFormed hne habove hfind hgit
  refine ⟨hskips, hvisited, fun hskip s hs file hfile => ?_, ?_, fun hpath htakes => ?_⟩
  · obtain ⟨place', lines', rules', hfolder, hlines, hrules, hlevels⟩ := discover_eq_ok_iff.mp hs
    cases h.folder.symm.trans hfolder
    cases h.ignoreLines_eq.symm.trans hlines
    cases h.compileAll_eq.symm.trans hrules
    exact Walk.not_prefix_of_not_isVisited h.wellFormed h.find?_place hfind
      (fun hvisit => hvisited.mp hvisit hskip) hlevels hfile
  · rw [hskips, Ignore.takesBack_iff, ← Bool.not_eq_true]
    exact ⟨fun heq hboth => hboth.2 (heq.mp (.inl hboth.1)),
      fun hnot => ⟨fun hor => hor.elim
        (fun hbare => Classical.byContradiction fun hfolder => hnot ⟨hbare, hfolder⟩) id, .inr⟩⟩
  · exact htakes.exists_later h.compileAll_eq hpath

/-- A tree with a directory called `build` and an ignore file beside it. -/
def buildTree (text : String) : Disk where
  cwd := []
  entries := [([".gitignore"], .file (asciiBytes text)), (["build"], .folder),
    (["build", "a.js"], .file [])]
  unlistable := []

theorem ignoreFiles_buildTree (text : String) :
    ignoreFiles (buildTree text) [] = [([".gitignore"], .file (asciiBytes text))] := by
  rw [ignoreFiles]
  exact List.mergeSort_singleton _

theorem ruled_buildTree {text : String} {lines : List (List Char)} {rules : List Ignore.Rule}
    (hlines : ignoreFileLines ⟨.root, []⟩ ([".gitignore"], .file (asciiBytes text)) = .ok lines)
    (hrules : Ignore.compileAll lines = .ok rules) :
    Ruled (buildTree text) ⟨.root, []⟩ [] lines rules := by
  have htree : (buildTree text).WellFormed := by
    refine ⟨by simp [buildTree], rfl, fun entry hentry => ?_⟩
    simp only [buildTree, List.mem_cons, List.not_mem_nil, or_false] at hentry
    rcases hentry with rfl | rfl | rfl <;> exact ⟨by simp, rfl⟩
  refine ⟨htree, rfl, ?_, hrules⟩
  rw [ignoreLines, ignoreFiles_buildTree, ignoreLinesOf, hlines]
  simp [ignoreLinesOf, Except.mapError, bind, Except.bind, pure, Except.pure]

/-- A directory that no rule takes back is skipped as its form with the slash is left out. -/
theorem skipsAt_build :
    ∃ lines rules, Ruled (buildTree "build/\n") ⟨.root, []⟩ [] lines rules ∧
      (Walk.SkipsAt (buildTree "build/\n") (Ignore.ignores rules)
          (sourceExtensions.map Text.lower) [] ["build"] ↔
        Ignore.ignores rules "build/".toList = true) ∧
      Ignore.ignores rules "build/".toList = true := by
  obtain ⟨rules, hrules⟩ : ∃ rules, rules =
      (Ignore.compileAll ["build/".toList]).toOption.getD [] := ⟨_, rfl⟩
  have hruled : Ruled (buildTree "build/\n") ⟨.root, []⟩ [] ["build/".toList] rules :=
    ruled_buildTree rfl (hrules ▸ rfl)
  have hroot : IsVisited (buildTree "build/\n") (Ignore.ignores rules) [] ["build"].dropLast :=
    ⟨rfl, fun q hq hne => absurd (List.prefix_nil.mp hq) hne⟩
  have hexact := (skipsAt_iff_and_takesBack hruled sourceExtensions (by decide) hroot
    (show (buildTree "build/\n").find? ([] ++ ["build"]) = some .folder by decide)
    (by decide)).2.2.2.1
  refine ⟨_, rules, hruled, hexact.mpr fun htakes => ?_, by rw [hrules]; decide +kernel⟩
  have hbare := (Ignore.takesBack_iff.mp htakes).1
  rw [hrules] at hbare
  revert hbare
  decide +kernel

/-- A directory that a rule takes back: it is skipped, with all that is below it, although its form
with the slash is not left out. -/
theorem skipsAt_build_taken_back :
    ∃ lines rules, Ruled (buildTree "build\n!build/\n") ⟨.root, []⟩ [] lines rules ∧
      IsVisited (buildTree "build\n!build/\n") (Ignore.ignores rules) [] ["build"].dropLast ∧
      Walk.SkipsAt (buildTree "build\n!build/\n") (Ignore.ignores rules)
        (sourceExtensions.map Text.lower) [] ["build"] ∧
      Ignore.ignores rules "build/".toList = false ∧
      discover (buildTree "build\n!build/\n") ⟨.root, []⟩ sourceExtensions = .ok (.ok ⟨[], 1⟩) := by
  obtain ⟨rules, hrules⟩ : ∃ rules, rules =
      (Ignore.compileAll ["build".toList, "!build/".toList]).toOption.getD [] := ⟨_, rfl⟩
  have hruled : Ruled (buildTree "build\n!build/\n") ⟨.root, []⟩ []
      ["build".toList, "!build/".toList] rules := ruled_buildTree rfl (hrules ▸ rfl)
  have hvisit : Walk.visit (buildTree "build\n!build/\n") (Ignore.ignores rules)
      (sourceExtensions.map Text.lower) [] [] =
      [([".gitignore"], .other), (["build"], .skipped)] := by
    rw [Walk.visit, List.mergeSort_of_pairwise (by decide), hrules]
    decide +kernel
  refine ⟨_, rules, hruled, ⟨rfl, fun q hq hne => absurd (List.prefix_nil.mp hq) hne⟩, ?_, ?_, ?_⟩
  · rw [Walk.SkipsAt, List.dropLast_singleton, hvisit]
    exact List.mem_cons_of_mem _ List.mem_cons_self
  · rw [hrules]
    decide +kernel
  · refine discover_eq_ok_iff.mpr ⟨[], _, rules, hruled.folder, hruled.ignoreLines_eq,
      hruled.compileAll_eq, ?_⟩
    rw [Walk.levels_succ_eq_ok_iff, List.flatMap_singleton, hvisit]
    exact ⟨rfl, ⟨[], 0⟩, rfl, rfl, rfl⟩

end Relocation
