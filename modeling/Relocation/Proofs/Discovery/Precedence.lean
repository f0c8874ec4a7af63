import Relocation.Proofs.Discovery.Origins

/-!
# Which ignore file comes first

The last line that speaks of a path decides about it. Ignore files are read in the order of their
places, so an ignore file is compared by its own name with the directories beside it: `.gitignore`
comes before `docs` but after `.github`.

* `Precede` — all lines of one directory come before those of another,
* `precede_iff` — **the lines of a directory precede those of one below it** exactly if the name
  that leads on from the upper one does not come before the name of ignore files,
* `not_precede_github` — a directory whose lines cannot override those of the root.
-/

namespace Relocation

/-- Every line of one directory precedes every line of another. -/
def Precede (lines : List (Location × List Char)) (upper lower : Location) : Prop :=
  ∀ i j : Nat, ∀ line line' : List Char,
    lines[i]? = some (upper, line) → lines[j]? = some (lower, line') → i < j

/-- No line comes from a directory. -/
def Silent (lines : List (Location × List Char)) (place : Location) : Prop :=
  ∀ line, (place, line) ∉ lines

/-- The lines of one directory come before those of another if its ignore file does. -/
theorem precede_of_not_le {d : Disk} {root : Path} {place upper lower : Location}
    (hle : Location.le (lower ++ [ignoreFileName]) (upper ++ [ignoreFileName]) = false) :
    Precede (originLines d root place) upper lower := by
  intro i j line line' hi hj
  obtain ⟨hilt, hi⟩ := List.getElem?_eq_some_iff.mp hi
  obtain ⟨hjlt, hj⟩ := List.getElem?_eq_some_iff.mp hj
  refine Nat.lt_of_not_le fun hji => ?_
  rcases Nat.lt_or_eq_of_le hji with hlt | rfl
  · have hsorted :=
      List.pairwise_iff_getElem.mp (pairwise_originLines d root place) j i hjlt hilt hlt
    rw [hi, hj, hle] at hsorted
    cases hsorted
  · cases hi.symm.trans hj
    rw [Location.le_refl] at hle
    cases hle

/-- An ignore file comes before one further down, unless the directory on the way to it does. -/
theorem precede_of_le {d : Disk} {root : Path} {place upper : Location} {name : String}
    (hname : ignoreFileName ≤ name) (rest : Location) :
    Precede (originLines d root place) upper (upper ++ name :: rest) := by
  refine precede_of_not_le ?_
  rw [List.append_assoc, Location.le_append_left, List.cons_append, Bool.eq_false_iff, ne_eq,
    Location.le_cons_iff]
  rintro (hlt | ⟨rfl, hle⟩)
  · exact String.not_lt.mpr hname hlt
  · -- at the same name, the place further down has more names to come
    cases rest <;> cases hle

theorem precede_of_lt {d : Disk} {root : Path} {place upper : Location} {name : String}
    (hname : name < ignoreFileName) (rest : Location) :
    Precede (originLines d root place) (upper ++ name :: rest) upper := by
  refine precede_of_not_le ?_
  rw [List.append_assoc, Location.le_append_left, List.cons_append, Bool.eq_false_iff, ne_eq,
    Location.le_cons_iff]
  rintro (hlt | ⟨rfl, -⟩)
  · exact String.lt_asymm hlt hname
  · exact String.lt_irrefl _ hname

/-- **The exact rule of precedence.** Of two ignore files, one in a directory and the other further
down, all lines of the upper one precede all lines of the lower one exactly if the name that leads
on from the upper directory does not come before `.gitignore`, or one of the two has no lines. -/
theorem precede_iff {d : Disk} {root : Path} {place upper : Location} {name : String}
    {rest : Location} {lines : List (List Char)} (h : ignoreLines d root place = .ok lines) :
    lines = (originLines d root place).map Prod.snd ∧
      (Precede (originLines d root place) upper (upper ++ name :: rest) ↔
        ignoreFileName ≤ name ∨ Silent (originLines d root place) upper ∨
          Silent (originLines d root place) (upper ++ name :: rest)) := by
  refine ⟨(ignoreLines_eq_ok_iff.mp h).2, fun hprec => ?_, ?_⟩
  · refine Classical.byContradiction fun hnot => ?_
    obtain ⟨hname, hnot⟩ := not_or.mp hnot
    obtain ⟨hupper, hlower⟩ := not_or.mp hnot
    obtain ⟨line, hline⟩ := Classical.not_forall.mp hupper
    obtain ⟨line', hline'⟩ := Classical.not_forall.mp hlower
    obtain ⟨i, hi⟩ := List.mem_iff_getElem?.mp (Classical.not_not.mp hline)
    obtain ⟨j, hj⟩ := List.mem_iff_getElem?.mp (Classical.not_not.mp hline')
    -- the lower file comes first, so its lines would have to stand on both sides
    have hback : Precede (originLines d root place) (upper ++ name :: rest) upper :=
      precede_of_lt (String.not_le.mp hname) rest
    exact Nat.lt_asymm (hprec i j line line' hi hj) (hback j i line' line hj hi)
  · rintro (hname | hupper | hlower)
    · exact precede_of_le hname rest
    · exact fun i j line line' hi _ => absurd (List.mem_of_getElem? hi) (hupper line)
    · exact fun i j line line' _ hj => absurd (List.mem_of_getElem? hj) (hlower line')

/-- A tree that leaves out all scripts, with a directory that takes one of them in again. -/
def overridingTree (name : String) : Disk where
  cwd := []
  entries := [([name], .folder), ([name, ".gitignore"], .file (asciiBytes "!a.js\n")),
    ([name, "a.js"], .file []), ([".gitignore"], .file (asciiBytes "*.js\n"))]
  unlistable := []

/-- The rule applies to a directory called `docs`, whose lines can override those of the root. -/
theorem precede_docs :
    ∃ lines, ignoreLines (overridingTree "docs") ⟨.root, []⟩ [] = .ok lines ∧
      Precede (originLines (overridingTree "docs") ⟨.root, []⟩ []) [] ["docs"] := by
  have hfiles : ignoreFiles (overridingTree "docs") [] =
      [([".gitignore"], .file (asciiBytes "*.js\n")),
        (["docs", ".gitignore"], .file (asciiBytes "!a.js\n"))] := by
    have htree : (overridingTree "docs").WellFormed := ⟨by decide, by decide, by decide⟩
    refine Entries.eq_of_perm (fun _ _ => Location.le_antisymm)
      ((List.mergeSort_perm _ _).trans ?_) (nodup_ignoreFiles htree [])
      (pairwise_ignoreFiles _ _) (by decide)
    exact List.Perm.swap _ _ []
  have hlines : ignoreLines (overridingTree "docs") ⟨.root, []⟩ [] =
      .ok ["*.js".toList, "!docs/**/a.js".toList] := by
    rw [ignoreLines, hfiles]
    rfl
  exact ⟨_, hlines, (precede_iff hlines).2.mpr (.inl (by decide))⟩

/-- The lines of a directory called `.github` come before those of the root, which therefore has the
last word on the script that the directory takes in. -/
theorem not_precede_github :
    ¬Precede (originLines (overridingTree ".github") ⟨.root, []⟩ []) [] [".github"] ∧
      discover (overridingTree ".github") ⟨.root, []⟩ sourceExtensions =
        .ok (.ok ⟨[], 1⟩) := by
  have hfiles : ignoreFiles (overridingTree ".github") [] =
      [([".github", ".gitignore"], .file (asciiBytes "!a.js\n")),
        ([".gitignore"], .file (asciiBytes "*.js\n"))] := by
    rw [ignoreFiles, List.mergeSort_of_pairwise (by decide)]
    decide
  constructor
  · intro h
    have hlines : originLines (overridingTree ".github") ⟨.root, []⟩ [] =
        [([".github"], "!.github/**/a.js".toList), ([], "*.js".toList)] := by
      rw [originLines, hfiles]
      rfl
    rw [hlines] at h
    exact absurd (h 1 0 _ _ rfl rfl) (by decide)
  · have hlines : ignoreLines (overridingTree ".github") ⟨.root, []⟩ [] =
        .ok ["!.github/**/a.js".toList, "*.js".toList] := by
      rw [ignoreLines, hfiles]
      rfl
    obtain ⟨rules, hrules⟩ : ∃ rules, rules =
        (Ignore.compileAll ["!.github/**/a.js".toList, "*.js".toList]).toOption.getD [] := ⟨_, rfl⟩
    have hroot : Walk.visit (overridingTree ".github") (Ignore.ignores rules)
        (sourceExtensions.map Text.lower) [] [] =
        [([".github"], .entered), ([".gitignore"], .other)] := by
      rw [Walk.visit, List.mergeSort_of_pairwise (by decide), hrules]
      decide +kernel
    have hbelow : Walk.visit (overridingTree ".github") (Ignore.ignores rules)
        (sourceExtensions.map Text.lower) [] [".github"] =
        [([".github", ".gitignore"], .other), ([".github", "a.js"], .skipped)] := by
      rw [Walk.visit, List.mergeSort_of_pairwise (by decide), hrules]
      decide +kernel
    refine discover_eq_ok_iff.mpr ⟨[], _, rules, rfl, hlines, by rw [hrules]; rfl, ?_⟩
    rw [Walk.levels_succ_eq_ok_iff, List.flatMap_singleton, hroot]
    refine ⟨rfl, ⟨[], 1⟩, Walk.levels_succ_eq_ok_iff.mpr ?_, rfl, rfl⟩
    rw [show Walk.withFate .entered _ = [[".github"]] from rfl, List.flatMap_singleton, hbelow]
    exact ⟨rfl, ⟨[], 0⟩, rfl, rfl, rfl⟩

end Relocation
