import Relocation.Proofs.Discovery.Origins
import Relocation.Proofs.Discovery.Survey

/-!
# Discovery in a tree that has grown

Directories that are made below the root of a discovery hold no files. As long as none of them has
the name of an ignore file, and all may be listed, the files found are the same as before. Only the
number of entries that are skipped may be another one.

* `Disk.Deepens` — below a place, a disk has what another one has, and maybe more directories,
* `ignoreFiles_eq_of_deepens` — the ignore files are the same,
* `exists_discover_of_deepens` — **the files found are the same**.
-/

namespace Relocation

/-- Below a place, a disk has all that another one has, and maybe more directories. -/
def Disk.Deepens (d d' : Disk) (place : Location) : Prop :=
  ∀ names, names ≠ [] → d'.find? (place ++ names) = d.find? (place ++ names) ∨
    d.find? (place ++ names) = none ∧ d'.find? (place ++ names) = some .folder

/-- No directory below a place has the name of an ignore file. -/
def Disk.HasNoIgnoreFolder (d : Disk) (place : Location) : Prop :=
  ∀ names, d.find? (place ++ (names ++ [ignoreFileName])) ≠ some .folder

theorem Disk.hasNoIgnoreFolder_of_entries {d : Disk}
    (h : ∀ entry ∈ d.entries, entry.1.getLast? = some ignoreFileName → entry.2 ≠ .folder)
    (place : Location) : d.HasNoIgnoreFolder place := by
  intro names hfind
  rw [find?, if_neg (by simp)] at hfind
  exact h _ (Entries.mem_of_lookup hfind) (by simp) rfl

namespace Disk.Deepens

variable {d d' : Disk} {place names : Location}

theorem folder (h : d.Deepens d' place) (hnames : names ≠ [])
    (hfind : d.find? (place ++ names) = some .folder) :
    d'.find? (place ++ names) = some .folder := by
  obtain heq | ⟨hnone, -⟩ := h names hnames
  · rw [heq, hfind]
  · rw [hnone] at hfind
    cases hfind

theorem file_iff (h : d.Deepens d' place) (hnames : names ≠ []) {bytes : List UInt8} :
    d'.find? (place ++ names) = some (.file bytes) ↔
      d.find? (place ++ names) = some (.file bytes) := by
  obtain heq | ⟨hnone, hfolder⟩ := h names hnames
  · rw [heq]
  · simp [hnone, hfolder]

end Disk.Deepens

section

variable {d d' : Disk} {root : Path} {place : Location} (hd : d.WellFormed) (hd' : d'.WellFormed)
  (h : d.Deepens d' place)
include hd hd' h

/-- The ignore files are the same. -/
theorem ignoreFiles_eq_of_deepens (hclear : d'.HasNoIgnoreFolder place) :
    ignoreFiles d' place = ignoreFiles d place := by
  refine Entries.eq_of_perm (fun _ _ => Location.le_antisymm) ?_ (nodup_ignoreFiles hd' place)
    (pairwise_ignoreFiles d' place) (pairwise_ignoreFiles d place)
  refine (List.perm_ext_iff_of_nodup (nodup_ignoreFiles hd' place).of_map
    (nodup_ignoreFiles hd place).of_map).mpr ?_
  rintro ⟨names, entry⟩
  rw [mem_ignoreFiles, mem_ignoreFiles, hd'.mem_below_iff, hd.mem_below_iff]
  refine and_congr_left fun hlast => and_congr_right fun hne => ?_
  obtain heq | ⟨-, hfolder⟩ := h names hne
  · rw [heq]
  · obtain ⟨dir, rfl⟩ := List.getLast?_eq_some_iff.mp hlast
    exact absurd hfolder (hclear dir)

/-- So are their lines. -/
theorem ignoreLines_eq_of_deepens (hclear : d'.HasNoIgnoreFolder place) :
    ignoreLines d' root place = ignoreLines d root place := by
  rw [ignoreLines, ignoreLines, ignoreFiles_eq_of_deepens hd hd' h hclear]

namespace Walk

variable {ignored : List Char → Bool} {accepted : List String}

omit hd hd' in
/-- The walk comes to all directories that it came to. -/
theorem reaches_of_deepens {names : Location} (hreach : Reaches d ignored accepted place names) :
    Reaches d' ignored accepted place names := by
  intro q hq hne
  obtain ⟨hfind, hfate⟩ := hreach q hq hne
  exact ⟨h.folder hne hfind, hfate⟩

omit hd' in
/-- What was there before and is reached now was reached. -/
theorem reaches_of_deepens_of_find? {names : Location} {entry : Entry}
    (hreach : Reaches d' ignored accepted place names)
    (hfind : d.find? (place ++ names) = some entry) :
    Reaches d ignored accepted place names := by
  intro q hq hne
  obtain ⟨hfolder, hfate⟩ := hreach q hq hne
  refine ⟨?_, hfate⟩
  obtain ⟨rest, rfl⟩ := hq
  rw [← List.append_assoc] at hfind
  obtain heq | ⟨hnone, -⟩ := h q hne
  · rw [← heq, hfolder]
  · by_cases hrest : rest = []
    · rw [hrest, List.append_nil, hnone] at hfind
      cases hfind
    · rw [hd.find?_of_append hfind hrest] at hnone
      cases hnone

/-- **The files found are the same**, however deep the walks may go. -/
theorem metWith_found_eq_of_deepens {rounds rounds' : Nat} (hrounds : d.entries.length < rounds)
    (hrounds' : d'.entries.length < rounds') :
    metWith d' ignored accepted place .found 0 rounds' =
      metWith d ignored accepted place .found 0 rounds := by
  have hperm : (metWith d' ignored accepted place .found 0 rounds').Perm
      (metWith d ignored accepted place .found 0 rounds) := by
    refine (List.perm_ext_iff_of_nodup (nodup_metWith hd' _ _ _) (nodup_metWith hd _ _ _)).mpr ?_
    intro names
    rw [mem_metWith_iff hd' hrounds', mem_metWith_iff hd hrounds]
    constructor
    · rintro ⟨dir, name, entry, rfl, hreach, hfind, hfate⟩
      cases entry with
      | folder => cases (fate_eq_found_iff.mp hfate).1
      | file bytes =>
        -- the file was there before, and so was all that leads to it
        have hfile := (h.file_iff (by simp)).mp hfind
        rw [← List.append_assoc] at hfile
        have hdir := hd.find?_of_append hfile (List.cons_ne_nil name [])
        rw [List.append_assoc] at hfile
        exact ⟨dir, name, _, rfl, reaches_of_deepens_of_find? hd h hreach hdir, hfile, hfate⟩
    · rintro ⟨dir, name, entry, rfl, hreach, hfind, hfate⟩
      cases entry with
      | folder => cases (fate_eq_found_iff.mp hfate).1
      | file bytes =>
        exact ⟨dir, name, _, rfl, reaches_of_deepens h hreach, (h.file_iff (by simp)).mpr hfind,
          hfate⟩
  exact hperm.eq_of_pairwise (fun p q _ _ hpq hqp => absurd hqp hpq.asymm)
    (pairwise_metWith hd' _ _ _) (pairwise_metWith hd _ _ _)

end Walk

/-- **Discovery finds the same files** in a tree that has more directories, if all of them may be
listed and none of them has the name of an ignore file. -/
theorem exists_discover_of_deepens {extensions : List String} {s : Survey}
    (hroot : d.folder? root = .ok (some place)) (hroot' : d'.folder? root = .ok (some place))
    (hclear : d'.HasNoIgnoreFolder place) (hunlistable : d'.unlistable = d.unlistable)
    (hlist : ∀ names, d.find? (place ++ names) = none →
      d'.find? (place ++ names) = some .folder → root.join names ∉ d.unlistable)
    (hdiscover : discover d root extensions = .ok (.ok s)) :
    ∃ s', discover d' root extensions = .ok (.ok s') ∧ s'.paths root = s.paths root := by
  obtain ⟨place', lines, rules, hfolder, hlines, hrules, hlevels⟩ := discover_eq_ok_iff.mp hdiscover
  obtain rfl : place = place' := by simpa using hroot.symm.trans hfolder
  obtain ⟨hlistable, hfound, -⟩ := Walk.levels_root_eq_ok_iff.mp hlevels
  refine ⟨⟨_, _⟩, discover_eq_ok_iff.mpr ⟨place, lines, rules, hroot', ?_, hrules,
    Walk.levels_root_eq_ok_iff.mpr ⟨fun k _ => ?_, rfl, rfl⟩⟩, ?_⟩
  · rw [ignoreLines_eq_of_deepens hd hd' h hclear, hlines]
  · rw [Walk.unlistable?_eq_none_iff, hunlistable]
    intro names hnames
    obtain ⟨-, hreach⟩ := (Walk.mem_level_iff hd').mp hnames
    cases hfind : d.find? (place ++ names) with
    | none =>
      -- a directory that was made, and not the root
      have hne : names ≠ [] := by
        rintro rfl
        rw [List.append_nil, (Disk.folder?_eq_some_iff.mp hroot).2.2] at hfind
        cases hfind
      exact hlist names hfind (hreach names List.prefix_rfl hne).1
    | some entry =>
      have hreach := Walk.reaches_of_deepens_of_find? hd h hreach hfind
      have hlength := hd.length_le hfind
      rw [List.length_append] at hlength
      exact Walk.unlistable?_eq_none_iff.mp (hlistable names.length (by omega)) names
        ((Walk.mem_level_iff hd).mpr ⟨rfl, hreach⟩)
  · rw [Survey.paths, Survey.paths, hfound]
    exact congrArg _ (Walk.metWith_found_eq_of_deepens hd hd' h (Nat.lt_succ_self _)
      (Nat.lt_succ_self _))

end

end Relocation
