import Relocation.Proofs.Discovery.Walk

/-!
# Where ignore lines come from

Discovery makes one list of the lines of all ignore files of a tree. `originLines` is that list with
the directory that every line comes from. The files are read in the order of their places.

* `Location.le_total`, `le_trans`, `le_antisymm` — places are in a linear order,
* `ignoreLines_eq_ok_iff` — the lines are those of `originLines` if all ignore files can be read,
* `mem_originLines` — a line comes from the ignore file of its directory,
* `pairwise_originLines` — lines come in the order of their files.
-/

namespace Relocation

/-! ## The order of places -/

namespace Location

theorem le_cons_iff {a b : String} {as bs : Location} :
    Location.le (a :: as) (b :: bs) = true ↔ a < b ∨ a = b ∧ Location.le as bs = true := by
  simp [Location.le]

theorem le_total (p q : Location) : (Location.le p q || Location.le q p) = true := by
  induction p generalizing q with
  | nil => simp [Location.le]
  | cons a as ih =>
    cases q with
    | nil => simp [Location.le]
    | cons b bs =>
      rw [Bool.or_eq_true, le_cons_iff, le_cons_iff]
      by_cases hab : a = b
      · subst hab
        rcases Bool.or_eq_true .. ▸ ih bs with h | h
        · exact .inl (.inr ⟨rfl, h⟩)
        · exact .inr (.inr ⟨rfl, h⟩)
      · by_cases hlt : a < b
        · exact .inl (.inl hlt)
        · refine .inr (.inl (String.not_le.mp fun h => hab ?_))
          exact String.le_antisymm h (String.not_lt.mp hlt)

theorem le_refl (p : Location) : Location.le p p = true :=
  (Bool.or_self _).symm.trans (le_total p p)

theorem le_trans (p q r : Location) (hpq : Location.le p q = true)
    (hqr : Location.le q r = true) : Location.le p r = true := by
  induction p generalizing q r with
  | nil => simp [Location.le]
  | cons a as ih =>
    cases q with
    | nil => cases hpq
    | cons b bs =>
      cases r with
      | nil => cases hqr
      | cons c cs =>
        rw [le_cons_iff] at hpq hqr ⊢
        rcases hpq with hab | ⟨rfl, hpq⟩ <;> rcases hqr with hbc | ⟨rfl, hqr⟩
        · exact .inl (String.lt_trans hab hbc)
        · exact .inl hab
        · exact .inl hbc
        · exact .inr ⟨rfl, ih bs cs hpq hqr⟩

theorem le_antisymm {p q : Location} (hpq : Location.le p q = true)
    (hqp : Location.le q p = true) : p = q := by
  induction p generalizing q with
  | nil =>
    cases q with
    | nil => rfl
    | cons => cases hqp
  | cons a as ih =>
    cases q with
    | nil => cases hpq
    | cons b bs =>
      rw [le_cons_iff] at hpq hqp
      rcases hpq with hab | ⟨rfl, hpq⟩
      · rcases hqp with hba | ⟨rfl, -⟩
        · exact absurd hba (String.lt_asymm hab)
        · exact absurd hab (String.lt_irrefl b)
      · rcases hqp with haa | ⟨-, hqp⟩
        · exact absurd haa (String.lt_irrefl a)
        · rw [ih hpq hqp]

/-- Places that start alike are compared by what follows. -/
theorem le_append_left (p q r : Location) :
    Location.le (p ++ q) (p ++ r) = Location.le q r := by
  induction p with
  | nil => rfl
  | cons a as ih => simp [Location.le, ih]

end Location

/-! ## Lines and where they come from -/

/-- The lines of one ignore file, each with the directory of the file. A file that cannot be read
has none. -/
def ignoreLinesAt (root : Path) (file : Location × Entry) : List (Location × List Char) :=
  match ignoreFileLines root file with
  | .ok lines => lines.map fun line => (file.1.dropLast, line)
  | .error _ => []

theorem map_snd_ignoreLinesAt {root : Path} {file : Location × Entry} {lines : List (List Char)}
    (h : ignoreFileLines root file = .ok lines) :
    (ignoreLinesAt root file).map Prod.snd = lines := by
  rw [ignoreLinesAt, h]
  simp [Function.comp_def]

/-- The lines of all ignore files below a directory, each with the directory of its file. -/
def originLines (d : Disk) (root : Path) (place : Location) : List (Location × List Char) :=
  (ignoreFiles d place).flatMap (ignoreLinesAt root)

theorem ignoreLinesOf_eq_ok_iff {root : Path} {files : List (Location × Entry)}
    {lines : List (List Char)} :
    ignoreLinesOf root files = .ok lines ↔
      (∀ file ∈ files, ∃ found, ignoreFileLines root file = .ok found) ∧
        lines = (files.flatMap (ignoreLinesAt root)).map Prod.snd := by
  induction files generalizing lines with
  | nil => simp [ignoreLinesOf, eq_comm]
  | cons file rest ih =>
    simp only [ignoreLinesOf, Outcome.bind_eq_ok_iff, Outcome.pure_eq_ok_iff, ih,
      List.forall_mem_cons, List.flatMap_cons, List.map_append]
    constructor
    · rintro ⟨first, hfirst, more, ⟨hrest, rfl⟩, rfl⟩
      exact ⟨⟨⟨first, hfirst⟩, hrest⟩, by rw [map_snd_ignoreLinesAt hfirst]⟩
    · rintro ⟨⟨⟨first, hfirst⟩, hrest⟩, rfl⟩
      exact ⟨first, hfirst, _, ⟨hrest, rfl⟩, by rw [map_snd_ignoreLinesAt hfirst]⟩

/-- Discovery works with the lines of `originLines`, if all ignore files can be read. -/
theorem ignoreLines_eq_ok_iff {d : Disk} {root : Path} {place : Location}
    {lines : List (List Char)} :
    ignoreLines d root place = .ok lines ↔
      (∀ file ∈ ignoreFiles d place, ∃ found, ignoreFileLines root file = .ok found) ∧
        lines = (originLines d root place).map Prod.snd := by
  rw [ignoreLines, Outcome.mapError_eq_ok_iff]
  exact ignoreLinesOf_eq_ok_iff

theorem mem_ignoreFiles {d : Disk} {place : Location} {file : Location × Entry} :
    file ∈ ignoreFiles d place ↔
      file ∈ d.below place ∧ file.1.getLast? = some ignoreFileName := by
  rw [ignoreFiles, List.mem_mergeSort, List.mem_filter, beq_iff_eq]

/-- Ignore files come in the order of their places. -/
theorem pairwise_ignoreFiles (d : Disk) (place : Location) :
    (ignoreFiles d place).Pairwise fun a b => Location.le a.1 b.1 = true := by
  refine List.pairwise_mergeSort ?_ ?_ _
  · exact fun a b c => Location.le_trans a.1 b.1 c.1
  · exact fun a b => Location.le_total a.1 b.1

theorem nodup_ignoreFiles {d : Disk} (hd : d.WellFormed) (place : Location) :
    ((ignoreFiles d place).map Prod.fst).Nodup := by
  rw [ignoreFiles, ((List.mergeSort_perm _ _).map Prod.fst).nodup_iff]
  exact (hd.nodup_below place).sublist (List.filter_sublist.map Prod.fst)

/-- A line comes from the ignore file of its directory. -/
theorem eq_of_mem_ignoreLinesAt {root : Path} {file : Location × Entry}
    {x : Location × List Char} (hlast : file.1.getLast? = some ignoreFileName)
    (hx : x ∈ ignoreLinesAt root file) : file.1 = x.1 ++ [ignoreFileName] := by
  rw [ignoreLinesAt] at hx
  split at hx
  · obtain ⟨line, -, rfl⟩ := List.mem_map.mp hx
    obtain ⟨names, hnames⟩ := List.getLast?_eq_some_iff.mp hlast
    simp [hnames]
  · cases hx

/-- The lines that some bytes spell, none if they spell no text. -/
def linesOfBytes (bytes : List UInt8) : List (List Char) :=
  match textOfBytes bytes with
  | .ok text => Text.paragraphs text.toList
  | .error _ => []

/-- The bytes of an ASCII text. -/
def asciiBytes (text : String) : List UInt8 :=
  text.toList.map fun c => c.toNat.toUInt8

/-- The lines of the ignore file in a directory, none if there is no such file. -/
def Disk.ignoreText (d : Disk) (place : Location) : List (List Char) :=
  match d.find? (place ++ [ignoreFileName]) with
  | some (.file bytes) => linesOfBytes bytes
  | _ => []

theorem ignoreLinesAt_file (root : Path) (dir : Location) (bytes : List UInt8) :
    ignoreLinesAt root (dir ++ [ignoreFileName], .file bytes) =
      (linesOfBytes bytes).map fun line =>
        (dir, Ignore.rebase (Path.joined dir).toList line) := by
  rw [ignoreLinesAt, ignoreFileLines, linesOfBytes]
  cases textOfBytes bytes with
  | error fault => rfl
  | ok text => simp [Function.comp_def]

/-- A line comes from the ignore file of its directory, moved up to the root. -/
theorem mem_originLines {d : Disk} (hd : d.WellFormed) {root : Path} {place dir : Location}
    {line : List Char} :
    (dir, line) ∈ originLines d root place ↔
      ∃ text ∈ d.ignoreText (place ++ dir), line = Ignore.rebase (Path.joined dir).toList text := by
  rw [originLines, List.mem_flatMap]
  constructor
  · rintro ⟨⟨names, entry⟩, hfile, hline⟩
    obtain ⟨hbelow, hlast⟩ := mem_ignoreFiles.mp hfile
    obtain rfl : names = dir ++ [ignoreFileName] := eq_of_mem_ignoreLinesAt hlast hline
    obtain ⟨-, hfind⟩ := hd.mem_below_iff.mp hbelow
    cases entry with
    | folder => cases hline
    | file bytes =>
      rw [ignoreLinesAt_file] at hline
      obtain ⟨text, htext, heq⟩ := List.mem_map.mp hline
      cases heq
      refine ⟨text, ?_, rfl⟩
      rwa [Disk.ignoreText, List.append_assoc, hfind]
  · rintro ⟨text, htext, rfl⟩
    rw [Disk.ignoreText, List.append_assoc] at htext
    split at htext
    · next bytes hfind =>
      refine ⟨(dir ++ [ignoreFileName], .file bytes), mem_ignoreFiles.mpr ⟨?_, by simp⟩, ?_⟩
      · exact hd.mem_below_iff.mpr ⟨by simp, hfind⟩
      · rw [ignoreLinesAt_file]
        exact List.mem_map.mpr ⟨text, htext, rfl⟩
    · cases htext

/-- Where all ignore files can be read, no directory has their name. -/
theorem getLast?_ne_of_folder {d : Disk} (hd : d.WellFormed) {root : Path} {place names : Location}
    {lines : List (List Char)} (h : ignoreLines d root place = .ok lines) (hne : names ≠ [])
    (hfolder : d.find? (place ++ names) = some .folder) :
    names.getLast? ≠ some ignoreFileName := by
  intro hlast
  have hfile := mem_ignoreFiles.mpr ⟨hd.mem_below_iff.mpr ⟨hne, hfolder⟩, hlast⟩
  obtain ⟨found, hfound⟩ := (ignoreLines_eq_ok_iff.mp h).1 _ hfile
  cases hfound

/-- Lines come in the order of the files that they come from. -/
theorem pairwise_originLines (d : Disk) (root : Path) (place : Location) :
    (originLines d root place).Pairwise fun x y =>
      Location.le (x.1 ++ [ignoreFileName]) (y.1 ++ [ignoreFileName]) = true := by
  refine List.pairwise_flatMap.mpr ⟨fun file hfile => ?_, ?_⟩
  · have hlast := (mem_ignoreFiles.mp hfile).2
    refine List.pairwise_of_forall_mem_list fun x hx y hy => ?_
    rw [← eq_of_mem_ignoreLinesAt hlast hx, ← eq_of_mem_ignoreLinesAt hlast hy]
    exact Location.le_refl file.1
  · refine (pairwise_ignoreFiles d place).imp_of_mem fun ha hb hle x hx y hy => ?_
    rw [← eq_of_mem_ignoreLinesAt (mem_ignoreFiles.mp ha).2 hx,
      ← eq_of_mem_ignoreLinesAt (mem_ignoreFiles.mp hb).2 hy]
    exact hle

end Relocation
