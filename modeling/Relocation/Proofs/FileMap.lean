import Relocation.Proofs.Signature.Trimming
import Relocation.SourceFile

/-!
# What a file map holds

`FileMap.ofFiles` enters files one after another under their base names, and a later file takes
the place of an earlier one of the same base name. So the map holds the signatures of those files
that are the last of their name, and of no others.

* `SourceFile.IsLast` — a file that no later one of a list replaces,
* `SourceFile.isLast_append_iff` — the last files of two lists in a row,
* `SourceFile.isLast_skip_iff` — a file with a later namesake has no say in which files are last,
* `FileMap.names_ofFiles` — the names stand in the order in which they first came up,
* `FileMap.lookup_ofFiles_eq_some_iff` — **a name has the signatures of its last file**,
* `FileMap.ext_of_lookup` — a map is told by its names and what they have.
-/

namespace Relocation

/-- A file of a list is the last one of its base name. -/
def SourceFile.IsLast (f : SourceFile) (files : List SourceFile) : Prop :=
  ∃ earlier later, files = earlier ++ f :: later ∧
    ∀ g ∈ later, basename g.path ≠ basename f.path

theorem SourceFile.IsLast.mem {f : SourceFile} {files : List SourceFile} (h : f.IsLast files) :
    f ∈ files := by
  obtain ⟨earlier, later, rfl, -⟩ := h
  simp

/-- If base names are distinct, every file is the last of its name. -/
theorem SourceFile.isLast_of_nodup {f : SourceFile} {files : List SourceFile}
    (hnodup : (files.map fun g => basename g.path).Nodup) (hf : f ∈ files) : f.IsLast files := by
  obtain ⟨earlier, later, rfl⟩ := List.append_of_mem hf
  refine ⟨earlier, later, rfl, fun g hg heq => ?_⟩
  rw [List.map_append, List.map_cons, List.nodup_append] at hnodup
  obtain ⟨hnew, -⟩ := List.nodup_cons.mp hnodup.2.1
  exact hnew (List.mem_map.mpr ⟨g, hg, heq⟩)

/-- The last files of two lists in a row: those of the second list, and those of the first whose
names the second one does not take over. -/
theorem SourceFile.isLast_append_iff {f : SourceFile} {files files' : List SourceFile} :
    f.IsLast (files ++ files') ↔
      f.IsLast files' ∨ f.IsLast files ∧ ∀ g ∈ files', basename g.path ≠ basename f.path := by
  constructor
  · rintro ⟨earlier, later, hsplit, hlater⟩
    rcases List.append_eq_append_iff.mp hsplit with ⟨earlier', rfl, hfiles'⟩ | ⟨rest, hfiles, hrest⟩
    · exact .inl ⟨earlier', later, hfiles', hlater⟩
    · -- the place of the file is in the first list, or the second list starts with it
      cases rest with
      | nil => exact .inl ⟨[], later, hrest.symm, hlater⟩
      | cons g rest =>
        obtain ⟨rfl, rfl⟩ := List.cons.inj hrest
        obtain ⟨hrest, hfiles'⟩ := List.forall_mem_append.mp hlater
        exact .inr ⟨⟨earlier, rest, hfiles, hrest⟩, hfiles'⟩
  · rintro (⟨earlier, later, rfl, hlater⟩ | ⟨⟨earlier, later, rfl, hlater⟩, hfiles'⟩)
    · exact ⟨files ++ earlier, later, by simp, hlater⟩
    · exact ⟨earlier, later ++ files', by simp, List.forall_mem_append.mpr ⟨hlater, hfiles'⟩⟩

theorem SourceFile.isLast_singleton_iff {f g : SourceFile} : f.IsLast [g] ↔ f = g := by
  constructor
  · intro h
    exact List.mem_singleton.mp h.mem
  · rintro rfl
    exact ⟨[], [], rfl, by simp⟩

/-- A file with a later namesake has no say in which files are last. -/
theorem SourceFile.isLast_skip_iff {f g : SourceFile} {earlier later : List SourceFile}
    (hlater : ∃ k ∈ later, basename k.path = basename g.path) :
    f.IsLast (earlier ++ g :: later) ↔ f.IsLast (earlier ++ later) := by
  obtain ⟨k, hk, hname⟩ := hlater
  have hshadowed : f.IsLast (g :: later) ↔ f.IsLast later := by
    rw [← List.singleton_append, isLast_append_iff, isLast_singleton_iff]
    refine or_iff_left ?_
    rintro ⟨rfl, hnone⟩
    exact hnone k hk hname
  rw [isLast_append_iff, isLast_append_iff, hshadowed, List.forall_mem_cons]
  refine or_congr_right (and_congr_right fun _ => and_iff_right_of_imp fun hnone => ?_)
  rw [← hname]
  exact hnone k hk

namespace Entries

variable {κ ν : Type} [BEq κ] [LawfulBEq κ]

theorem lookup_put [DecidableEq κ] (key other : κ) (value : ν) (entries : List (κ × ν)) :
    (put key value entries).lookup other =
      if other = key then some value else entries.lookup other := by
  split
  · next h => rw [h, lookup_put_self]
  · next h => exact lookup_put_of_ne value entries h

/-- Where keys are distinct, an entry is found under its key. -/
theorem lookup_of_mem {entries : List (κ × ν)} (hnodup : (entries.map Prod.fst).Nodup) {key : κ}
    {value : ν} (h : (key, value) ∈ entries) : entries.lookup key = some value := by
  obtain ⟨before, after, rfl⟩ := List.append_of_mem h
  rw [List.map_append, List.map_cons, List.nodup_append] at hnodup
  refine List.lookup_eq_some_iff.mpr ⟨before, after, rfl, fun entry hentry => ?_⟩
  have hne := hnodup.2.2 entry.1 (List.mem_map.mpr ⟨entry, hentry, rfl⟩) key List.mem_cons_self
  simpa using hne.symm

theorem mem_of_lookup {entries : List (κ × ν)} {key : κ} {value : ν}
    (h : entries.lookup key = some value) : (key, value) ∈ entries := by
  obtain ⟨before, after, rfl, -⟩ := List.lookup_eq_some_iff.mp h
  simp

end Entries

namespace FileMap

/-! ## Names -/

theorem names_insert (m : FileMap) (name : String) (found : List Signature) :
    (m.insert name found).names = if name ∈ m.names then m.names else m.names ++ [name] :=
  Entries.map_fst_put name found m.entries

/-- The names of a map stand in the order in which they were first entered. -/
theorem names_ofList (entries : List (String × List Signature)) :
    (ofList entries).names = (entries.map Prod.fst).eraseDups := by
  induction entries using List.reverseRecOn with
  | nil => rfl
  | append_singleton entries entry ih =>
    have hstep : ofList (entries ++ [entry]) = (ofList entries).insert entry.1 entry.2 := by
      rw [ofList, List.foldl_append]
      rfl
    rw [hstep, names_insert, ih, List.map_append, List.eraseDups_append]
    by_cases h : entry.1 ∈ entries.map Prod.fst
    · simp [h, List.removeAll]
    · simp [h, List.removeAll, List.eraseDups_cons]

theorem names_ofFiles (files : List SourceFile) :
    (ofFiles files).names = (files.map fun f => basename f.path).eraseDups := by
  rw [ofFiles, names_ofList, List.map_map]
  rfl

/-! ## Signatures -/

theorem mem_entries_iff {m : FileMap} {name : String} {found : List Signature} :
    (name, found) ∈ m.entries ↔ m.entries.lookup name = some found :=
  ⟨Entries.lookup_of_mem m.nodup, Entries.mem_of_lookup⟩

theorem eq_of_entries_eq {m m' : FileMap} (h : m.entries = m'.entries) : m = m' := by
  obtain ⟨entries, nodup⟩ := m
  obtain ⟨entries', nodup'⟩ := m'
  obtain rfl : entries = entries' := h
  rfl

/-- A map is told by its names and what they have. -/
theorem ext_of_lookup {m m' : FileMap} (hnames : m.names = m'.names)
    (hlookup : ∀ name, m.entries.lookup name = m'.entries.lookup name) : m = m' := by
  have hentries (m : FileMap) :
      m.names.map (fun name => (name, (m.entries.lookup name).getD [])) = m.entries := by
    rw [names, List.map_map]
    refine (List.map_congr_left fun entry hentry => ?_).trans (List.map_id m.entries)
    rw [Function.comp_apply, mem_entries_iff.mp hentry, Option.getD_some, id]
  apply eq_of_entries_eq
  rw [← hentries m, ← hentries m', hnames]
  simp only [hlookup]

theorem lookup_foldl_insert (entries : List (String × List Signature)) (m : FileMap)
    (name : String) :
    (entries.foldl (fun m entry => m.insert entry.1 entry.2) m).entries.lookup name =
      (entries.reverse.lookup name).or (m.entries.lookup name) := by
  induction entries generalizing m with
  | nil => rfl
  | cons entry entries ih =>
    obtain ⟨key, found⟩ := entry
    rw [List.foldl_cons, ih, insert, Entries.lookup_put, List.reverse_cons, List.lookup_append,
      Option.or_assoc]
    congr 1
    by_cases h : name = key
    · simp [h]
    · have hbeq : (name == key) = false := by simpa using h
      simp [h, List.lookup_cons, hbeq]

/-- A name has the signatures that were entered last under it. -/
theorem lookup_ofList (entries : List (String × List Signature)) (name : String) :
    (ofList entries).entries.lookup name = entries.reverse.lookup name := by
  rw [ofList, lookup_foldl_insert]
  exact Option.or_none

/-- **A name has the signatures of its last file.** -/
theorem lookup_ofFiles_eq_some_iff {files : List SourceFile} {name : String}
    {found : List Signature} :
    (ofFiles files).entries.lookup name = some found ↔ ∃ f : SourceFile, f.IsLast files ∧
      basename f.path = name ∧ Signature.extract f.content = found := by
  rw [ofFiles, lookup_ofList, List.lookup_eq_some_iff]
  constructor
  · rintro ⟨later, earlier, hsplit, hlater⟩
    -- the entries come from the files, so they split where the files do
    have hfiles := congrArg List.reverse hsplit
    rw [List.reverse_reverse, List.reverse_append, List.reverse_cons, List.append_assoc,
      List.map_eq_append_iff] at hfiles
    obtain ⟨before, rest, rfl, -, hrest⟩ := hfiles
    rw [List.singleton_append, List.map_eq_cons_iff] at hrest
    obtain ⟨f, after, rfl, hf, hafter⟩ := hrest
    obtain ⟨rfl, rfl⟩ := Prod.mk.inj hf
    refine ⟨f, ⟨before, after, rfl, fun g hg heq => ?_⟩, rfl, rfl⟩
    have hmem : (basename g.path, Signature.extract g.content) ∈ later := by
      rw [← List.mem_reverse, ← hafter]
      exact List.mem_map.mpr ⟨g, hg, rfl⟩
    simpa [heq] using hlater _ hmem
  · rintro ⟨f, ⟨earlier, later, rfl, hlater⟩, rfl, rfl⟩
    let entry (g : SourceFile) := (basename g.path, Signature.extract g.content)
    refine ⟨(later.map entry).reverse, (earlier.map entry).reverse, by simp [entry],
      fun e he => ?_⟩
    obtain ⟨g, hg, rfl⟩ := List.mem_map.mp (List.mem_reverse.mp he)
    simpa [entry] using (hlater g hg).symm

theorem mem_entries_ofFiles {files : List SourceFile} {name : String} {found : List Signature} :
    (name, found) ∈ (ofFiles files).entries ↔ ∃ f : SourceFile, f.IsLast files ∧
      basename f.path = name ∧ Signature.extract f.content = found := by
  rw [mem_entries_iff, lookup_ofFiles_eq_some_iff]

/-- The signatures of a map are those of the last files. -/
theorem mem_signatures_ofFiles {files : List SourceFile} {s : Signature} :
    s ∈ (ofFiles files).signatures ↔
      ∃ f : SourceFile, f.IsLast files ∧ s ∈ Signature.extract f.content := by
  rw [signatures, List.mem_flatMap]
  constructor
  · rintro ⟨⟨name, found⟩, hentry, hs⟩
    obtain ⟨f, hf, rfl, rfl⟩ := mem_entries_ofFiles.mp hentry
    exact ⟨f, hf, hs⟩
  · rintro ⟨f, hf, hs⟩
    exact ⟨_, mem_entries_ofFiles.mpr ⟨f, hf, rfl, rfl⟩, hs⟩

end FileMap

end Relocation
