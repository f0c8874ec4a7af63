import Mathlib.Data.List.Dedup
import Mathlib.Data.List.Infix
import Relocation.Proofs.Discovery.Scope

/-!
# Ignore files that reach too far

A line that is not contained does reach outside its directory: for every such line there is a tree
in which it hides a file elsewhere. The tree is the smallest one that has the directory and the
file, a `stage`; with the ignore file in it the file is hidden, without it the file is found.

* `stage` — the directories that lead to two places, with a file at one of them,
* `exists_differ_of_not_contained` — **a line that is not contained hides a file**,
* `filter_found_eq_and_contained_iff` — **the exact reach of an ignore file**.
-/

namespace Relocation

open Ignore (Rule rebase ignores compileAll)

/-! ## The stage -/

/-- The directories that lead to a directory and to a file. -/
def stageFolders (dir file : Location) : List Location :=
  ((dir.inits ++ file.dropLast.inits).filter fun names => names != []).dedup

/-- A tree with a directory and an empty file, and with an ignore file in the directory if its bytes
are given. -/
def stage (dir file : Location) (bytes : Option (List UInt8)) : Disk where
  cwd := []
  entries := (stageFolders dir file).map (fun names => (names, Entry.folder)) ++
    (file, .file []) :: bytes.toList.map fun bytes => (dir ++ [ignoreFileName], .file bytes)
  unlistable := []

/-- What a directory and a file have to be for the stage to be a tree in which the walk comes to
the file. -/
structure Staged (dir file : Location) : Prop where
  dir_ne_nil : dir ≠ []
  file_ne_nil : file ≠ []
  isName : ∀ name ∈ dir ++ file, IsName name
  dirWalked : ∀ name ∈ dir, isReserved name = false
  fileWalked : ∀ name ∈ file.dropLast, isReserved name = false
  notAbove : ¬file <+: dir
  notBelow : ¬dir <+: file

section

variable {dir file : Location} {bytes : Option (List UInt8)}

theorem mem_stageFolders {names : Location} :
    names ∈ stageFolders dir file ↔ names ≠ [] ∧ (names <+: dir ∨ names <+: file.dropLast) := by
  rw [stageFolders, List.mem_dedup, List.mem_filter, List.mem_append, List.mem_inits,
    List.mem_inits, bne_iff_ne, and_comm]

theorem mem_entries_stage {names : Location} {entry : Entry} :
    (names, entry) ∈ (stage dir file bytes).entries ↔
      (names ∈ stageFolders dir file ∧ entry = .folder) ∨ (names = file ∧ entry = .file []) ∨
        ∃ b ∈ bytes, names = dir ++ [ignoreFileName] ∧ entry = .file b := by
  simp [stage, eq_comm]

/-- An ignore file is in no list of directories. -/
theorem Staged.getLast?_ne (h : Staged dir file) {names : Location}
    (hnames : names ∈ stageFolders dir file) : names.getLast? ≠ some ignoreFileName := by
  intro hlast
  obtain ⟨-, hstart⟩ := mem_stageFolders.mp hnames
  have hmem := List.mem_of_getLast? hlast
  have hwalked : isReserved ignoreFileName = false := by
    rcases hstart with hstart | hstart
    · exact h.dirWalked _ (hstart.subset hmem)
    · exact h.fileWalked _ (hstart.subset hmem)
  revert hwalked
  decide

theorem Staged.ne_file (h : Staged dir file) : dir ++ [ignoreFileName] ≠ file := by
  rintro rfl
  exact h.notBelow (List.prefix_append dir _)

theorem Staged.nodup (h : Staged dir file) :
    ((stage dir file bytes).entries.map Prod.fst).Nodup := by
  have hfile : file ∉ stageFolders dir file := by
    intro hmem
    rcases (mem_stageFolders.mp hmem).2 with hstart | hstart
    · exact h.notAbove hstart
    · have hlength := hstart.length_le
      have hpos := List.length_pos_of_ne_nil h.file_ne_nil
      rw [List.length_dropLast] at hlength
      omega
  have hspot : dir ++ [ignoreFileName] ∉ stageFolders dir file := fun hmem =>
    h.getLast?_ne hmem (by simp)
  have hfst : (stage dir file bytes).entries.map Prod.fst =
      stageFolders dir file ++ file :: bytes.toList.map fun _ => dir ++ [ignoreFileName] := by
    simp [stage, Function.comp_def]
  rw [hfst, List.nodup_append]
  refine ⟨List.nodup_dedup _, List.nodup_cons.mpr ⟨?_, by cases bytes <;> simp⟩, ?_⟩
  · simpa using fun _ => h.ne_file.symm
  · intro names hnames other hother heq
    subst heq
    rcases List.mem_cons.mp hother with rfl | hother
    · exact hfile hnames
    · obtain ⟨-, -, rfl⟩ := List.mem_map.mp hother
      exact hspot hnames

/-- All that leads to a place of the stage is a directory. -/
theorem Staged.find?_folder (h : Staged dir file) {names : Location}
    (hnames : names <+: dir ∨ names <+: file.dropLast) :
    (stage dir file bytes).find? names = some .folder := by
  by_cases hnil : names = []
  · rw [hnil]
    rfl
  · rw [Disk.find?, if_neg hnil]
    refine Entries.lookup_of_mem h.nodup (mem_entries_stage.mpr (.inl ⟨?_, rfl⟩))
    exact mem_stageFolders.mpr ⟨hnil, hnames⟩

theorem Staged.isTree (h : Staged dir file) : (stage dir file bytes).IsTree := by
  refine ⟨⟨h.nodup, rfl, ?_⟩, ?_⟩
  · rintro ⟨names, entry⟩ hentry
    rcases mem_entries_stage.mp hentry with ⟨hmem, -⟩ | ⟨rfl, -⟩ | ⟨b, -, rfl, -⟩
    · obtain ⟨hne, hstart⟩ := mem_stageFolders.mp hmem
      have hup := List.dropLast_prefix names
      exact ⟨hne, h.find?_folder (hstart.imp hup.trans hup.trans)⟩
    · exact ⟨h.file_ne_nil, h.find?_folder (.inr List.prefix_rfl)⟩
    · refine ⟨by simp, ?_⟩
      rw [List.dropLast_concat]
      exact h.find?_folder (.inl List.prefix_rfl)
  · rintro ⟨names, entry⟩ hentry name hname
    rcases mem_entries_stage.mp hentry with ⟨hmem, -⟩ | ⟨rfl, -⟩ | ⟨b, -, rfl, -⟩
    · rcases (mem_stageFolders.mp hmem).2 with hstart | hstart
      · exact h.isName name (List.mem_append_left _ (hstart.subset hname))
      · exact h.isName name
          (List.mem_append_right _ (List.mem_of_mem_dropLast (hstart.subset hname)))
    · exact h.isName name (List.mem_append_right _ hname)
    · rcases List.mem_append.mp hname with hname | hname
      · exact h.isName name (List.mem_append_left _ hname)
      · obtain rfl := List.mem_singleton.mp hname
        exact ⟨by decide, by decide⟩

theorem find?_stage (h : Staged dir file) {names : Location} {entry : Entry} (hne : names ≠ []) :
    (stage dir file bytes).find? names = some entry ↔
      (names ∈ stageFolders dir file ∧ entry = .folder) ∨ (names = file ∧ entry = .file []) ∨
        ∃ b ∈ bytes, names = dir ++ [ignoreFileName] ∧ entry = .file b := by
  rw [h.isTree.1.find?_eq_some_iff hne, mem_entries_stage]

theorem find?_stage_none (h : Staged dir file) :
    (stage dir file none).find? (dir ++ [ignoreFileName]) = none := by
  refine Option.eq_none_iff_forall_ne_some.mpr fun entry hfind => ?_
  rcases (find?_stage h (by simp)).mp hfind with ⟨hmem, -⟩ | ⟨heq, -⟩ | ⟨b, hb, -⟩
  · exact h.getLast?_ne hmem (by simp)
  · exact h.ne_file heq
  · cases hb

theorem find?_stage_some (h : Staged dir file) (b : List UInt8) :
    (stage dir file (some b)).find? (dir ++ [ignoreFileName]) = some (.file b) :=
  (find?_stage h (by simp)).mpr (.inr (.inr ⟨b, rfl, rfl, rfl⟩))

/-- The two stages differ in the ignore file only. -/
theorem changedAt_stage (dir file : Location) (bytes : List UInt8) :
    (stage dir file none).ChangedAt (dir ++ [ignoreFileName]) (stage dir file (some bytes)) := by
  refine ⟨rfl, rfl, fun place hplace => ?_⟩
  rw [Disk.find?, Disk.find?]
  split
  · rfl
  · have hentries : (stage dir file (some bytes)).entries =
        (stage dir file none).entries ++ [(dir ++ [ignoreFileName], .file bytes)] := by
      simp [stage]
    rw [hentries, List.lookup_append, List.lookup_cons, beq_eq_false_iff_ne.mpr hplace]
    simp

/-! ## Discovery on the stage -/

/-- The lines of the stage are those of the ignore file. -/
theorem mem_originLines_stage (h : Staged dir file) {root : Path} {origin : Location}
    {line : List Char} :
    (origin, line) ∈ originLines (stage dir file bytes) root [] ↔
      origin = dir ∧ ∃ b ∈ bytes, ∃ text ∈ linesOfBytes b,
        line = rebase (Path.joined dir).toList text := by
  rw [mem_originLines h.isTree.1]
  constructor
  · rintro ⟨text, htext, rfl⟩
    rw [Disk.ignoreText, List.nil_append] at htext
    split at htext
    · next b hfind =>
      rcases (find?_stage h (by simp)).mp hfind with
        ⟨-, hentry⟩ | ⟨-, hentry⟩ | ⟨b', hb', hplace, hentry⟩
      · cases hentry
      · cases hentry
        cases htext
      · cases hentry
        obtain rfl := List.append_cancel_right hplace
        exact ⟨rfl, b, hb', text, htext, rfl⟩
    · cases htext
  · rintro ⟨rfl, b, hb, text, htext, rfl⟩
    refine ⟨text, ?_, rfl⟩
    have hfind := (find?_stage h (by simp)).mpr (.inr (.inr ⟨b, hb, rfl, rfl⟩))
    rwa [Disk.ignoreText, List.nil_append, hfind]

theorem mem_rulesBelow_stage (h : Staged dir file) {root : Path} {rule : Rule} :
    rule ∈ rulesBelow (stage dir file bytes) root [] ↔
      ∃ b ∈ bytes, ∃ text ∈ linesOfBytes b,
        Rule.compile (rebase (Path.joined dir).toList text) = .ok (some rule) := by
  rw [rulesBelow, List.filterMap_map, List.mem_filterMap]
  constructor
  · rintro ⟨⟨origin, line⟩, hline, hrule⟩
    obtain ⟨rfl, b, hb, text, htext, rfl⟩ := (mem_originLines_stage h).mp hline
    exact ⟨b, hb, text, htext, Rule.ofLine?_eq_some_iff.mp hrule⟩
  · rintro ⟨b, hb, text, htext, hrule⟩
    exact ⟨(dir, _), (mem_originLines_stage h).mpr ⟨rfl, b, hb, text, htext, rfl⟩,
      Rule.ofLine?_eq_some_iff.mpr hrule⟩

/-- Discovery on the stage succeeds if the ignore file can be read and compiled. -/
theorem exists_discover_stage (h : Staged dir file) (bytes : Option (List UInt8))
    (extensions : List String)
    (hread : ∀ b ∈ bytes, ∃ text, textOfBytes b = .ok text)
    (hcompile : ∀ b ∈ bytes, ∀ text ∈ linesOfBytes b,
      ∃ rule, Rule.compile (rebase (Path.joined dir).toList text) = .ok rule) :
    ∃ s, discover (stage dir file bytes) ⟨.root, []⟩ extensions = .ok (.ok s) := by
  have hlines : ignoreLines (stage dir file bytes) ⟨.root, []⟩ [] =
      .ok ((originLines (stage dir file bytes) ⟨.root, []⟩ []).map Prod.snd) := by
    refine ignoreLines_eq_ok_iff.mpr ⟨?_, rfl⟩
    rintro ⟨names, entry⟩ hfile
    obtain ⟨hbelow, hlast⟩ := mem_ignoreFiles.mp hfile
    obtain ⟨hne, hfind⟩ := h.isTree.1.mem_below_iff.mp hbelow
    rcases (find?_stage h hne).mp hfind with ⟨hmem, -⟩ | ⟨-, rfl⟩ | ⟨b, hb, -, rfl⟩
    · exact absurd hlast (h.getLast?_ne hmem)
    · exact ⟨[], rfl⟩
    · obtain ⟨text, htext⟩ := hread b hb
      rw [ignoreFileLines, htext]
      exact ⟨_, rfl⟩
  have hrules : compileAll ((originLines (stage dir file bytes) ⟨.root, []⟩ []).map Prod.snd) =
      .ok (rulesBelow (stage dir file bytes) ⟨.root, []⟩ []) := by
    refine Ignore.compileAll_eq_ok_iff.mpr ⟨fun line hline => ?_, rfl⟩
    obtain ⟨⟨origin, moved⟩, hmoved, rfl⟩ := List.mem_map.mp hline
    obtain ⟨-, b, hb, text, htext, rfl⟩ := (mem_originLines_stage h).mp hmoved
    exact hcompile b hb text htext
  obtain ⟨s, hs⟩ : ∃ s, Walk.levels (stage dir file bytes)
      (ignores (rulesBelow (stage dir file bytes) ⟨.root, []⟩ [])) (extensions.map Text.lower)
      ⟨.root, []⟩ [] ((stage dir file bytes).entries.length + 1) [[]] = .ok s :=
    Walk.exists_levels_eq_ok rfl _ _ _
  exact ⟨s, discover_eq_ok_iff.mpr ⟨[], _, _, rfl, hlines, hrules, hs⟩⟩

theorem exists_discover_stage_none (h : Staged dir file) (extensions : List String) :
    ∃ s, discover (stage dir file none) ⟨.root, []⟩ extensions = .ok (.ok s) := by
  refine exists_discover_stage h none extensions ?_ ?_
  · intro b hb
    cases hb
  · intro b hb
    cases hb

/-- Without the ignore file nothing is left out. -/
theorem ignores_stage_none (h : Staged dir file) (root : Path) (path : List Char) :
    ignores (rulesBelow (stage dir file none) root []) path = false := by
  have hnil : rulesBelow (stage dir file none) root [] = [] := by
    refine List.eq_nil_iff_forall_not_mem.mpr fun rule hrule => ?_
    obtain ⟨b, hb, -⟩ := (mem_rulesBelow_stage h).mp hrule
    cases hb
  rw [hnil]
  rfl

/-- Without the ignore file the file is found. -/
theorem mem_found_stage (h : Staged dir file) {extensions : List String} {s : Survey}
    (haccepted : Text.lower (Path.suffix (file.getLast?.getD "")) ∈ extensions.map Text.lower)
    (hs : discover (stage dir file none) ⟨.root, []⟩ extensions = .ok (.ok s)) :
    file ∈ s.found := by
  obtain ⟨-, hrun⟩ := exists_of_discover rfl hs
  obtain ⟨above, name, rfl⟩ : ∃ above name, file = above ++ [name] :=
    ⟨_, _, (List.dropLast_concat_getLast h.file_ne_nil).symm⟩
  have hwalked := h.fileWalked
  rw [List.dropLast_concat] at hwalked
  refine (Walk.mem_found_iff h.isTree.1 hrun).mpr ⟨above, name, [], rfl, ?_, ?_, ?_, ?_⟩
  · intro q hq hne
    refine ⟨?_, Walk.fate_eq_entered_iff.mpr ⟨rfl, ?_, ?_, ?_⟩⟩
    · refine h.find?_folder (.inr ?_)
      rwa [List.dropLast_concat]
    · have hreserved := hwalked (q.getLast hne) (hq.subset (List.getLast_mem hne))
      intro hgit
      rw [List.getLast?_eq_some_getLast hne, Option.getD_some] at hgit
      rw [hgit] at hreserved
      cases hreserved
    · exact ignores_stage_none h _ _
    · exact ignores_stage_none h _ _
  · exact (find?_stage h h.file_ne_nil).mpr (.inr (.inl ⟨rfl, rfl⟩))
  · exact ignores_stage_none h _ _
  · rwa [List.getLast?_concat, Option.getD_some] at haccepted

end

/-! ## Hidden files -/

/-- The walk asks about a path on its way to a file. -/
def OnTheWay (file : Location) (path : List Char) : Prop :=
  path = (Path.joined file).toList ∨ ∃ names, names ≠ [] ∧ names <+: file.dropLast ∧
    (path = (Path.joined names).toList ∨ path = (Path.joined names).toList ++ ['/'])

/-- A file is not found if something on the way to it is left out. -/
theorem Walk.not_mem_found {d : Disk} {ignored : List Char → Bool} {accepted : List String}
    {root : Path} {place file : Location} {s : Survey} {path : List Char} (hd : d.WellFormed)
    (hrun : levels d ignored accepted root place (d.entries.length + 1) [[]] = .ok s)
    (hway : OnTheWay file path) (hignored : ignored path = true) : file ∉ s.found := by
  intro hmem
  obtain ⟨above, name, bytes, rfl, hreach, -, hfile, -⟩ := (mem_found_iff hd hrun).mp hmem
  have hfalse : ignored path = false := by
    rcases hway with rfl | ⟨names, hne, hstart, hpath⟩
    · exact hfile
    · rw [List.dropLast_concat] at hstart
      obtain ⟨-, -, hentry, hfolder⟩ := fate_eq_entered_iff.mp (hreach names hstart hne).2
      rcases hpath with rfl | rfl
      · exact hentry
      · exact hfolder
  rw [hfalse] at hignored
  cases hignored

/-- All lines of some bytes can be compiled, to rules without negations. -/
def Positive (dir : Location) (bytes : List UInt8) : Prop :=
  ∀ line ∈ linesOfBytes bytes, ∃ rule,
    Rule.compile (rebase (Path.joined dir).toList line) = .ok rule ∧
      ∀ r ∈ rule, r.negated = false

theorem positive_of_line {dir : Location} {bytes : List UInt8} {line : List Char} {rule : Rule}
    (hbytes : linesOfBytes bytes = [line])
    (hrule : Rule.compile (rebase (Path.joined dir).toList line) = .ok (some rule))
    (hnegated : rule.negated = false) : Positive dir bytes := by
  intro other hother
  rw [hbytes, List.mem_singleton] at hother
  subst hother
  refine ⟨some rule, hrule, fun r hr => ?_⟩
  cases hr
  exact hnegated

/-- A rule of the ignore file that matches on the way to a file hides the file. -/
theorem exists_differ_stage {dir file : Location} {bytes : List UInt8} {line path : List Char}
    {rule : Rule} {extensions : List String} (h : Staged dir file)
    (haccepted : Text.lower (Path.suffix (file.getLast?.getD "")) ∈ extensions.map Text.lower)
    (hpositive : Positive dir bytes) (hline : line ∈ linesOfBytes bytes)
    (hrule : Rule.compile (rebase (Path.joined dir).toList line) = .ok (some rule))
    (hway : OnTheWay file path) (hsearch : rule.search path ≠ none) :
    ∃ s s', Differ dir ⟨.root, []⟩ extensions [] (stage dir file none)
        (stage dir file (some bytes)) s s' ∧
      s'.found.filter (Walk.clearOf dir) ≠ s.found.filter (Walk.clearOf dir) := by
  have hread : ∃ text, textOfBytes bytes = .ok text := by
    rw [linesOfBytes] at hline
    split at hline
    · exact ⟨_, by assumption⟩
    · cases hline
  obtain ⟨s, hs⟩ := exists_discover_stage_none h extensions
  obtain ⟨s', hs'⟩ := exists_discover_stage h (some bytes) extensions
    (fun b hb => by cases hb; exact hread)
    (fun b hb text htext => by
      cases hb
      obtain ⟨r, hr, -⟩ := hpositive text htext
      exact ⟨r, hr⟩)
  refine ⟨s, s', ⟨h.isTree, h.isTree, rfl, changedAt_stage dir file bytes, hs, hs'⟩, ?_⟩
  have hfound := mem_found_stage h haccepted hs
  -- with the ignore file, the rule leaves out what the walk asks about
  have hignored :
      ignores (rulesBelow (stage dir file (some bytes)) ⟨.root, []⟩ []) path = true := by
    refine Ignore.ignores_of_mem (fun r hr => ?_)
      ((mem_rulesBelow_stage h).mpr ⟨bytes, rfl, line, hline, hrule⟩) hsearch
    obtain ⟨b, hb, text, htext, hcompile⟩ := (mem_rulesBelow_stage h).mp hr
    cases hb
    obtain ⟨rule', hrule', hnegated⟩ := hpositive text htext
    cases hcompile.symm.trans hrule'
    exact hnegated r rfl
  obtain ⟨-, hrun'⟩ := exists_of_discover rfl hs'
  have hhidden := Walk.not_mem_found h.isTree.1 hrun' hway hignored
  intro heq
  have hmem : file ∈ s.found.filter (Walk.clearOf dir) :=
    List.mem_filter.mpr ⟨hfound, Walk.clearOf_eq_true_iff.mpr h.notBelow⟩
  rw [← heq] at hmem
  exact hhidden (List.mem_of_mem_filter hmem)

/-- A name that does not lead on from a place to a directory. -/
def spareName (dir names : Location) : String :=
  if (names ++ ["a"]).isPrefixOf dir then "b" else "a"

theorem not_prefix_spareName (dir names : Location) : ¬names ++ [spareName dir names] <+: dir := by
  rw [spareName]
  split
  · next ha =>
    intro hb
    have hlength : (names ++ ["a"]).length = (names ++ ["b"]).length := by simp
    have heq := List.prefix_of_prefix_length_le (List.isPrefixOf_iff_prefix.mp ha) hb
      (Nat.le_of_eq hlength)
    have hlast := List.append_cancel_left (heq.eq_of_length hlength)
    revert hlast
    decide
  · next ha => exact fun hstart => ha (List.isPrefixOf_iff_prefix.mpr hstart)

/-- **Overreach.** A line that is not contained hides a file outside its directory in some tree. -/
theorem exists_differ_of_not_contained {dir : Location} {bytes : List UInt8} {line : List Char}
    (hdir : dir ≠ []) (hnames : ∀ name ∈ dir, IsName name)
    (hwalked : ∀ name ∈ dir, isReserved name = false) (hpositive : Positive dir bytes)
    (hline : line ∈ linesOfBytes bytes) (hnot : ¬Contained dir line) :
    ∃ file, Staged dir file ∧ ∃ s s', Differ dir ⟨.root, []⟩ [""] [] (stage dir file none)
        (stage dir file (some bytes)) s s' ∧
      s'.found.filter (Walk.clearOf dir) ≠ s.found.filter (Walk.clearOf dir) := by
  simp only [Contained, not_forall] at hnot
  obtain ⟨rule, hrule, names, hout, hmatch⟩ := hnot
  have hlastMem := List.getLast_mem hout.ne_nil
  have hlast := List.getLast?_eq_some_getLast hout.ne_nil
  cases hreserved : isReserved (names.getLast hout.ne_nil) with
  | true =>
    -- no directory has the last name, so it is that of the file itself
    have hentry : rule.search (Path.joined names).toList ≠ none := by
      intro hnone
      refine hmatch ⟨hnone, fun hall => ?_⟩
      rw [hall _ hlastMem] at hreserved
      cases hreserved
    have hstaged : Staged dir names := by
      refine ⟨hdir, hout.ne_nil, fun name hname => ?_, hwalked, hout.walked, ?_, hout.notBelow⟩
      · exact (List.mem_append.mp hname).elim (hnames name) (hout.isName name)
      · intro hstart
        rw [hwalked _ (hstart.subset hlastMem)] at hreserved
        cases hreserved
    have hbare : Path.suffix (names.getLast?.getD "") = "" := by
      rw [hlast, Option.getD_some]
      simp only [isReserved, Bool.or_eq_true, beq_iff_eq] at hreserved
      rcases hreserved with h | h <;> rw [h] <;> rfl
    have haccepted : Text.lower (Path.suffix (names.getLast?.getD "")) ∈ [""].map Text.lower := by
      rw [hbare]
      exact List.mem_cons_self
    exact ⟨names, hstaged,
      exists_differ_stage hstaged haccepted hpositive hline hrule (.inl rfl) hentry⟩
  | false =>
    -- the names lead to a directory, and a file in it is hidden
    have hall : ∀ name ∈ names, isReserved name = false := by
      intro name hname
      rw [← List.dropLast_concat_getLast hout.ne_nil] at hname
      rcases List.mem_append.mp hname with hname | hname
      · exact hout.walked name hname
      · rw [List.mem_singleton.mp hname, hreserved]
    have hspare : spareName dir names = "a" ∨ spareName dir names = "b" := by
      rw [spareName]
      split
      · exact .inr rfl
      · exact .inl rfl
    have hstaged : Staged dir (names ++ [spareName dir names]) := by
      refine ⟨hdir, by simp, fun name hname => ?_, hwalked, by simpa using hall,
        not_prefix_spareName dir names, ?_⟩
      · rcases List.mem_append.mp hname with hname | hname
        · exact hnames name hname
        · rcases List.mem_append.mp hname with hname | hname
          · exact hout.isName name hname
          · rw [List.mem_singleton.mp hname]
            rcases hspare with h | h <;> rw [h] <;> exact ⟨by decide, by decide⟩
      · intro hstart
        rcases List.prefix_concat_iff.mp hstart with heq | hstart
        · exact not_prefix_spareName dir names (heq ▸ List.prefix_rfl)
        · exact hout.notBelow hstart
    have hbare : Path.suffix ((names ++ [spareName dir names]).getLast?.getD "") = "" := by
      rw [List.getLast?_concat, Option.getD_some]
      rcases hspare with h | h <;> rw [h] <;> rfl
    have haccepted : Text.lower (Path.suffix ((names ++ [spareName dir names]).getLast?.getD "")) ∈
        [""].map Text.lower := by
      rw [hbare]
      exact List.mem_cons_self
    obtain ⟨path, hpath, hsearch⟩ : ∃ path, (path = (Path.joined names).toList ∨
        path = (Path.joined names).toList ++ ['/']) ∧ rule.search path ≠ none := by
      by_cases hentry : rule.search (Path.joined names).toList = none
      · exact ⟨_, .inr rfl, fun hfolder => hmatch ⟨hentry, fun _ => hfolder⟩⟩
      · exact ⟨_, .inl rfl, hentry⟩
    have hway : OnTheWay (names ++ [spareName dir names]) path := by
      refine .inr ⟨names, hout.ne_nil, ?_, hpath⟩
      rw [List.dropLast_concat]
    exact ⟨_, hstaged, exists_differ_stage hstaged haccepted hpositive hline hrule hway hsearch⟩

/-! ## The exact reach -/

/-- **The exact reach of an ignore file.** Two trees that differ in the ignore file of a directory
only give the same files outside the directory if all lines of the file are contained. For a file
without negations, in a directory that the walk can go through, this is exactly when the file can be
added to any tree without changing what is found outside. The lines of a directory with a plain name
are contained, comments with blanks in front apart. -/
theorem filter_found_eq_and_contained_iff {dir : Location} (hdir : dir ≠ [])
    (hnames : ∀ name ∈ dir, IsName name) :
    (∀ root extensions place d d' s s', Differ dir root extensions place d d' s s' →
      (∀ line ∈ d.ignoreText (place ++ dir), Contained dir line) →
      (∀ line ∈ d'.ignoreText (place ++ dir), Contained dir line) →
      s'.found.filter (Walk.clearOf dir) = s.found.filter (Walk.clearOf dir)) ∧
    ((∀ name ∈ dir, isReserved name = false) → ∀ bytes, Positive dir bytes →
      ((∀ root extensions place d d' s s', Differ dir root extensions place d d' s s' →
        d.find? (place ++ (dir ++ [ignoreFileName])) = none →
        d'.find? (place ++ (dir ++ [ignoreFileName])) = some (.file bytes) →
        s'.found.filter (Walk.clearOf dir) = s.found.filter (Walk.clearOf dir)) ↔
      ∀ line ∈ linesOfBytes bytes, Contained dir line)) ∧
    (Ignore.isPlain (Path.joined dir).toList = true →
      (Path.joined dir).toList.head? ≠ some '!' →
      ∀ line, isIndentedComment line = false → Contained dir line) := by
  refine ⟨fun root extensions place d d' s s' => filter_found_eq, ?_,
    fun hplain hmark line => contained_of_isPlain hdir hnames hplain hmark⟩
  intro hwalked bytes hpositive
  constructor
  · intro hsame line hline
    refine Classical.byContradiction fun hnot => ?_
    obtain ⟨file, hstaged, s, s', hdiffer, hne⟩ :=
      exists_differ_of_not_contained hdir hnames hwalked hpositive hline hnot
    exact hne (hsame _ _ _ _ _ s s' hdiffer (find?_stage_none hstaged)
      (find?_stage_some hstaged bytes))
  · intro hcontained root extensions place d d' s s' hdiffer hnone hsome
    refine filter_found_eq hdiffer (fun line hline => ?_) fun line hline => ?_
    · rw [Disk.ignoreText, List.append_assoc, hnone] at hline
      cases hline
    · rw [Disk.ignoreText, List.append_assoc, hsome] at hline
      exact hcontained line hline

/-- An ignore file in a directory with a plain name leaves what is beside the directory alone. -/
theorem filter_found_eq_docs :
    ∃ s s', Differ ["docs"] ⟨.root, []⟩ [".c"] [] (stage ["docs"] ["main.c"] none)
        (stage ["docs"] ["main.c"] (some (asciiBytes "*.c\n"))) s s' ∧
      s'.found.filter (Walk.clearOf ["docs"]) = s.found.filter (Walk.clearOf ["docs"]) := by
  have hstaged : Staged ["docs"] ["main.c"] :=
    ⟨by decide, by decide, by decide, by decide, by decide, by decide, by decide⟩
  have hbytes : linesOfBytes (asciiBytes "*.c\n") = ["*.c".toList] := by decide
  obtain ⟨s, hs⟩ := exists_discover_stage_none hstaged [".c"]
  obtain ⟨s', hs'⟩ := exists_discover_stage hstaged (some (asciiBytes "*.c\n")) [".c"]
    (fun b hb => by cases hb; exact ⟨_, rfl⟩)
    (fun b hb text htext => by
      cases hb
      rw [hbytes, List.mem_singleton] at htext
      rw [htext]
      exact ⟨_, rfl⟩)
  have hdiffer : Differ ["docs"] ⟨.root, []⟩ [".c"] [] (stage ["docs"] ["main.c"] none)
      (stage ["docs"] ["main.c"] (some (asciiBytes "*.c\n"))) s s' :=
    ⟨hstaged.isTree, hstaged.isTree, rfl, changedAt_stage _ _ _, hs, hs'⟩
  obtain ⟨hsame, -, hplain⟩ :=
    filter_found_eq_and_contained_iff hstaged.dir_ne_nil
      (by decide : ∀ name ∈ ["docs"], IsName name)
  refine ⟨s, s', hdiffer, hsame _ _ _ _ _ s s' hdiffer (fun line hline => ?_) fun line hline => ?_⟩
  · rw [Disk.ignoreText, List.nil_append, find?_stage_none hstaged] at hline
    cases hline
  · rw [Disk.ignoreText, List.nil_append, find?_stage_some hstaged] at hline
    dsimp only at hline
    rw [hbytes, List.mem_singleton] at hline
    rw [hline]
    exact hplain (by decide) (by decide) _ (by decide)

/-- A directory called `[id]` is read as a glob for `i` and `d`, so that its ignore file hides a
file beside it, and in any directory a comment with a blank in front hides the file that it
names. -/
theorem exists_differ_overreach :
    (∃ s s', Differ ["[id]"] ⟨.root, []⟩ sourceExtensions [] (stage ["[id]"] ["i", "x.js"] none)
        (stage ["[id]"] ["i", "x.js"] (some (asciiBytes "x.js\n"))) s s' ∧
      s'.found.filter (Walk.clearOf ["[id]"]) ≠ s.found.filter (Walk.clearOf ["[id]"])) ∧
    ∃ s s', Differ ["docs"] ⟨.root, []⟩ sourceExtensions [] (stage ["docs"] [" #x.js"] none)
        (stage ["docs"] [" #x.js"] (some (asciiBytes " #x.js\n"))) s s' ∧
      s'.found.filter (Walk.clearOf ["docs"]) ≠ s.found.filter (Walk.clearOf ["docs"]) := by
  constructor
  · have hstaged : Staged ["[id]"] ["i", "x.js"] :=
      ⟨by decide, by decide, by decide, by decide, by decide, by decide, by decide⟩
    have hbytes : linesOfBytes (asciiBytes "x.js\n") = ["x.js".toList] := by decide
    obtain ⟨rule, hrule, hnegated, hsearch⟩ : ∃ rule,
        Rule.compile (rebase (Path.joined ["[id]"]).toList "x.js".toList) = .ok (some rule) ∧
          rule.negated = false ∧ rule.search "i/x.js".toList ≠ none :=
      ⟨_, rfl, rfl, by decide +kernel⟩
    exact exists_differ_stage hstaged (by decide +kernel) (positive_of_line hbytes hrule hnegated)
      (hbytes ▸ List.mem_singleton_self _) hrule (.inl (by decide)) hsearch
  · have hstaged : Staged ["docs"] [" #x.js"] :=
      ⟨by decide, by decide, by decide, by decide, by decide, by decide, by decide⟩
    have hbytes : linesOfBytes (asciiBytes " #x.js\n") = [" #x.js".toList] := by decide
    obtain ⟨rule, hrule, hnegated, hsearch⟩ : ∃ rule,
        Rule.compile (rebase (Path.joined ["docs"]).toList " #x.js".toList) = .ok (some rule) ∧
          rule.negated = false ∧ rule.search " #x.js".toList ≠ none :=
      ⟨_, rfl, rfl, by decide +kernel⟩
    exact exists_differ_stage hstaged (by decide +kernel) (positive_of_line hbytes hrule hnegated)
      (hbytes ▸ List.mem_singleton_self _) hrule (.inl (by decide)) hsearch

end Relocation
