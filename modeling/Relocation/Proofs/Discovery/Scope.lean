import Relocation.Proofs.Discovery.Origins
import Relocation.Proofs.Ignore.Containment

/-!
# How far an ignore file reaches

An ignore file is meant to act below its own directory only. Its lines are moved up to the root with
the name of the directory in front, and such a line is `Contained` if the rule it makes matches
nothing outside the directory that discovery could ask about.

* `contained_of_isPlain` — lines of a directory with a plain name are contained, comments with
  blanks in front apart,
* `ignores_eq_of_changedAt` — verdicts outside the directory do not depend on contained lines,
* `Walk.filter_entriesAt_eq` — one level of two walks that differ in contained lines only,
* `filter_found_eq` — **no reach**: the files found outside the directory are the same in two trees
  that differ in contained lines only.
-/

namespace Relocation

open Ignore (Rule rebase ignores)

/-! ## Contained lines -/

/-- A tree as a disk can hold it: well-formed, with proper names. -/
def Disk.IsTree (d : Disk) : Prop :=
  d.WellFormed ∧ ∀ entry ∈ d.entries, ∀ name ∈ entry.1, IsName name

/-- Whether the walk goes through no directory of a name. -/
def isReserved (name : String) : Bool :=
  name == ".git" || name == ignoreFileName

/-- Names that lead to something which the walk can meet and which is not below a directory. -/
structure Outside (dir names : Location) : Prop where
  ne_nil : names ≠ []
  isName : ∀ name ∈ names, IsName name
  walked : ∀ name ∈ names.dropLast, isReserved name = false
  notBelow : ¬dir <+: names

/-- A line of the ignore file in a directory matches nothing outside the directory, be it asked for
with or without a slash at the end. -/
def Contained (dir : Location) (line : List Char) : Prop :=
  ∀ rule, Rule.compile (rebase (Path.joined dir).toList line) = .ok (some rule) →
    ∀ names, Outside dir names →
      rule.search (Path.joined names).toList = none ∧
        ((∀ name ∈ names, isReserved name = false) →
          rule.search ((Path.joined names).toList ++ ['/']) = none)

/-- A comment with blanks in front, which is no comment to a rule. -/
def isIndentedComment (line : List Char) : Bool :=
  (Text.trimStart .blank line).head? == some '#' && line.head? != some '#'

/-- The lines of a directory whose name has no characters that mean something in a glob and no mark
of a negation in front are contained, unless they are comments with blanks in front. -/
theorem contained_of_isPlain {dir : Location} (hdir : dir ≠ []) (hnames : ∀ name ∈ dir, IsName name)
    (hplain : Ignore.isPlain (Path.joined dir).toList = true)
    (hmark : (Path.joined dir).toList.head? ≠ some '!') {line : List Char}
    (hline : isIndentedComment line = false) : Contained dir line := by
  intro rule hrule names hout
  have hcomment : (Text.trimStart .blank line).head? = some '#' → line.head? = some '#' := by
    simpa [isIndentedComment] using hline
  have hnone : ∀ path, (path = (Path.joined names).toList ∨
      path = (Path.joined names).toList ++ ['/']) → rule.search path = none := by
    intro path hpath
    refine Classical.byContradiction fun hsearch => hout.notBelow ?_
    obtain ⟨rest, hrest⟩ :=
      Ignore.exists_below_of_search hdir hnames hplain hmark hcomment hrule hsearch
    have hthrough := hpath.imp (fun heq => heq ▸ hrest) fun heq => heq ▸ hrest
    exact Path.prefix_of_joined hdir hout.ne_nil hnames hout.isName hthrough
  exact ⟨hnone _ (.inl rfl), fun _ => hnone _ (.inr rfl)⟩

/-! ## Rules outside the directory -/

/-- What gives nothing can be left out. -/
theorem flatMap_filter_of_nil {α β : Type} {p : α → Bool} {f : α → List β} {l : List α}
    (h : ∀ x ∈ l, p x = false → f x = []) : (l.filter p).flatMap f = l.flatMap f := by
  induction l with
  | nil => rfl
  | cons x l ih =>
    rw [List.forall_mem_cons] at h
    cases hx : p x with
    | true => rw [List.filter_cons_of_pos hx, List.flatMap_cons, List.flatMap_cons, ih h.2]
    | false =>
      rw [List.filter_cons_of_neg (by simp [hx]), List.flatMap_cons, h.1 hx, ih h.2]
      rfl

section

variable {d d' : Disk} {root : Path} {place dir : Location}

/-- All ignore files but the one that changed are the same, in the same order. -/
theorem filter_ignoreFiles_eq (hd : d.WellFormed) (hd' : d'.WellFormed)
    (hchange : d.ChangedAt (place ++ (dir ++ [ignoreFileName])) d') :
    (ignoreFiles d' place).filter (fun file => file.1 != dir ++ [ignoreFileName]) =
      (ignoreFiles d place).filter fun file => file.1 != dir ++ [ignoreFileName] := by
  refine Entries.eq_of_perm (fun _ _ => Location.le_antisymm) ?_
    ((nodup_ignoreFiles hd' place).sublist (List.filter_sublist.map Prod.fst))
    ((pairwise_ignoreFiles d' place).filter _) ((pairwise_ignoreFiles d place).filter _)
  have hperm (d : Disk) :
      ((ignoreFiles d place).filter fun file => file.1 != dir ++ [ignoreFileName]).Perm
        (((d.below place).filter fun file => file.1 != dir ++ [ignoreFileName]).filter
          fun file => file.1.getLast? == some ignoreFileName) := by
    rw [List.filter_comm]
    exact (List.mergeSort_perm _ _).filter _
  exact (hperm d').trans (((hchange.below_perm hd hd').filter _).trans (hperm d).symm)

/-- All lines but those of the directory are the same, in the same order. -/
theorem filter_originLines_eq (hd : d.WellFormed) (hd' : d'.WellFormed)
    (hchange : d.ChangedAt (place ++ (dir ++ [ignoreFileName])) d') :
    (originLines d' root place).filter (fun line => line.1 != dir) =
      (originLines d root place).filter fun line => line.1 != dir := by
  have hlines (d : Disk) : (originLines d root place).filter (fun line => line.1 != dir) =
      ((ignoreFiles d place).filter fun file => file.1 != dir ++ [ignoreFileName]).flatMap
        fun file => (ignoreLinesAt root file).filter fun line => line.1 != dir := by
    rw [originLines, List.filter_flatMap, flatMap_filter_of_nil]
    intro file hfile hspot
    refine List.filter_eq_nil_iff.mpr fun line hline => ?_
    have hplace := eq_of_mem_ignoreLinesAt (mem_ignoreFiles.mp hfile).2 hline
    rw [bne_eq_false_iff_eq, hplace] at hspot
    simp [List.append_cancel_right hspot]
  rw [hlines d', hlines d, filter_ignoreFiles_eq hd hd' hchange]

/-- The rules of a tree. -/
def rulesBelow (d : Disk) (root : Path) (place : Location) : List Rule :=
  ((originLines d root place).map Prod.snd).filterMap Rule.ofLine?

/-- No line of the directory matches a path. -/
def Quiet (d : Disk) (root : Path) (place dir : Location) (path : List Char) : Prop :=
  ∀ line, (dir, line) ∈ originLines d root place → ∀ rule,
    Rule.ofLine? line = some rule → rule.search path = none

/-- Where the lines of the directory do not match, the others decide. -/
theorem filter_rulesBelow_eq {path : List Char} (hquiet : Quiet d root place dir path) :
    (rulesBelow d root place).filter (fun r => (r.search path).isSome) =
      (((originLines d root place).filter fun line => line.1 != dir).filterMap
        fun line => Rule.ofLine? line.2).filter fun r => (r.search path).isSome := by
  rw [rulesBelow, List.filterMap_map, List.filter_filterMap, List.filter_filterMap,
    List.filterMap_filter]
  refine List.filterMap_congr ?_
  rintro ⟨origin, line⟩ hline
  by_cases horigin : origin = dir
  · subst horigin
    cases hrule : Rule.ofLine? line with
    | none => simp [hrule]
    | some rule => simp [hrule, hquiet line hline rule hrule]
  · simp [horigin]

/-- **Verdicts outside the directory.** Two trees that differ in the ignore file of a directory only
give the same verdict on a path that neither of the two files matches. -/
theorem ignores_eq_of_changedAt (hd : d.WellFormed) (hd' : d'.WellFormed)
    (hchange : d.ChangedAt (place ++ (dir ++ [ignoreFileName])) d') {path : List Char}
    (hquiet : Quiet d root place dir path) (hquiet' : Quiet d' root place dir path) :
    ignores (rulesBelow d' root place) path = ignores (rulesBelow d root place) path := by
  rw [← Ignore.ignores_filter, filter_rulesBelow_eq hquiet', filter_originLines_eq hd hd' hchange,
    ← filter_rulesBelow_eq hquiet, Ignore.ignores_filter]

/-- Contained lines match nothing outside. -/
theorem quiet_of_contained (hd : d.WellFormed) (root : Path)
    (hcontained : ∀ line ∈ d.ignoreText (place ++ dir), Contained dir line) {names : Location}
    (hout : Outside dir names) :
    Quiet d root place dir (Path.joined names).toList ∧
      ((∀ name ∈ names, isReserved name = false) →
        Quiet d root place dir ((Path.joined names).toList ++ ['/'])) := by
  have hrule : ∀ line, (dir, line) ∈ originLines d root place → ∀ rule,
      Rule.ofLine? line = some rule → rule.search (Path.joined names).toList = none ∧
        ((∀ name ∈ names, isReserved name = false) →
          rule.search ((Path.joined names).toList ++ ['/']) = none) := by
    intro line hline rule hrule
    obtain ⟨text, htext, rfl⟩ := (mem_originLines hd).mp hline
    exact hcontained text htext rule (Rule.ofLine?_eq_some_iff.mp hrule) names hout
  exact ⟨fun line hline rule h => (hrule line hline rule h).1,
    fun hwalked line hline rule h => (hrule line hline rule h).2 hwalked⟩

end

/-! ## The two walks -/

namespace Walk

section

variable {d d' : Disk} {ignored ignored' : List Char → Bool} {accepted : List String}
  {root dir : Location}

/-- What is not below a directory, nor the directory itself. -/
def clearOf (dir names : Location) : Bool :=
  !dir.isPrefixOf names

theorem clearOf_eq_true_iff {names : Location} : clearOf dir names = true ↔ ¬dir <+: names := by
  rw [clearOf, Bool.not_eq_true', Bool.eq_false_iff, ne_eq, List.isPrefixOf_iff_prefix]

/-- Below what is not clear nothing is. -/
theorem clearOf_append {names : Location} {name : String}
    (h : clearOf dir (names ++ [name]) = true) : clearOf dir names = true := by
  rw [clearOf_eq_true_iff] at h ⊢
  exact fun hbelow => h (hbelow.trans (List.prefix_append names [name]))

/-- Two verdicts agree on what the walk asks about an entry. -/
def Agree (ignored ignored' : List Char → Bool) (names : Location) (entry : Entry) : Prop :=
  ignored' (Path.joined names).toList = ignored (Path.joined names).toList ∧
    (entry = .folder → names.getLast?.getD "" ≠ ".git" →
      ignored' ((Path.joined names).toList ++ ['/']) =
        ignored ((Path.joined names).toList ++ ['/']))

theorem fate_eq_of_agree {names : Location} {entry : Entry}
    (h : Agree ignored ignored' names entry) :
    fate ignored' accepted names entry = fate ignored accepted names entry := by
  obtain ⟨hentry, hfolder⟩ := h
  cases entry with
  | file bytes => simp [fate, Entry.isFolder, hentry]
  | folder =>
    by_cases hgit : names.getLast?.getD "" = ".git"
    · simp [fate, Entry.isFolder, hgit]
    · simp [fate, Entry.isFolder, hentry, hfolder rfl hgit]

theorem filter_withFate (f : Fate) (p : Location → Bool) (met : List (Location × Fate)) :
    (withFate f met).filter p = withFate f (met.filter fun entry => p entry.1) := by
  rw [withFate, withFate, List.filter_map, List.filter_comm]
  rfl

/-- A directory that did not change is listed in the same order. -/
theorem sorted_children_eq (hd : d.WellFormed) (hd' : d'.WellFormed)
    (hchange : d.ChangedAt (root ++ (dir ++ [ignoreFileName])) d') {names : Location}
    (hnames : clearOf dir names = true) :
    ((d'.children (root ++ names)).mergeSort fun a b => a.1 ≤ b.1) =
      (d.children (root ++ names)).mergeSort fun a b => a.1 ≤ b.1 := by
  have hplace : root ++ names ≠ (root ++ (dir ++ [ignoreFileName])).dropLast := by
    rw [← List.append_assoc, List.dropLast_concat]
    intro heq
    rw [List.append_cancel_left heq, clearOf_eq_true_iff] at hnames
    exact hnames List.prefix_rfl
  have hsorted (d : Disk) :
      ((d.children (root ++ names)).mergeSort fun a b => a.1 ≤ b.1).Pairwise
        fun a b => decide (a.1 ≤ b.1) = true := by
    refine List.pairwise_mergeSort (fun a b c => ?_) (fun a b => ?_) _
    · simpa using String.le_trans
    · simpa using String.le_total a.1 b.1
  have hanti : ∀ a b : String, decide (a ≤ b) = true → decide (b ≤ a) = true → a = b := by
    simpa using fun a b => String.le_antisymm
  refine Entries.eq_of_perm hanti ?_ ?_ (hsorted d') (hsorted d)
  · exact (List.mergeSort_perm _ _).trans
      ((hchange.children_perm hd hd' hplace).trans (List.mergeSort_perm _ _).symm)
  · rw [((List.mergeSort_perm _ _).map Prod.fst).nodup_iff]
    exact hd'.nodup_children _

/-- One directory of two walks. -/
theorem filter_visit_eq (hd : d.WellFormed) (hd' : d'.WellFormed)
    (hchange : d.ChangedAt (root ++ (dir ++ [ignoreFileName])) d') {names : Location}
    (hnames : clearOf dir names = true)
    (hagree : ∀ name entry, d.find? (root ++ names ++ [name]) = some entry →
      clearOf dir (names ++ [name]) = true → Agree ignored ignored' (names ++ [name]) entry) :
    (visit d' ignored' accepted root names).filter (fun met => clearOf dir met.1) =
      (visit d ignored accepted root names).filter fun met => clearOf dir met.1 := by
  rw [visit, visit, sorted_children_eq hd hd' hchange hnames, List.filter_map, List.filter_map]
  refine List.map_congr_left ?_
  rintro ⟨name, entry⟩ hmem
  obtain ⟨hmem, hclear⟩ := List.mem_filter.mp hmem
  have hfind := hd.mem_children_iff.mp (List.mem_mergeSort.mp hmem)
  exact Prod.ext rfl (fate_eq_of_agree (hagree name entry hfind hclear))

/-- One level of two walks. -/
theorem filter_entriesAt_eq (hd : d.WellFormed) (hd' : d'.WellFormed)
    (hchange : d.ChangedAt (root ++ (dir ++ [ignoreFileName])) d') {depth : Nat}
    (hagree : ∀ names, Reaches d ignored accepted root names → ∀ name entry,
      d.find? (root ++ names ++ [name]) = some entry → clearOf dir (names ++ [name]) = true →
        Agree ignored ignored' (names ++ [name]) entry)
    (hlevel : (level d' ignored' accepted root depth).filter (clearOf dir) =
      (level d ignored accepted root depth).filter (clearOf dir)) :
    (entriesAt d' ignored' accepted root depth).filter (fun met => clearOf dir met.1) =
      (entriesAt d ignored accepted root depth).filter fun met => clearOf dir met.1 := by
  -- what is below a directory is met in it or in directories below it
  have hrestrict {d : Disk} (hd : d.WellFormed) (ignored : List Char → Bool) :
      (entriesAt d ignored accepted root depth).filter (fun met => clearOf dir met.1) =
        ((level d ignored accepted root depth).filter (clearOf dir)).flatMap fun names =>
          (visit d ignored accepted root names).filter fun met => clearOf dir met.1 := by
    rw [entriesAt, List.filter_flatMap, flatMap_filter_of_nil]
    intro names _ hnames
    refine List.filter_eq_nil_iff.mpr fun met hmet hclear => ?_
    obtain ⟨name, entry, hname, -⟩ := (mem_visit_iff hd).mp hmet
    rw [clearOf_append (hname ▸ hclear)] at hnames
    cases hnames
  rw [hrestrict hd' ignored', hrestrict hd ignored, hlevel]
  refine List.flatMap_congr fun names hmem => ?_
  obtain ⟨hmem, hclear⟩ := List.mem_filter.mp hmem
  have hreach := ((mem_level_iff hd).mp hmem).2
  exact filter_visit_eq hd hd' hchange hclear (hagree names hreach)

/-- **All levels of two walks.** By induction on the depth: the directories of a level outside are
the same, since they were met on the level above. -/
theorem filter_level_eq (hd : d.WellFormed) (hd' : d'.WellFormed)
    (hchange : d.ChangedAt (root ++ (dir ++ [ignoreFileName])) d')
    (hagree : ∀ names, Reaches d ignored accepted root names → ∀ name entry,
      d.find? (root ++ names ++ [name]) = some entry → clearOf dir (names ++ [name]) = true →
        Agree ignored ignored' (names ++ [name]) entry) (depth : Nat) :
    (level d' ignored' accepted root depth).filter (clearOf dir) =
      (level d ignored accepted root depth).filter (clearOf dir) := by
  induction depth with
  | zero => rfl
  | succ depth ih =>
    rw [level_succ, level_succ, filter_withFate, filter_withFate,
      filter_entriesAt_eq hd hd' hchange hagree ih]

end

end Walk

/-! ## No reach -/

/-- Two discoveries over trees that differ in the ignore file of a directory only. -/
structure Differ (dir : Location) (root : Path) (extensions : List String) (place : Location)
    (d d' : Disk) (s s' : Survey) : Prop where
  tree : d.IsTree
  tree' : d'.IsTree
  folder : d.folder? root = .ok (some place)
  changed : d.ChangedAt (place ++ (dir ++ [ignoreFileName])) d'
  run : discover d root extensions = .ok (.ok s)
  run' : discover d' root extensions = .ok (.ok s')

/-- Names that lead to something in a tree are proper. -/
theorem Disk.IsTree.isName {d : Disk} (hd : d.IsTree) {place names : Location} {entry : Entry}
    (h : d.find? (place ++ names) = some entry) : ∀ name ∈ names, IsName name := by
  intro name hname
  have hne : place ++ names ≠ [] := by
    simp [List.ne_nil_of_mem hname]
  have hmem := (hd.1.find?_eq_some_iff hne).mp h
  exact hd.2 _ hmem name (List.mem_append_right place hname)

/-- A discovery that succeeds walks with the rules of its tree. -/
theorem exists_of_discover {d : Disk} {root : Path} {extensions : List String} {s : Survey}
    {place : Location} (hfolder : d.folder? root = .ok (some place))
    (h : discover d root extensions = .ok (.ok s)) :
    (∃ lines, ignoreLines d root place = .ok lines) ∧
      Walk.levels d (ignores (rulesBelow d root place)) (extensions.map Text.lower) root place
        (d.entries.length + 1) [[]] = .ok s := by
  obtain ⟨place', lines, rules, hfolder', hlines, hrules, hlevels⟩ := discover_eq_ok_iff.mp h
  obtain rfl : place = place' := by
    simpa using hfolder.symm.trans hfolder'
  obtain ⟨-, rfl⟩ := ignoreLines_eq_ok_iff.mp hlines
  obtain ⟨-, rfl⟩ := Ignore.compileAll_eq_ok_iff.mp hrules
  exact ⟨⟨_, hlines⟩, hlevels⟩

/-- The walk goes through no directory of a reserved name. -/
theorem Walk.isReserved_of_reaches {d : Disk} {ignored : List Char → Bool} {accepted : List String}
    {root : Path} {place names : Location} {lines : List (List Char)} (hd : d.WellFormed)
    (hlines : ignoreLines d root place = .ok lines)
    (h : Reaches d ignored accepted place names) : ∀ name ∈ names, isReserved name = false := by
  intro name hname
  obtain ⟨before, after, rfl⟩ := List.append_of_mem hname
  have hq : before ++ [name] <+: before ++ name :: after := ⟨after, by simp⟩
  obtain ⟨hfind, hfate⟩ := h _ hq (by simp)
  have hgit := (fate_eq_entered_iff.mp hfate).2.1
  have hignore := getLast?_ne_of_folder hd hlines (by simp) hfind
  simp at hgit hignore
  simp [isReserved, hgit, hignore]

/-- **No reach.** The files found outside a directory are the same, in the same order, in two trees
that differ in the ignore file of the directory only, if all lines of the file are contained. -/
theorem filter_found_eq {dir place : Location} {root : Path} {extensions : List String}
    {d d' : Disk} {s s' : Survey} (h : Differ dir root extensions place d d' s s')
    (hlines : ∀ line ∈ d.ignoreText (place ++ dir), Contained dir line)
    (hlines' : ∀ line ∈ d'.ignoreText (place ++ dir), Contained dir line) :
    s'.found.filter (Walk.clearOf dir) = s.found.filter (Walk.clearOf dir) := by
  obtain ⟨⟨lines, hread⟩, hrun⟩ := exists_of_discover h.folder h.run
  -- the changed place holds no directory, so the root is the same
  have hspot : d.find? (place ++ (dir ++ [ignoreFileName])) ≠ some .folder := fun hfolder =>
    getLast?_ne_of_folder h.tree.1 hread (by simp) hfolder (by simp)
  obtain ⟨-, hrun'⟩ := exists_of_discover (h.changed.folder?_eq hspot h.folder) h.run'
  have hagree : ∀ names, Walk.Reaches d (ignores (rulesBelow d root place))
      (extensions.map Text.lower) place names → ∀ name entry,
      d.find? (place ++ names ++ [name]) = some entry →
      Walk.clearOf dir (names ++ [name]) = true →
        Walk.Agree (ignores (rulesBelow d root place)) (ignores (rulesBelow d' root place))
          (names ++ [name]) entry := by
    intro names hreach name entry hfind hclear
    rw [List.append_assoc] at hfind
    have hwalked := Walk.isReserved_of_reaches h.tree.1 hread hreach
    have hout : Outside dir (names ++ [name]) :=
      ⟨by simp, h.tree.isName hfind, by simpa using hwalked, Walk.clearOf_eq_true_iff.mp hclear⟩
    obtain ⟨hquiet, hquietFolder⟩ := quiet_of_contained h.tree.1 root hlines hout
    obtain ⟨hquiet', hquietFolder'⟩ := quiet_of_contained h.tree'.1 root hlines' hout
    refine ⟨ignores_eq_of_changedAt h.tree.1 h.tree'.1 h.changed hquiet hquiet', ?_⟩
    rintro rfl hgit
    have hlast := getLast?_ne_of_folder h.tree.1 hread (by simp) hfind
    have hall : ∀ n ∈ names ++ [name], isReserved n = false := by
      simp at hgit hlast
      simpa [isReserved, hgit, hlast, or_imp, forall_and] using hwalked
    exact ignores_eq_of_changedAt h.tree.1 h.tree'.1 h.changed (hquietFolder hall)
      (hquietFolder' hall)
  have hentries (depth : Nat) := Walk.filter_entriesAt_eq h.tree.1 h.tree'.1 h.changed hagree
    (Walk.filter_level_eq h.tree.1 h.tree'.1 h.changed hagree depth)
  obtain ⟨-, hfound, -⟩ := Walk.levels_root_eq_ok_iff.mp hrun
  obtain ⟨-, hfound', -⟩ := Walk.levels_root_eq_ok_iff.mp hrun'
  -- the trees need not have the same number of entries, so both walks go as deep as one of them may
  have hrounds : d.entries.length < max d.entries.length d'.entries.length + 1 := by omega
  have hrounds' : d'.entries.length < max d.entries.length d'.entries.length + 1 := by omega
  rw [hfound, hfound', ← Walk.metWith_eq_of_lt h.tree.1 hrounds,
    ← Walk.metWith_eq_of_lt h.tree'.1 hrounds', Walk.metWith, Walk.metWith, List.filter_flatMap,
    List.filter_flatMap]
  refine List.flatMap_congr fun depth _ => ?_
  rw [Walk.filter_withFate, Walk.filter_withFate, hentries depth]

end Relocation
