import Mathlib.Logic.Relation
import Relocation.Proofs.Disk.Writing

/-!
# What writing reports changes

A report is written by one change of the disk after another: missing directories are made, and in
the end a file is put where the path leads. `Disk.Change` says what one change can be, and all that
holds of many of them follows from one step by induction.

* `Disk.normal` — where the names of a path lead if they are only read, and
  `Disk.eq_normal_of_locate` — a path that leads somewhere leads there,
* `Disk.changes_writeReport` — **a report is written by changes**, also if writing it fails,
* `Disk.Changes.grows`, `wellFormed`, `isUpright` — what they preserve,
* `Disk.Changes.touches` — **what they touch**: files at the paths, and directories on the way that
  were missing.
-/

namespace Relocation.Disk

variable {d d' d'' : Disk} {p : Path} {paths : List Path} {place spot : Location}
  {name : String} {names : List String} {entry : Option Entry}

/-! ## Normalised paths -/

/-- One name further: `..` leads up. -/
def climb (place : Location) (name : String) : Location :=
  if name = ".." then place.dropLast else place ++ [name]

/-- Where a path leads by its names alone. -/
def normal (d : Disk) (p : Path) : Location :=
  p.segments.foldl climb (d.origin p)

theorem eq_foldl_of_follow {start : Location} (h : d.follow start names = .ok place) :
    place = names.foldl climb start := by
  induction names generalizing start with
  | nil =>
    cases h
    rfl
  | cons name rest ih =>
    have hstart := find?_of_follow_cons h
    rw [List.foldl_cons]
    simp only [follow, hstart] at h
    unfold climb
    split at h
    · next hup =>
      rw [if_pos hup]
      exact ih h
    · next hup =>
      rw [if_neg hup]
      split at h
      · cases h
      · split at h
        · cases h
        · exact ih h

/-- A path that leads somewhere leads to the place of its names. -/
theorem eq_normal_of_locate (h : d.locate p = .ok place) : place = d.normal p := by
  rw [locate] at h
  split at h
  · cases h
  · exact eq_foldl_of_follow h

theorem normal_of_cwd (h : d'.cwd = d.cwd) (p : Path) : d'.normal p = d.normal p := by
  rw [normal, normal, origin, origin, h]

theorem normal_join (d : Disk) (p : Path) (names : List String) :
    d.normal (p.join names) = names.foldl climb (d.normal p) :=
  List.foldl_append

theorem foldl_climb_of_notMem (hnames : ".." ∉ names) (place : Location) :
    names.foldl climb place = place ++ names := by
  induction names generalizing place with
  | nil => exact (List.append_nil place).symm
  | cons name rest ih =>
    rw [List.mem_cons, not_or] at hnames
    rw [List.foldl_cons, ih hnames.2, climb, if_neg (Ne.symm hnames.1), List.append_assoc]
    rfl

/-- Reading names makes no place out of `..`. -/
theorem notMem_foldl_climb (hplace : ".." ∉ place) : ".." ∉ names.foldl climb place := by
  induction names generalizing place with
  | nil => exact hplace
  | cons name rest ih =>
    refine ih ?_
    unfold climb
    split
    · exact fun hmem => hplace (List.mem_of_mem_dropLast hmem)
    · next hname => simp [hplace, Ne.symm hname]

/-! ## Changes -/

/-- A place where something of a given path can be made: the place of its names, in a directory that
is there. -/
structure Opens (d : Disk) (p : Path) (spot : Location) : Prop where
  eq_normal : spot = d.normal p
  ne_nil : spot ≠ []
  above : d.find? spot.dropLast = some .folder

theorem targetIn_opens (hplace : place = d.normal p.parent)
    (hname : p.segments.getLast? = some name)
    (h : d.targetIn place name = .ok (spot, entry)) (hentry : entry ≠ some .folder) :
    d.Opens p spot ∧ entry = d.find? spot := by
  have hsegments : p.segments = p.parent.segments ++ [name] :=
    (List.dropLast_append_getLast? name hname).symm
  have hnormal : d.normal p = climb (d.normal p.parent) name := by
    rw [normal, hsegments, List.foldl_append]
    rfl
  rw [targetIn] at h
  split at h
  · cases h
  · cases h
  · next hfolder =>
    split at h
    · cases h
      exact absurd rfl hentry
    · next hup =>
      split at h
      · cases h
      · cases h
        refine ⟨⟨?_, by simp, by rwa [List.dropLast_concat]⟩, rfl⟩
        rw [hnormal, climb, if_neg hup, hplace]

theorem target_opens (h : d.target p = .ok (spot, entry)) (hentry : entry ≠ some .folder) :
    d.Opens p spot ∧ entry = d.find? spot := by
  rw [target] at h
  split at h
  · cases h
    exact absurd rfl hentry
  · next name hname =>
    split at h
    · cases h
    · split at h
      · cases h
      · next place hplace => exact targetIn_opens (eq_normal_of_locate hplace) hname h hentry

/-- **One change** on the way to write reports to some paths: a directory that is missing on the way
to one of them, or a file at one of them. -/
inductive Change (paths : List Path) (d : Disk) : Disk → Prop where
  | folder {p : Path} {names : List String} {spot : Location} (mem : p ∈ paths)
      (isPrefix : names <+: p.segments) (proper : names ≠ p.segments)
      (opens : d.Opens ⟨p.anchor, names⟩ spot) (free : d.find? spot = none) :
      Change paths d (d.put spot .folder)
  | file {p : Path} {spot : Location} (mem : p ∈ paths) (opens : d.Opens p spot)
      (free : d.find? spot ≠ some .folder) (bytes : List UInt8) :
      Change paths d (d.put spot (.file bytes))

/-- Any number of changes. -/
abbrev Changes (paths : List Path) : Disk → Disk → Prop :=
  Relation.ReflTransGen (Change paths)

/-! ## What changes preserve -/

theorem Change.grows (h : Change paths d d') : Grows d d' := by
  cases h with
  | folder _ _ _ hopens hfree => exact Grows.put hopens.ne_nil (by simp [hfree]) .folder
  | file _ hopens hfree bytes => exact Grows.put hopens.ne_nil hfree (.file bytes)

theorem Change.unlistable (h : Change paths d d') : d'.unlistable = d.unlistable := by
  cases h with
  | folder => rfl
  | file => rfl

/-- Something is put into a directory, where no directory is. -/
theorem WellFormed.put (hd : d.WellFormed) (hspot : spot ≠ [])
    (habove : d.find? spot.dropLast = some .folder) (hfree : d.find? spot ≠ some .folder)
    (e : Entry) : (d.put spot e).WellFormed := by
  have hgrows := Grows.put hspot hfree e
  refine ⟨Entries.nodup_put hd.1, hgrows.folder _ hd.2.1, ?_⟩
  intro entry hentry
  have hkey : entry.1 ∈ (Entries.put spot e d.entries).map Prod.fst := List.mem_map_of_mem hentry
  rw [Entries.map_fst_put] at hkey
  have hcases : entry.1 ∈ d.entries.map Prod.fst ∨ entry.1 = spot := by
    split at hkey
    · exact .inl hkey
    · simpa using hkey
  obtain hmem | rfl := hcases
  · obtain ⟨old, hold, hplace⟩ := List.mem_map.mp hmem
    have habove' := hd.2.2 old hold
    rw [hplace] at habove'
    exact ⟨habove'.1, hgrows.folder _ habove'.2⟩
  · exact ⟨hspot, hgrows.folder _ habove⟩

theorem Change.wellFormed (h : Change paths d d') (hd : d.WellFormed) : d'.WellFormed := by
  cases h with
  | folder _ _ _ hopens hfree =>
    exact hd.put hopens.ne_nil hopens.above (by simp [hfree]) .folder
  | file _ hopens hfree bytes => exact hd.put hopens.ne_nil hopens.above hfree (.file bytes)

/-- No name on the disk is `..`, which always leads up. -/
def IsUpright (d : Disk) : Prop :=
  ∀ place, (d.find? place).isSome → ".." ∉ place

theorem isUpright_of_entries (h : ∀ entry ∈ d.entries, ".." ∉ entry.1) : d.IsUpright := by
  intro place hplace
  rw [find?] at hplace
  split at hplace
  · next hnil =>
    rw [hnil]
    exact List.not_mem_nil
  · obtain ⟨e, he⟩ := Option.isSome_iff_exists.mp hplace
    exact h _ (Entries.mem_of_lookup he)

theorem Opens.notMem (hopens : d.Opens p spot) (hd : d.WellFormed) (hup : d.IsUpright) :
    ".." ∉ spot := by
  have hcwd : ".." ∉ d.cwd := hup d.cwd (Option.isSome_of_eq_some hd.2.1)
  rw [hopens.eq_normal]
  refine notMem_foldl_climb ?_
  rw [origin]
  split
  · exact hcwd
  · exact List.not_mem_nil

theorem Change.isUpright (h : Change paths d d') (hd : d.WellFormed) (hup : d.IsUpright) :
    d'.IsUpright := by
  have hput {q : Path} {spot : Location} (hopens : d.Opens q spot) (e : Entry) :
      (d.put spot e).IsUpright := by
    intro place hplace
    rw [find?_put hopens.ne_nil] at hplace
    split at hplace
    · next heq => exact heq ▸ hopens.notMem hd hup
    · exact hup place hplace
  cases h with
  | folder _ _ _ hopens _ => exact hput hopens .folder
  | file _ hopens _ bytes => exact hput hopens (.file bytes)

namespace Changes

theorem grows (h : Changes paths d d') : Grows d d' := by
  induction h with
  | refl => exact (Includes.refl d).grows
  | tail _ hstep ih => exact ih.trans hstep.grows

theorem unlistable (h : Changes paths d d') : d'.unlistable = d.unlistable := by
  induction h with
  | refl => rfl
  | tail _ hstep ih => exact hstep.unlistable.trans ih

theorem wellFormed (h : Changes paths d d') (hd : d.WellFormed) : d'.WellFormed := by
  induction h with
  | refl => exact hd
  | tail _ hstep ih => exact hstep.wellFormed ih

theorem isUpright (h : Changes paths d d') (hd : d.WellFormed) (hup : d.IsUpright) :
    d'.IsUpright := by
  induction h with
  | refl => exact hup
  | tail hsteps hstep ih => exact hstep.isUpright (wellFormed hsteps hd) ih

theorem normal_eq (h : Changes paths d d') (p : Path) : d'.normal p = d.normal p :=
  normal_of_cwd h.grows.cwd p

end Changes

/-! ## Making directories -/

theorem makeFolderAt_inv {target : Except Refusal (Location × Option Entry)}
    {made : Disk × Location} (h : d.makeFolderAt p target = .ok made) :
    ∃ spot, target = .ok (spot, none) ∧ made = (d.put spot .folder, spot) := by
  unfold makeFolderAt at h
  split at h
  · cases h
  · cases h
  · next spot =>
    cases h
    exact ⟨spot, rfl, rfl⟩

theorem makeFolder_inv {made : Disk × Location} (h : d.makeFolder p = .ok made) :
    ∃ spot, made = (d.put spot .folder, spot) ∧ p.segments ≠ [] ∧ d.Opens p spot ∧
      d.find? spot = none := by
  rw [makeFolder] at h
  split at h
  · cases h
  · obtain ⟨spot, htarget, hmade⟩ := makeFolderAt_inv h
    obtain ⟨hopens, hfree⟩ := target_opens htarget (by simp)
    refine ⟨spot, hmade, ?_, hopens, hfree.symm⟩
    intro hnil
    simp [target, hnil] at htarget

theorem toleratePresent_eq_ok {fault : Fault} (h : d.toleratePresent p fault = .ok place) :
    place = d.normal p := by
  unfold toleratePresent at h
  split at h
  · split at h
    · next hfolder =>
      cases h
      exact eq_normal_of_locate (folder?_eq_some_iff.mp hfolder).2.1
    · cases h
    · cases h
  · cases h

/-- What making a directory comes to: all changes are on the way to some paths and, if it goes well,
the directory is at the place of its path. -/
def Makes (paths : List Path) (d : Disk) (p : Path) (made : Disk × Except Fault Location) : Prop :=
  Changes paths d made.1 ∧ ∀ place, made.2 = .ok place → place = d.normal p

theorem makes_madeOrPresent {made : Except Fault (Disk × Location)}
    (hmade : ∀ d' spot, made = .ok (d', spot) → Change paths d d' ∧ spot = d.normal p) :
    Makes paths d p (d.madeOrPresent p made) := by
  cases made with
  | ok m =>
    obtain ⟨hchange, hspot⟩ := hmade _ _ rfl
    exact ⟨.single hchange, fun place hplace => Except.ok.inj hplace ▸ hspot⟩
  | error fault => exact ⟨.refl, fun place => toleratePresent_eq_ok⟩

/-- Making a directory after other changes. -/
theorem Makes.after {made : Disk × Except Fault Location} (h : Changes paths d d')
    (hmade : Makes paths d' p made) : Makes paths d p made :=
  ⟨h.trans hmade.1, fun place hplace => (hmade.2 place hplace).trans (h.normal_eq p)⟩

section

variable (hp : p ∈ paths)
include hp

/-- A directory on the way to a report. -/
theorem change_of_way (hnames : names <+: p.parent.segments) (hne : names ≠ [])
    (hopens : d.Opens ⟨p.anchor, names⟩ spot) (hfree : d.find? spot = none) :
    Change paths d (d.put spot .folder) := by
  refine .folder hp (hnames.trans (List.dropLast_prefix p.segments)) ?_ hopens hfree
  rintro rfl
  have hlength := hnames.length_le
  rw [Path.parent, List.length_dropLast] at hlength
  have := List.length_pos_of_ne_nil hne
  omega

theorem makes_makeFolder (hnames : names <+: p.parent.segments) :
    Makes paths d ⟨p.anchor, names⟩
      (d.madeOrPresent ⟨p.anchor, names⟩ (d.makeFolder ⟨p.anchor, names⟩)) := by
  refine makes_madeOrPresent fun d' spot h => ?_
  obtain ⟨spot, hmade, hne, hopens, hfree⟩ := makeFolder_inv h
  obtain ⟨rfl, rfl⟩ := Prod.mk.inj hmade
  exact ⟨change_of_way hp hnames hne hopens hfree, hopens.eq_normal⟩

theorem makes_makeFolderAt (hnames : names ++ [name] <+: p.parent.segments)
    (hplace : place = d.normal ⟨p.anchor, names⟩) :
    Makes paths d ⟨p.anchor, names ++ [name]⟩ (d.madeOrPresent ⟨p.anchor, names ++ [name]⟩
      (d.makeFolderAt ⟨p.anchor, names ++ [name]⟩ (d.targetIn place name))) := by
  refine makes_madeOrPresent fun d' spot h => ?_
  obtain ⟨spot, htarget, hmade⟩ := makeFolderAt_inv h
  obtain ⟨rfl, rfl⟩ := Prod.mk.inj hmade
  have hparent : place = d.normal (Path.parent ⟨p.anchor, names ++ [name]⟩) := by
    rw [hplace, Path.parent, List.dropLast_concat]
  obtain ⟨hopens, hfree⟩ := targetIn_opens hparent List.getLast?_concat htarget (by simp)
  exact ⟨change_of_way hp hnames (by simp) hopens hfree.symm, hopens.eq_normal⟩

/-- **Directories on the way to a report** are made by changes, and the last of them is at the place
of its path. -/
theorem makes_makeFoldersUp (chain : Nat) (names : List String)
    (hnames : names.reverse <+: p.parent.segments) (d : Disk) :
    Makes paths d ⟨p.anchor, names.reverse⟩ (makeFoldersUp p.anchor chain names d) := by
  induction chain generalizing names with
  | zero => exact ⟨.refl, fun _ h => by cases h⟩
  | succ chain ih =>
    cases names with
    | nil => exact makes_makeFolder hp hnames
    | cons name above =>
      rw [makeFoldersUp]
      split
      · -- the directories above it are made first, and then it is made where they led
        rw [List.reverse_cons] at hnames ⊢
        have habove := ih above ((List.prefix_append _ _).trans hnames)
        split
        · next heq =>
          rw [heq] at habove
          exact ⟨habove.1, fun _ h => by cases h⟩
        · next d' place heq =>
          rw [heq] at habove
          obtain ⟨hchanges, hplace⟩ := habove
          have hplace' := (hplace place rfl).trans (hchanges.normal_eq _).symm
          exact .after hchanges (makes_makeFolderAt hp hnames hplace')
      · exact makes_makeFolder hp hnames

end

/-- **A report is written by changes**, whether or not writing it succeeds. -/
theorem changes_writeReport (hp : p ∈ paths) (d : Disk) (bytes : List UInt8) :
    Changes paths d (d.writeReport p bytes).1 := by
  have hfolders : Changes paths d (d.makeFolders p.parent).1 := by
    refine (makes_makeFoldersUp hp longestChain p.parent.segments.reverse ?_ d).1
    rw [List.reverse_reverse]
  unfold writeReport
  split
  · next heq =>
    rw [heq] at hfolders
    exact hfolders
  · next d' heq =>
    rw [heq] at hfolders
    split
    · next d'' hwrite =>
      refine hfolders.tail ?_
      unfold writeFile at hwrite
      split at hwrite
      · cases hwrite
      · split at hwrite
        · cases hwrite
        · cases hwrite
        · next spot entry hentry htarget =>
          cases hwrite
          obtain ⟨hopens, rfl⟩ := target_opens htarget hentry
          exact .file hp hopens hentry bytes
    · exact hfolders

/-! ## What is touched -/

/-- How one disk comes from another one at one place: nothing has changed there, or there is a file
at one of some paths, or a directory that was missing on the way to one of them. -/
inductive Touched (paths : List Path) (d d' : Disk) (place : Location) : Prop where
  | same (h : d'.find? place = d.find? place)
  | file {p : Path} (mem : p ∈ paths) (eq_normal : place = d.normal p)
      (notFolder : d.find? place ≠ some .folder)
      (isFile : ∃ bytes, d'.find? place = some (.file bytes))
  | folder {p : Path} {names : List String} (mem : p ∈ paths) (isPrefix : names <+: p.segments)
      (proper : names ≠ p.segments) (eq_normal : place = d.normal ⟨p.anchor, names⟩)
      (missing : d.find? place = none) (isFolder : d'.find? place = some .folder)

/-- A disk differs from another one only where reports to some paths may touch it. -/
structure Touches (paths : List Path) (d d' : Disk) : Prop where
  cwd : d'.cwd = d.cwd
  unlistable : d'.unlistable = d.unlistable
  touched : ∀ place, Touched paths d d' place

theorem Change.touched (h : Change paths d d') (place : Location) : Touched paths d d' place := by
  cases h with
  | @folder p names spot hp hprefix hproper hopens hfree =>
    by_cases hplace : place = spot
    · subst hplace
      exact .folder hp hprefix hproper hopens.eq_normal hfree (by simp [find?_put hopens.ne_nil])
    · exact .same (by rw [find?_put hopens.ne_nil, if_neg hplace])
  | @file p spot hp hopens hfree bytes =>
    by_cases hplace : place = spot
    · subst hplace
      exact .file hp hopens.eq_normal hfree ⟨bytes, by simp [find?_put hopens.ne_nil]⟩
    · exact .same (by rw [find?_put hopens.ne_nil, if_neg hplace])

/-- One change more. -/
theorem Touched.tail (h : Touched paths d d' place) (hcwd : d'.cwd = d.cwd)
    (hstep : Touched paths d' d'' place) : Touched paths d d'' place := by
  cases hstep with
  | same heq =>
    cases h with
    | same h => exact .same (heq.trans h)
    | file hp hplace hfree hfile => exact .file hp hplace hfree (heq ▸ hfile)
    | folder hp hprefix hproper hplace hmissing hfolder =>
      exact .folder hp hprefix hproper hplace hmissing (heq.trans hfolder)
  | file hp hplace hfree hfile =>
    refine .file hp (hplace.trans (normal_of_cwd hcwd _)) ?_ hfile
    cases h with
    | same h => exact h ▸ hfree
    | file _ _ hfree' _ => exact hfree'
    | folder _ _ _ _ hmissing _ => simp [hmissing]
  | folder hp hprefix hproper hplace hmissing hfolder =>
    refine .folder hp hprefix hproper (hplace.trans (normal_of_cwd hcwd _)) ?_ hfolder
    cases h with
    | same h => exact h ▸ hmissing
    | file _ _ _ hfile =>
      obtain ⟨bytes, hbytes⟩ := hfile
      rw [hbytes] at hmissing
      cases hmissing
    | folder _ _ _ _ _ hfolder' =>
      rw [hfolder'] at hmissing
      cases hmissing

/-- **What changes touch**: files at the paths, and directories on the way that were missing. -/
theorem Changes.touches (h : Changes paths d d') : Touches paths d d' where
  cwd := h.grows.cwd
  unlistable := h.unlistable
  touched := by
    intro place
    induction h with
    | refl => exact .same rfl
    | tail hsteps hstep ih => exact ih.tail (grows hsteps).cwd (hstep.touched place)

end Relocation.Disk
