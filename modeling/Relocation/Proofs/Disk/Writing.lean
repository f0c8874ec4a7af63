import Relocation.Proofs.Disk.Tree

/-!
# What is written to a disk

A report is written after the directories on the way to it are made. All that was there before
stays, but for the file that the report takes the place of.

* `Disk.Grows` — a disk that has at least the directories and files of another one,
* `Disk.Grows.locate_eq` — paths lead to the same places on it,
* `Disk.readFile_writeReport_self` — **a report is read back** from its path,
* `Disk.readFile_writeReport` — so is any other file, unless its path leads to the same place.
-/

namespace Relocation.Disk

variable {d d' d'' : Disk} {p : Path} {place spot : Location} {name : String}
  {entry : Option Entry}

/-! ## Putting something at a place -/

theorem find?_put (hspot : spot ≠ []) (e : Entry) (place : Location) :
    (d.put spot e).find? place = if place = spot then some e else d.find? place := by
  unfold find? put
  by_cases hplace : place = spot
  · rw [if_pos hplace, hplace, if_neg hspot]
    exact Entries.lookup_put_self spot e d.entries
  · rw [if_neg hplace]
    by_cases hroot : place = []
    · rw [if_pos hroot, if_pos hroot]
    · rw [if_neg hroot, if_neg hroot]
      exact Entries.lookup_put_of_ne e d.entries hplace

/-! ## Disks that grow -/

/-- A disk that has at least the directories and files of another one. What the files hold may
differ. -/
structure Grows (d d' : Disk) : Prop where
  cwd : d'.cwd = d.cwd
  folder : ∀ place, d.find? place = some .folder → d'.find? place = some .folder
  isSome : ∀ place, (d.find? place).isSome → (d'.find? place).isSome

namespace Grows

theorem trans (h : Grows d d') (h' : Grows d' d'') : Grows d d'' :=
  ⟨h'.cwd.trans h.cwd, fun place hplace => h'.folder place (h.folder place hplace),
    fun place hplace => h'.isSome place (h.isSome place hplace)⟩

/-- Something is put where no directory is. -/
theorem put (hspot : spot ≠ []) (hfind : d.find? spot ≠ some .folder) (e : Entry) :
    Grows d (d.put spot e) where
  cwd := rfl
  folder := by
    intro place hplace
    have hne : place ≠ spot := fun heq => hfind (heq ▸ hplace)
    rw [find?_put hspot, if_neg hne, hplace]
  isSome := by
    intro place hplace
    rw [find?_put hspot]
    split
    · rfl
    · exact hplace

theorem follow_eq (h : Grows d d') {start : Location} {names : List String}
    (hfollow : d.follow start names = .ok place) : d'.follow start names = .ok place := by
  induction names generalizing start with
  | nil => exact hfollow
  | cons name rest ih =>
    have hstart := find?_of_follow_cons hfollow
    simp only [follow, hstart, h.folder start hstart] at hfollow ⊢
    split at hfollow
    · next hup =>
      rw [if_pos hup]
      exact ih hfollow
    · next hup =>
      rw [if_neg hup]
      split at hfollow
      · cases hfollow
      · next hshort =>
        rw [if_neg hshort]
        split at hfollow
        · cases hfollow
        · next e hnext =>
          obtain ⟨e', hnext'⟩ := Option.isSome_iff_exists.mp
            (h.isSome _ (Option.isSome_of_eq_some hnext))
          simp only [hnext']
          exact ih hfollow

/-- Paths lead to the same places. -/
theorem locate_eq (h : Grows d d') (hlocate : d.locate p = .ok place) :
    d'.locate p = .ok place := by
  unfold locate origin at hlocate ⊢
  split at hlocate
  · cases hlocate
  · next hshort =>
    rw [if_neg hshort, h.cwd]
    exact h.follow_eq hlocate

end Grows

/-! ## Where things are made -/

theorem follow_append {start : Location} {names names' : List String}
    (h : d.follow start names = .ok place) :
    d.follow start (names ++ names') = d.follow place names' := by
  induction names generalizing start with
  | nil =>
    cases h
    rfl
  | cons name rest ih =>
    have hstart := find?_of_follow_cons h
    rw [List.cons_append]
    simp only [follow, hstart] at h ⊢
    split at h
    · next hup => rw [if_pos hup, ih h]
    · next hup =>
      rw [if_neg hup]
      split at h
      · cases h
      · next hshort =>
        rw [if_neg hshort]
        split at h
        · cases h
        · exact ih h

/-- What may be made of a name in a directory is at the place that the name leads to, once it is
made. -/
theorem targetIn_inv (h : d.targetIn place name = .ok (spot, entry))
    (hentry : entry ≠ some .folder) :
    spot ≠ [] ∧ entry = d.find? spot ∧
      ∀ d', Grows d d' → (d'.find? spot).isSome → d'.follow place [name] = .ok spot := by
  unfold targetIn at h
  split at h
  · cases h
  · cases h
  · next hplace =>
    split at h
    · cases h
      exact absurd rfl hentry
    · next hup =>
      split at h
      · cases h
      · next hshort =>
        cases h
        refine ⟨by simp, rfl, fun d' hgrows hsome => ?_⟩
        obtain ⟨e, he⟩ := Option.isSome_iff_exists.mp hsome
        simp only [follow, hgrows.folder place hplace, if_neg hup, if_neg hshort, he]

theorem target_inv (h : d.target p = .ok (spot, entry)) (hentry : entry ≠ some .folder) :
    spot ≠ [] ∧ entry = d.find? spot ∧
      ∀ d', Grows d d' → (d'.find? spot).isSome → d'.locate p = .ok spot := by
  unfold target at h
  split at h
  · cases h
    exact absurd rfl hentry
  · next name hlast =>
    split at h
    · cases h
    · next hshort =>
      split at h
      · cases h
      · next place hlocate =>
        obtain ⟨hspot, hfind, hfollow⟩ := targetIn_inv h hentry
        refine ⟨hspot, hfind, fun d' hgrows hsome => ?_⟩
        have hparent := hgrows.locate_eq hlocate
        unfold locate at hparent ⊢
        rw [if_neg hshort]
        split at hparent
        · cases hparent
        · have hsegments : p.segments = p.parent.segments ++ [name] :=
            (List.dropLast_append_getLast? name hlast).symm
          rw [hsegments]
          exact (follow_append hparent).trans (hfollow d' hgrows hsome)

/-! ## Making directories -/

/-- A disk that has all that another one has. -/
def Includes (d d' : Disk) : Prop :=
  d'.cwd = d.cwd ∧ ∀ place e, d.find? place = some e → d'.find? place = some e

namespace Includes

theorem refl (d : Disk) : Includes d d :=
  ⟨rfl, fun _ _ h => h⟩

theorem trans (h : Includes d d') (h' : Includes d' d'') : Includes d d'' :=
  ⟨h'.1.trans h.1, fun place e hplace => h'.2 place e (h.2 place e hplace)⟩

theorem grows (h : Includes d d') : Grows d d' where
  cwd := h.1
  folder := fun place hplace => h.2 place .folder hplace
  isSome := by
    intro place hplace
    obtain ⟨e, he⟩ := Option.isSome_iff_exists.mp hplace
    exact Option.isSome_of_eq_some (h.2 place e he)

theorem makeFolderAt {target : Except Refusal (Location × Option Entry)} {made : Disk × Location}
    (h : d.makeFolderAt p target = .ok made)
    (htarget : ∀ spot, target = .ok (spot, none) → spot ≠ [] ∧ d.find? spot = none) :
    Includes d made.1 := by
  unfold Disk.makeFolderAt at h
  split at h
  · cases h
  · cases h
  · next spot =>
    cases h
    obtain ⟨hspot, hfind⟩ := htarget spot rfl
    refine ⟨rfl, fun place e hplace => ?_⟩
    have hne : place ≠ spot := by
      rintro rfl
      rw [hfind] at hplace
      cases hplace
    rw [find?_put hspot, if_neg hne, hplace]

theorem makeFolder {made : Disk × Location} (h : d.makeFolder p = .ok made) :
    Includes d made.1 := by
  unfold Disk.makeFolder at h
  split at h
  · cases h
  · refine makeFolderAt h fun spot htarget => ?_
    obtain ⟨hspot, hfind, -⟩ := target_inv htarget (by simp)
    exact ⟨hspot, hfind.symm⟩

theorem madeOrPresent {made : Except Fault (Disk × Location)}
    (h : ∀ m, made = .ok m → Includes d m.1) : Includes d (d.madeOrPresent p made).1 := by
  cases made with
  | ok m => exact h m rfl
  | error fault => exact refl d

theorem makeFoldersUp (anchor : Anchor) (chain : Nat) (names : List String) (d : Disk) :
    Includes d (Disk.makeFoldersUp anchor chain names d).1 := by
  induction chain generalizing names with
  | zero => exact refl d
  | succ chain ih =>
    cases names with
    | nil => exact madeOrPresent fun m hm => makeFolder hm
    | cons name above =>
      rw [Disk.makeFoldersUp]
      split
      · -- the directories above are made first, and then this one among them
        have habove := ih above
        split
        · next heq =>
          rw [heq] at habove
          exact habove
        · next heq =>
          rw [heq] at habove
          refine habove.trans (madeOrPresent fun m hm => makeFolderAt hm fun spot htarget => ?_)
          obtain ⟨hspot, hfind, -⟩ := targetIn_inv htarget (by simp)
          exact ⟨hspot, hfind.symm⟩
      · exact madeOrPresent fun m hm => makeFolder hm

theorem makeFolders (d : Disk) (p : Path) : Includes d (d.makeFolders p).1 :=
  makeFoldersUp _ _ _ d

end Includes

/-! ## Writing and reading -/

theorem readFile_eq_ok_iff {bytes : List UInt8} :
    d.readFile p = .ok bytes ↔
      hasNull p = false ∧ ∃ place, d.locate p = .ok place ∧ d.find? place = some (.file bytes) := by
  unfold readFile
  cases hasNull p with
  | true => simp
  | false =>
    rw [if_neg (by decide)]
    cases d.locate p with
    | error why => simp
    | ok place =>
      dsimp only
      split
      · next hfind => simp [hfind]
      · next hfind => simp [hfind]
      · next hfind => simp [hfind]

/-- What a report leaves: its directories, and then itself at the place that its path leads to. -/
theorem writeReport_inv {bytes : List UInt8} (h : d.writeReport p bytes = (d'', .ok ())) :
    hasNull p = false ∧ ∃ d' spot, Includes d d' ∧ spot ≠ [] ∧ d'.find? spot ≠ some .folder ∧
      d'' = d'.put spot (.file bytes) ∧ d''.locate p = .ok spot := by
  have hincludes := Includes.makeFolders d p.parent
  unfold writeReport at h
  split at h
  · cases h
  · next d' hfolders =>
    rw [hfolders] at hincludes
    split at h
    · next hwrite =>
      cases h
      unfold writeFile at hwrite
      split at hwrite
      · cases hwrite
      · next hnull =>
        split at hwrite
        · cases hwrite
        · cases hwrite
        · next spot entry hnotFolder htarget =>
          cases hwrite
          obtain ⟨hspot, rfl, hlocate⟩ := target_inv htarget hnotFolder
          refine ⟨Bool.eq_false_iff.mpr hnull, d', spot, hincludes, hspot, hnotFolder, rfl, ?_⟩
          refine hlocate _ (Grows.put hspot hnotFolder _) ?_
          rw [find?_put hspot, if_pos rfl]
          rfl
    · cases h

/-- **A report is read back** from its path. -/
theorem readFile_writeReport_self {bytes : List UInt8}
    (h : d.writeReport p bytes = (d', .ok ())) : d'.readFile p = .ok bytes := by
  obtain ⟨hnull, d₁, spot, -, hspot, -, rfl, hlocate⟩ := writeReport_inv h
  refine readFile_eq_ok_iff.mpr ⟨hnull, spot, hlocate, ?_⟩
  rw [find?_put hspot, if_pos rfl]

/-- **A report leaves all other files**: what was read from a path before is read from it after,
unless the path leads to the same place as that of the report. -/
theorem readFile_writeReport {q : Path} {bytes bytes' : List UInt8}
    (h : d.writeReport p bytes = (d'', .ok ())) (hread : d.readFile q = .ok bytes') :
    d''.readFile q = .ok bytes' ∨ d''.locate q = d''.locate p := by
  obtain ⟨-, d', spot, hincludes, hspot, hfind, rfl, hlocate⟩ := writeReport_inv h
  obtain ⟨hnull, place, hplace, hfile⟩ := readFile_eq_ok_iff.mp hread
  have hplace := (hincludes.grows.trans (Grows.put hspot hfind (.file bytes))).locate_eq hplace
  by_cases heq : place = spot
  · exact .inr (by rw [hplace, hlocate, heq])
  · refine .inl (readFile_eq_ok_iff.mpr ⟨hnull, place, hplace, ?_⟩)
    rw [find?_put hspot, if_neg heq]
    exact hincludes.2 place _ hfile

end Relocation.Disk
