import Relocation.Input
import Relocation.Proofs.Outcome

/-!
# Faults of a disk

Most faults are refusals of the system. Two are not: a null character in a path, and a path with
more missing directories than are made at once. Operations meet these two only on paths that are
made for it:

* `Disk.readText_eq_null_iff` — reading a path with a null character,
* `Disk.escapes_of_writeReport` — writing to such a path, or very far down,
* `Disk.tooLong_of_folder?` — asking about a path or a name that is too long.
-/

namespace Relocation

/-- Whether a fault is not a refusal of the system. -/
def Fault.escapes : Fault → Bool
  | refused _ _ => false
  | _ => true

namespace Disk

variable {d : Disk} {p : Path} {fault : Fault}

/-! ## Reading -/

theorem readFile_eq_null_iff : d.readFile p = .error .nullCharacter ↔ hasNull p = true := by
  unfold readFile
  cases hasNull p with
  | true => simp
  | false =>
    rw [if_neg (by decide)]
    cases d.locate p with
    | error why => simp
    | ok place =>
      dsimp only
      split <;> simp

theorem readText_eq_null_iff :
    d.readText p = .error (.disk .nullCharacter) ↔ hasNull p = true := by
  rw [← readFile_eq_null_iff (d := d), readText, Outcome.bind_eq_error_iff]
  simp only [Outcome.mapError_eq_error_iff, reduceCtorEq, and_false, exists_false, or_false,
    ReadFault.disk.injEq, exists_eq_right']

/-- A path or a name of it is longer than the system allows. -/
def TooLong (p : Path) : Prop :=
  longestPath < p.text.utf8ByteSize ∨ ∃ name ∈ p.segments, longestName < name.utf8ByteSize

/-- Following names ends in one of three refusals, one of which is for a name that is too long. -/
theorem refusal_of_follow {start : Location} {names : List String} {why : Refusal}
    (h : d.follow start names = .error why) :
    why = .missing ∨ why = .notFolder ∨
      why = .nameTooLong ∧ ∃ name ∈ names, longestName < name.utf8ByteSize := by
  induction names generalizing start with
  | nil => cases h
  | cons name rest ih =>
    have hlater : ∀ {start}, d.follow start rest = .error why →
        why = .missing ∨ why = .notFolder ∨
          why = .nameTooLong ∧ ∃ name' ∈ name :: rest, longestName < name'.utf8ByteSize := by
      intro start h
      refine (ih h).imp_right (Or.imp_right ?_)
      rintro ⟨hwhy, name', hmem, hlong⟩
      exact ⟨hwhy, name', List.mem_cons_of_mem _ hmem, hlong⟩
    rw [follow] at h
    split at h
    · cases h
      exact .inl rfl
    · cases h
      exact .inr (.inl rfl)
    · split at h
      · exact hlater h
      · split at h
        · next hlong =>
          cases h
          exact .inr (.inr ⟨rfl, name, List.mem_cons_self, hlong⟩)
        · split at h
          · cases h
            exact .inl rfl
          · exact hlater h

theorem refusal_of_locate {why : Refusal} (h : d.locate p = .error why) :
    why = .missing ∨ why = .notFolder ∨ why = .nameTooLong ∧ TooLong p := by
  unfold locate at h
  split at h
  · next hlong =>
    cases h
    exact .inr (.inr ⟨rfl, .inl hlong⟩)
  · exact (refusal_of_follow h).imp_right (Or.imp_right (And.imp_right .inr))

/-- Whether there is a directory can be asked of every path but one that is too long. -/
theorem tooLong_of_folder? (h : d.folder? p = .error fault) :
    TooLong p ∧ fault.escapes = false := by
  unfold folder? at h
  split at h
  · cases h
  · split at h
    · cases h
    · cases h
    · cases h
    · next why hmissing hnotFolder hlocate =>
      cases h
      obtain rfl | rfl | ⟨-, hlong⟩ := refusal_of_locate hlocate
      · exact absurd rfl hmissing
      · exact absurd rfl hnotFolder
      · exact ⟨hlong, rfl⟩

/-! ## Writing -/

theorem fault_of_makeFolderAt {target : Except Refusal (Location × Option Entry)}
    (h : d.makeFolderAt p target = .error fault) : fault.escapes = false := by
  unfold makeFolderAt at h
  split at h
  · cases h
    rfl
  · cases h
    rfl
  · cases h

theorem fault_of_makeFolder (h : d.makeFolder p = .error fault) (hescapes : fault.escapes = true) :
    hasNull p = true := by
  unfold makeFolder at h
  split at h
  · next hnull => exact hnull
  · rw [fault_of_makeFolderAt h] at hescapes
    cases hescapes

/-- A directory that is already there is accepted, and no fault that escapes comes of asking. -/
theorem fault_of_madeOrPresent {made : Except Fault (Disk × Location)}
    (h : (d.madeOrPresent p made).2 = .error fault) (hescapes : fault.escapes = true) :
    made = .error fault := by
  cases made with
  | ok made => cases h
  | error fault' =>
    change d.toleratePresent p fault' = .error fault at h
    unfold toleratePresent at h
    split at h
    · split at h
      · cases h
      · cases h
        rfl
      · next hfolder =>
        cases h
        rw [(tooLong_of_folder? hfolder).2] at hescapes
        cases hescapes
    · cases h
      rfl

/-- Making directories up to a limit fails, other than by a refusal, on a null character or beyond
the limit only. -/
theorem fault_of_makeFoldersUp {anchor : Anchor} {chain : Nat} {names : List String}
    (h : (makeFoldersUp anchor chain names d).2 = .error fault) (hescapes : fault.escapes = true) :
    hasNull ⟨anchor, names.reverse⟩ = true ∨ chain ≤ names.length := by
  -- every directory that is missing takes one off the chain and one off the names
  induction chain generalizing names with
  | zero => exact .inr (Nat.zero_le _)
  | succ chain ih =>
    cases names with
    | nil => exact .inl (fault_of_makeFolder (fault_of_madeOrPresent h hescapes) hescapes)
    | cons name above =>
      rw [makeFoldersUp] at h
      split at h
      · split at h
        · next habove =>
          cases h
          refine (ih (congrArg Prod.snd habove)).imp (fun hnull => ?_) Nat.succ_le_succ
          simp only [hasNull, List.reverse_cons, List.any_append, Bool.or_eq_true]
          exact .inl hnull
        · rw [fault_of_makeFolderAt (fault_of_madeOrPresent h hescapes)] at hescapes
          cases hescapes
      · exact .inl (fault_of_makeFolder (fault_of_madeOrPresent h hescapes) hescapes)

theorem fault_of_writeFile {bytes : List UInt8} (h : d.writeFile p bytes = .error fault)
    (hescapes : fault.escapes = true) : hasNull p = true := by
  unfold writeFile at h
  split at h
  · next hnull => exact hnull
  · split at h
    · cases h
      cases hescapes
    · cases h
      cases hescapes
    · cases h

theorem fault_of_makeFolders (h : (d.makeFolders p).2 = .error fault)
    (hescapes : fault.escapes = true) :
    hasNull p = true ∨ longestChain ≤ p.segments.length := by
  have hup : (makeFoldersUp p.anchor longestChain p.segments.reverse d).2 = .error fault := by
    change Except.map _ (makeFoldersUp p.anchor longestChain p.segments.reverse d).2 = _ at h
    revert h
    cases (makeFoldersUp p.anchor longestChain p.segments.reverse d).2 with
    | ok place => exact nofun
    | error fault' =>
      rintro ⟨⟩
      rfl
  simpa using fault_of_makeFoldersUp hup hescapes

theorem hasNull_of_parent (h : hasNull p.parent = true) : hasNull p = true := by
  obtain ⟨name, hmem, hname⟩ := List.any_eq_true.mp h
  exact List.any_eq_true.mpr ⟨name, List.dropLast_subset _ hmem, hname⟩

/-- **A report is written or refused**, unless its path has a null character or more names than
directories are made at once. -/
theorem escapes_of_writeReport {bytes : List UInt8} (h : (d.writeReport p bytes).2 = .error fault)
    (hescapes : fault.escapes = true) :
    hasNull p = true ∨ longestChain < p.segments.length := by
  unfold writeReport at h
  split at h
  · next hfolders =>
    cases h
    refine (fault_of_makeFolders (congrArg Prod.snd hfolders) hescapes).imp hasNull_of_parent ?_
    intro hlength
    have hparent : p.parent.segments.length = p.segments.length - 1 := List.length_dropLast
    have hchain : 0 < longestChain := by decide
    omega
  · split at h
    · cases h
    · next hwrite =>
      cases h
      exact .inl (fault_of_writeFile hwrite hescapes)

end Disk

end Relocation
