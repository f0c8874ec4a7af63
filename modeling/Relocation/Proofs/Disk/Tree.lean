import Mathlib.Data.List.Induction
import Mathlib.Data.List.Nodup
import Relocation.Disk
import Relocation.Proofs.FileMap

/-!
# What is in a tree

A `Disk` keeps a tree as a list of entries. In a well-formed one every place has one entry, so what
a directory holds can be told from `Disk.find?` alone, and two disks with the same `find?` hold the
same entries in some order.

* `Entries.eq_of_perm` — sorted by distinct keys, entries have one order,
* `Disk.WellFormed.mem_children_iff`, `mem_below_iff` — what is in a directory and what is below it,
* `Disk.WellFormed.find?_of_append` — all that leads to something is a directory,
* `Disk.WellFormed.length_le` — no place is deeper than there are entries,
* `Disk.ChangedAt` — two disks with the same content but for one place.
-/

namespace Relocation

/-- Entries with distinct keys have one order by their keys. -/
theorem Entries.eq_of_perm {κ ν : Type} {le : κ → κ → Prop}
    (hanti : ∀ a b, le a b → le b a → a = b) {l l' : List (κ × ν)} (hperm : l.Perm l')
    (hnodup : (l.map Prod.fst).Nodup) (hl : l.Pairwise fun x y => le x.1 y.1)
    (hl' : l'.Pairwise fun x y => le x.1 y.1) : l = l' := by
  refine hperm.eq_of_pairwise (fun x y hx hy hxy hyx => ?_) hl hl'
  exact List.inj_on_of_nodup_map hnodup hx (hperm.mem_iff.mpr hy) (hanti x.1 y.1 hxy hyx)

namespace Disk

/-! ## Ways from one place to another -/

theorem beyond?_eq_some_iff {place other rest : Location} :
    beyond? place other = some rest ↔ other = place ++ rest := by
  induction place generalizing other with
  | nil => simp [beyond?, eq_comm]
  | cons name place ih =>
    cases other with
    | nil => simp [beyond?]
    | cons name' other =>
      rw [beyond?]
      split
      · next h => simp [ih, h]
      · next h => simp [Ne.symm h]

theorem mem_below {d : Disk} {place names : Location} {entry : Entry} :
    (names, entry) ∈ d.below place ↔ names ≠ [] ∧ (place ++ names, entry) ∈ d.entries := by
  rw [below, List.mem_filterMap]
  constructor
  · rintro ⟨⟨other, entry'⟩, hmem, hsome⟩
    dsimp only at hsome
    split at hsome
    · next name rest h =>
      cases hsome
      rw [beyond?_eq_some_iff] at h
      exact ⟨by simp, h ▸ hmem⟩
    · cases hsome
  · rintro ⟨hne, hmem⟩
    refine ⟨(place ++ names, entry), hmem, ?_⟩
    obtain ⟨name, rest, rfl⟩ := List.exists_cons_of_ne_nil hne
    have h : beyond? place (place ++ name :: rest) = some (name :: rest) :=
      beyond?_eq_some_iff.mpr rfl
    simp only [h]

theorem mem_children {d : Disk} {place : Location} {name : String} {entry : Entry} :
    (name, entry) ∈ d.children place ↔ (place ++ [name], entry) ∈ d.entries := by
  rw [children, List.mem_filterMap]
  constructor
  · rintro ⟨⟨other, entry'⟩, hmem, hsome⟩
    dsimp only at hsome
    split at hsome
    · next name' h =>
      cases hsome
      rw [beyond?_eq_some_iff] at h
      exact h ▸ hmem
    · cases hsome
  · intro hmem
    refine ⟨(place ++ [name], entry), hmem, ?_⟩
    have h : beyond? place (place ++ [name]) = some [name] := beyond?_eq_some_iff.mpr rfl
    simp only [h]

/-! ## Following paths -/

/-- Names lead on from a directory only. -/
theorem find?_of_follow_cons {d : Disk} {start place : Location} {name : String}
    {rest : List String} (h : d.follow start (name :: rest) = .ok place) :
    d.find? start = some .folder := by
  rw [follow] at h
  split at h
  · cases h
  · cases h
  · next hfind => exact hfind

theorem folder?_eq_some_iff {d : Disk} {p : Path} {place : Location} :
    d.folder? p = .ok (some place) ↔
      hasNull p = false ∧ d.locate p = .ok place ∧ d.find? place = some .folder := by
  rw [folder?]
  cases hnull : hasNull p with
  | true => simp
  | false =>
    cases hlocate : d.locate p with
    | ok other =>
      by_cases hfind : d.find? other = some .folder
      · simp only [Bool.false_eq_true, if_false, hfind, if_true, Except.ok.injEq,
          Option.some.injEq, true_and]
        exact ⟨fun h => ⟨h, h ▸ hfind⟩, And.left⟩
      · simp only [Bool.false_eq_true, if_false, hfind, Except.ok.injEq, true_and]
        exact ⟨nofun, fun h => absurd (h.1 ▸ h.2) hfind⟩
    | error why => cases why <;> simp

/-! ## Well-formed trees -/

namespace WellFormed

variable {d : Disk}

/-- What is at a place, by the entries. -/
theorem find?_eq_some_iff (hd : d.WellFormed) {place : Location} {entry : Entry}
    (hplace : place ≠ []) : d.find? place = some entry ↔ (place, entry) ∈ d.entries := by
  rw [find?, if_neg hplace]
  exact ⟨Entries.mem_of_lookup, Entries.lookup_of_mem hd.1⟩

theorem mem_children_iff (hd : d.WellFormed) {place : Location} {name : String} {entry : Entry} :
    (name, entry) ∈ d.children place ↔ d.find? (place ++ [name]) = some entry := by
  rw [mem_children, hd.find?_eq_some_iff (by simp)]

theorem mem_below_iff (hd : d.WellFormed) {place names : Location} {entry : Entry} :
    (names, entry) ∈ d.below place ↔ names ≠ [] ∧ d.find? (place ++ names) = some entry := by
  rw [mem_below]
  refine and_congr_right fun hne => ?_
  rw [hd.find?_eq_some_iff (by simp [hne])]

/-- What is picked from the entries under keys that tell the places has distinct keys. -/
theorem nodup_pick (hd : d.WellFormed) {κ : Type} {pick : Location × Entry → Option (κ × Entry)}
    (place : κ → Location) (hpick : ∀ other picked, pick other = some picked →
      other.1 = place picked.1) : ((d.entries.filterMap pick).map Prod.fst).Nodup := by
  rw [List.Nodup, List.pairwise_map, List.pairwise_filterMap]
  refine (List.pairwise_map.mp hd.1).imp ?_
  intro other other' hne picked h picked' h' heq
  exact hne ((hpick other picked h).trans (heq ▸ (hpick other' picked' h').symm))

/-- What is in a directory has distinct names. -/
theorem nodup_children (hd : d.WellFormed) (place : Location) :
    ((d.children place).map Prod.fst).Nodup := by
  refine hd.nodup_pick (fun name => place ++ [name]) fun other picked h => ?_
  dsimp only at h
  split at h
  · next name hbeyond =>
    cases h
    exact beyond?_eq_some_iff.mp hbeyond
  · cases h

/-- What is below a place has distinct ways to it. -/
theorem nodup_below (hd : d.WellFormed) (place : Location) :
    ((d.below place).map Prod.fst).Nodup := by
  refine hd.nodup_pick (fun names => place ++ names) fun other picked h => ?_
  dsimp only at h
  split at h
  · next name rest hbeyond =>
    cases h
    exact beyond?_eq_some_iff.mp hbeyond
  · cases h

/-- The place above one that holds something holds a directory. -/
theorem find?_dropLast (hd : d.WellFormed) {place : Location} {entry : Entry}
    (h : d.find? place = some entry) (hplace : place ≠ []) :
    d.find? place.dropLast = some .folder :=
  (hd.2.2 (place, entry) ((hd.find?_eq_some_iff hplace).mp h)).2

/-- All that leads to something is a directory. -/
theorem find?_of_append (hd : d.WellFormed) {place rest : Location} {entry : Entry}
    (h : d.find? (place ++ rest) = some entry) (hrest : rest ≠ []) :
    d.find? place = some .folder := by
  induction rest using List.reverseRecOn generalizing entry with
  | nil => exact absurd rfl hrest
  | append_singleton rest name ih =>
    have hup := hd.find?_dropLast h (by simp)
    rw [← List.append_assoc, List.dropLast_concat] at hup
    by_cases hnil : rest = []
    · rwa [hnil, List.append_nil] at hup
    · exact ih hup hnil

/-- No place is deeper than there are entries. -/
theorem length_le (hd : d.WellFormed) {place : Location} {entry : Entry}
    (h : d.find? place = some entry) : place.length ≤ d.entries.length := by
  -- the places on the way are all different, and each has an entry
  have hmem : ∀ n ∈ List.range place.length, place.take (n + 1) ∈ d.entries.map Prod.fst := by
    intro n hn
    have hn := List.mem_range.mp hn
    have hne : place.take (n + 1) ≠ [] := by
      simp [List.take_eq_nil_iff, List.ne_nil_of_length_pos (Nat.zero_lt_of_lt hn)]
    by_cases hrest : place.drop (n + 1) = []
    · have htake : place.take (n + 1) = place :=
        List.take_of_length_le (List.drop_eq_nil_iff.mp hrest)
      rw [htake]
      exact List.mem_map.mpr ⟨_, (hd.find?_eq_some_iff (htake ▸ hne)).mp h, rfl⟩
    · rw [← List.take_append_drop (n + 1) place] at h
      exact List.mem_map.mpr
        ⟨_, (hd.find?_eq_some_iff hne).mp (hd.find?_of_append h hrest), rfl⟩
  have hnodup : ((List.range place.length).map fun n => place.take (n + 1)).Nodup := by
    refine List.Nodup.map_on (fun n hn m hm heq => ?_) List.nodup_range
    have hlength := congrArg List.length heq
    simp only [List.length_take] at hlength
    have := List.mem_range.mp hn
    have := List.mem_range.mp hm
    omega
  have hsub : (List.range place.length).map (fun n => place.take (n + 1)) ⊆
      d.entries.map Prod.fst := by
    intro other hother
    obtain ⟨n, hn, rfl⟩ := List.mem_map.mp hother
    exact hmem n hn
  simpa using hnodup.length_le_of_subset hsub

end WellFormed

/-! ## One place apart -/

/-- Two disks with the same content but for one place. -/
structure ChangedAt (spot : Location) (d d' : Disk) : Prop where
  cwd : d'.cwd = d.cwd
  unlistable : d'.unlistable = d.unlistable
  find? : ∀ place, place ≠ spot → d'.find? place = d.find? place

namespace ChangedAt

variable {spot : Location} {d d' : Disk}

theorem symm (h : ChangedAt spot d d') : ChangedAt spot d' d :=
  ⟨h.cwd.symm, h.unlistable.symm, fun place hplace => (h.find? place hplace).symm⟩

/-- A way that does not end at a place that is no directory does not lead over it. -/
theorem follow_eq (h : ChangedAt spot d d') (hspot : d.find? spot ≠ some .folder)
    {start place : Location} {names : List String} (hplace : place ≠ spot)
    (hfollow : d.follow start names = .ok place) : d'.follow start names = .ok place := by
  induction names generalizing start with
  | nil => exact hfollow
  | cons name rest ih =>
    have hfind := find?_of_follow_cons hfollow
    have hstart : start ≠ spot := fun heq => hspot (heq ▸ hfind)
    rw [follow] at hfollow ⊢
    rw [h.find? start hstart, hfind]
    simp only [hfind] at hfollow ⊢
    by_cases hup : name = ".."
    · rw [if_pos hup] at hfollow ⊢
      exact ih hfollow
    · rw [if_neg hup] at hfollow ⊢
      split at hfollow
      · cases hfollow
      · next hlong =>
        rw [if_neg hlong]
        cases hnext : d.find? (start ++ [name]) with
        | none => simp [hnext] at hfollow
        | some entry =>
          simp only [hnext] at hfollow
          -- the place reached next is not the changed one, for the way would end there
          have hne : start ++ [name] ≠ spot := by
            intro heq
            cases rest with
            | nil =>
              cases hfollow
              exact hplace heq
            | cons name' rest' => exact hspot (heq ▸ find?_of_follow_cons hfollow)
          rw [h.find? _ hne, hnext]
          exact ih hfollow

/-- The directory that a path leads to is the same. -/
theorem folder?_eq (h : ChangedAt spot d d') (hspot : d.find? spot ≠ some .folder) {p : Path}
    {place : Location} (hfolder : d.folder? p = .ok (some place)) :
    d'.folder? p = .ok (some place) := by
  obtain ⟨hnull, hlocate, hfind⟩ := folder?_eq_some_iff.mp hfolder
  have hplace : place ≠ spot := fun heq => hspot (heq ▸ hfind)
  refine folder?_eq_some_iff.mpr ⟨hnull, ?_, (h.find? place hplace).trans hfind⟩
  rw [locate] at hlocate ⊢
  split at hlocate
  · cases hlocate
  · next hlong =>
    rw [if_neg hlong]
    have horigin : d'.origin p = d.origin p := by
      rw [origin, origin, h.cwd]
    rw [horigin]
    exact h.follow_eq hspot hplace hlocate

/-- Every other directory holds the same. -/
theorem children_perm (h : ChangedAt spot d d') (hd : d.WellFormed) (hd' : d'.WellFormed)
    {place : Location} (hplace : place ≠ spot.dropLast) :
    (d'.children place).Perm (d.children place) := by
  refine (List.perm_ext_iff_of_nodup (hd'.nodup_children place).of_map
    (hd.nodup_children place).of_map).mpr ?_
  rintro ⟨name, entry⟩
  rw [hd'.mem_children_iff, hd.mem_children_iff, h.find? _ ?_]
  rintro rfl
  simp at hplace

/-- All else below a place is the same. -/
theorem below_perm {place way : Location} (h : ChangedAt (place ++ way) d d')
    (hd : d.WellFormed) (hd' : d'.WellFormed) :
    ((d'.below place).filter fun entry => entry.1 != way).Perm
      ((d.below place).filter fun entry => entry.1 != way) := by
  refine (List.perm_ext_iff_of_nodup ((hd'.nodup_below place).of_map.filter _)
    ((hd.nodup_below place).of_map.filter _)).mpr ?_
  rintro ⟨names, entry⟩
  rw [List.mem_filter, List.mem_filter, hd'.mem_below_iff, hd.mem_below_iff]
  refine and_congr_left fun hway => and_congr_right fun _ => ?_
  rw [h.find? _ ?_]
  intro heq
  simp [List.append_cancel_left heq] at hway

end ChangedAt

end Disk

end Relocation
