import Relocation.Proofs.Discovery.Survey

/-!
# Where discovery stops

Discovery fails at a directory that may not be listed. Of several such directories it is the first
one in the order of the walk, among those that the walk asks for at all: what is below a directory
that is skipped, or below one that may not be listed itself, is never asked for.

* `Walk.levels_eq_error_iff` — **a run that fails**, told by its levels,
* `Walk.Stops` — the walk as a queue of directories that comes to one that may not be listed,
* `IsAskedFor`, `IsBarrier` — the directories that the walk asks for, and the first one of them that
  may not be listed,
* `Walk.isBarrier_iff` — where the barrier is among the levels,
* `discovery_stops` — **where discovery stops**, what it has listed until then, and that nothing
  else about the directories that may not be listed matters.
-/

namespace Relocation

/-- The error for a directory that may not be listed. -/
def InputError.denied (p : Path) : InputError :=
  ⟨p, (Fault.refused .denied p).message⟩

namespace Disk

variable (d : Disk) (denied : List Path)

theorem follow_unlistable (start : Location) (names : List String) :
    follow { d with unlistable := denied } start names = d.follow start names := by
  induction names generalizing start with
  | nil => rfl
  | cons name rest ih =>
    have hfind (place : Location) :
        find? { d with unlistable := denied } place = d.find? place := rfl
    simp only [follow, hfind, ih]

/-- Where a path leads does not depend on which directories may be listed. -/
theorem folder?_unlistable (p : Path) :
    folder? { d with unlistable := denied } p = d.folder? p := by
  rw [folder?, folder?, locate, locate, follow_unlistable]
  rfl

end Disk

/-! ## Levels that fail -/

namespace Walk

section

variable {d : Disk} {ignored : List Char → Bool} {accepted : List String} {root : Location}
  {path : Path}

/-- The first directory of a level that may not be listed comes after directories that may. -/
theorem unlistable?_eq_some_iff {places : List Location} {p : Path} :
    unlistable? d path places = some p ↔ ∃ before names after,
      places = before ++ names :: after ∧ p = path.join names ∧ path.join names ∈ d.unlistable ∧
        ∀ q ∈ before, path.join q ∉ d.unlistable := by
  rw [unlistable?, List.find?_map, Option.map_eq_some_iff]
  simp only [List.find?_eq_some_iff_append, Function.comp_apply, List.contains_iff_mem]
  constructor
  · rintro ⟨names, ⟨hdenied, before, after, rfl, hbefore⟩, rfl⟩
    exact ⟨before, names, after, rfl, rfl, hdenied, by simpa using hbefore⟩
  · rintro ⟨before, names, after, rfl, rfl, hdenied, hbefore⟩
    exact ⟨names, ⟨hdenied, before, after, rfl, by simpa using hbefore⟩, rfl⟩

/-- **A step of the walk that fails.** A directory of the level may not be listed, or the walk fails
further down. -/
theorem levels_succ_eq_error_iff {rounds : Nat} {level : List Location} {e : InputError} :
    levels d ignored accepted path root (rounds + 1) level = .error e ↔
      (∃ p, unlistable? d path level = some p ∧ e = .denied p) ∨
        unlistable? d path level = none ∧ levels d ignored accepted path root rounds
          (withFate .entered (level.flatMap (visit d ignored accepted root))) = .error e := by
  rw [levels]
  cases unlistable? d path level with
  | some p => simp [InputError.denied, eq_comm]
  | none =>
    cases level with
    | nil => simp [withFate, levels_nil]
    | cons names rest =>
      simp [Outcome.bind_eq_error_iff, pure, Except.pure]

/-- **A run of the walk that fails**, told by all its levels. Some level holds a directory that may
not be listed, and the levels above it do not. -/
theorem levels_eq_error_iff {rounds depth : Nat} {e : InputError} :
    levels d ignored accepted path root rounds (level d ignored accepted root depth) = .error e ↔
      ∃ n < rounds,
        (∀ k ∈ List.range' depth n, unlistable? d path (level d ignored accepted root k) = none) ∧
        ∃ p, unlistable? d path (level d ignored accepted root (depth + n)) = some p ∧
          e = .denied p := by
  induction rounds generalizing depth with
  | zero => simp [levels]
  | succ rounds ih =>
    rw [levels_succ_eq_error_iff]
    change _ ∨ _ ∧ levels d ignored accepted path root rounds
      (level d ignored accepted root (depth + 1)) = .error e ↔ _
    rw [ih]
    constructor
    · rintro (⟨p, hp, rfl⟩ | ⟨hnone, n, hn, hlisted, p, hp, rfl⟩)
      · exact ⟨0, Nat.succ_pos rounds, by simp, p, hp, rfl⟩
      · refine ⟨n + 1, Nat.succ_lt_succ hn, ?_, p, ?_, rfl⟩
        · rw [List.range'_succ, List.forall_mem_cons]
          exact ⟨hnone, hlisted⟩
        · rwa [Nat.add_assoc, Nat.add_comm 1] at hp
    · rintro ⟨n, hn, hlisted, p, hp, rfl⟩
      cases n with
      | zero => exact .inl ⟨p, hp, rfl⟩
      | succ n =>
        rw [List.range'_succ, List.forall_mem_cons] at hlisted
        refine .inr ⟨hlisted.1, n, Nat.lt_of_succ_lt_succ hn, hlisted.2, p, ?_, rfl⟩
        rwa [Nat.add_assoc, Nat.add_comm 1]

theorem unlistable?_congr {denied : List Path} {places : List Location}
    (h : ∀ names ∈ places, (path.join names ∈ denied ↔ path.join names ∈ d.unlistable)) :
    unlistable? { d with unlistable := denied } path places = unlistable? d path places := by
  induction places with
  | nil => rfl
  | cons names places ih =>
    rw [List.forall_mem_cons] at h
    have hsame : denied.contains (path.join names) = d.unlistable.contains (path.join names) := by
      rw [Bool.eq_iff_iff, List.contains_iff_mem, List.contains_iff_mem]
      exact h.1
    have hrest := ih h.2
    simp only [unlistable?] at hrest ⊢
    rw [List.map_cons, List.find?_cons, List.find?_cons, hsame, hrest]

/-- What may be listed matters to a walk at the directories of its levels only. -/
theorem levels_congr {denied : List Path} {rounds depth : Nat}
    (h : ∀ k ∈ List.range' depth rounds, ∀ names ∈ level d ignored accepted root k,
      (path.join names ∈ denied ↔ path.join names ∈ d.unlistable)) :
    levels { d with unlistable := denied } ignored accepted path root rounds
        (level d ignored accepted root depth) =
      levels d ignored accepted path root rounds (level d ignored accepted root depth) := by
  induction rounds generalizing depth with
  | zero => rfl
  | succ rounds ih =>
    rw [List.range'_succ, List.forall_mem_cons] at h
    have hdeeper := ih h.2
    have hvisit : visit { d with unlistable := denied } ignored accepted root =
        visit d ignored accepted root := rfl
    rw [level_succ, entriesAt] at hdeeper
    simp only [levels, unlistable?_congr h.1, hvisit, hdeeper]

/-! ## A queue that stops -/

variable (d ignored accepted root path) in
/-- The walk as a queue of directories that comes to one that may not be listed. `listed` are the
directories that are listed before. -/
inductive Stops : (queue listed : List Location) → (stop : Location) → Prop where
  | here {names : Location} {rest : List Location} (denied : path.join names ∈ d.unlistable) :
      Stops (names :: rest) [] names
  | cons {names : Location} {rest listed : List Location} {stop : Location}
      (listable : path.join names ∉ d.unlistable)
      (stops :
        Stops (rest ++ withFate .entered (visit d ignored accepted root names)) listed stop) :
      Stops (names :: rest) (names :: listed) stop

/-- The directories at the start of a queue are listed one after another, while the directories in
them gather at its end. -/
theorem Stops.append {start rest listed : List Location} {stop : Location}
    (hlist : ∀ names ∈ start, path.join names ∉ d.unlistable)
    (h : Stops d ignored accepted root path
      (rest ++ withFate .entered (start.flatMap (visit d ignored accepted root))) listed stop) :
    Stops d ignored accepted root path (start ++ rest) (start ++ listed) stop := by
  induction start generalizing rest with
  | nil => simpa [withFate] using h
  | cons names start ih =>
    rw [List.forall_mem_cons] at hlist
    rw [List.flatMap_cons, withFate_append, ← List.append_assoc] at h
    have hrest := ih hlist.2 h
    rw [← List.append_assoc] at hrest
    exact .cons hlist.1 hrest

/-- A walk level by level that comes to a directory that may not be listed is a queue that stops. By
induction on the number of levels above. -/
theorem stops_of_level {depth n : Nat} {before after : List Location} {stop : Location}
    (habove : ∀ k ∈ List.range' depth n, ∀ names ∈ level d ignored accepted root k,
      path.join names ∉ d.unlistable)
    (hlevel : level d ignored accepted root (depth + n) = before ++ stop :: after)
    (hbefore : ∀ names ∈ before, path.join names ∉ d.unlistable)
    (hstop : path.join stop ∈ d.unlistable) :
    Stops d ignored accepted root path (level d ignored accepted root depth)
      ((List.range' depth n).flatMap (level d ignored accepted root) ++ before) stop := by
  induction n generalizing depth with
  | zero =>
    rw [Nat.add_zero] at hlevel
    rw [hlevel]
    have hstops :
        Stops d ignored accepted root path (before ++ stop :: after) (before ++ []) stop :=
      .append hbefore (.here hstop)
    simpa using hstops
  | succ n ih =>
    rw [List.range'_succ, List.forall_mem_cons] at habove
    rw [List.range'_succ, List.flatMap_cons, List.append_assoc]
    have hdeeper := ih habove.2 (by rwa [Nat.add_assoc, Nat.add_comm 1])
    rw [level_succ] at hdeeper
    have hstops :
        Stops d ignored accepted root path (level d ignored accepted root depth ++ []) _ stop :=
      .append habove.1 hdeeper
    rwa [List.append_nil] at hstops

end

end Walk

/-! ## The barrier -/

section

variable (d : Disk) (ignored : List Char → Bool) (root : Path) (place : Location)

/-- A directory that discovery asks for: discovery goes into it, and all directories above it may be
listed. -/
def IsAskedFor (dir : Location) : Prop :=
  IsVisited d ignored place dir ∧
    ∀ above, above <+: dir → above ≠ dir → root.join above ∉ d.unlistable

/-- The first directory that discovery asks for and that may not be listed. -/
structure IsBarrier (dir : Location) : Prop where
  asked : IsAskedFor d ignored root place dir
  denied : root.join dir ∈ d.unlistable
  first : ∀ dir', IsAskedFor d ignored root place dir' → root.join dir' ∈ d.unlistable →
    dir' ≠ dir → Location.Earlier dir dir'

end

section

variable {d : Disk} {ignored : List Char → Bool} {root : Path} {place : Location}

theorem IsVisited.of_prefix (hd : d.WellFormed) {dir above : Location}
    (h : IsVisited d ignored place dir) (habove : above <+: dir) :
    IsVisited d ignored place above := by
  refine ⟨?_, fun names hnames => h.2 names (hnames.trans habove)⟩
  obtain ⟨rest, rfl⟩ := habove
  by_cases hrest : rest = []
  · simpa [hrest] using h.1
  · have hfind := h.1
    rw [← List.append_assoc] at hfind
    exact hd.find?_of_append hfind hrest

/-- On the way to a directory that may not be listed, discovery asks for one that may not be listed.
-/
theorem IsVisited.exists_isAskedFor (hd : d.WellFormed) {dir : Location}
    (h : IsVisited d ignored place dir)
    (hdenied : ∃ above, above <+: dir ∧ root.join above ∈ d.unlistable) :
    ∃ above, above <+: dir ∧ IsAskedFor d ignored root place above ∧
      root.join above ∈ d.unlistable := by
  induction dir using List.reverseRecOn with
  | nil =>
    obtain ⟨above, habove, hdenied⟩ := hdenied
    obtain rfl := List.prefix_nil.mp habove
    exact ⟨[], habove, ⟨h, fun q hq hne => absurd (List.prefix_nil.mp hq) hne⟩, hdenied⟩
  | append_singleton dir name ih =>
    by_cases hup : ∃ above, above <+: dir ∧ root.join above ∈ d.unlistable
    · obtain ⟨above, habove, hasked, hdenied⟩ := ih (h.of_prefix hd (List.prefix_append _ _)) hup
      exact ⟨above, habove.trans (List.prefix_append _ _), hasked, hdenied⟩
    · obtain ⟨above, habove, hdenied⟩ := hdenied
      have hlist : ∀ q, q <+: dir → root.join q ∉ d.unlistable := fun q hq hmem => hup ⟨q, hq, hmem⟩
      obtain rfl :=
        (List.prefix_concat_iff.mp habove).resolve_right fun hq => hlist above hq hdenied
      refine ⟨_, habove, ⟨h, fun q hq hne => ?_⟩, hdenied⟩
      exact hlist q ((List.prefix_concat_iff.mp hq).resolve_left hne)

/-- Nothing that comes before the barrier is closed, whether it is asked for or not. -/
theorem IsBarrier.listable_of_earlier (hd : d.WellFormed) {dir q : Location}
    (h : IsBarrier d ignored root place dir) (hq : IsVisited d ignored place q)
    (hearlier : Location.Earlier q dir) : root.join q ∉ d.unlistable := by
  intro hdenied
  obtain ⟨above, habove, hasked, habove'⟩ := hq.exists_isAskedFor hd ⟨q, List.prefix_rfl, hdenied⟩
  have hle : Location.Earlier above dir := by
    by_cases heq : above = q
    · rwa [heq]
    · have hlt : above.length < q.length :=
        Nat.lt_of_le_of_ne habove.length_le fun hlength => heq (habove.eq_of_length hlength)
      obtain hshort | ⟨hsame, -⟩ := hearlier
      · exact .inl (Nat.lt_trans hlt hshort)
      · exact .inl (hsame ▸ hlt)
  exact hle.asymm (h.first above hasked habove' hle.ne)

end

namespace Walk

variable {d : Disk} {ignored : List Char → Bool} {accepted : List String} {root : Path}
  {place : Location}

section

variable (accepted) (hd : d.WellFormed) (hplace : d.find? place = some .folder)
include hd hplace

theorem mem_level_iff_isVisited {depth : Nat} {names : Location} :
    names ∈ level d ignored accepted place depth ↔
      names.length = depth ∧ IsVisited d ignored place names := by
  rw [mem_level_iff hd, isVisited_iff hd hplace]

/-- **Where the barrier is.** It may not be listed, and it comes after directories of its level that
may, and after levels that hold no other ones. -/
theorem isBarrier_iff {dir : Location} : IsBarrier d ignored root place dir ↔
    root.join dir ∈ d.unlistable ∧ (∃ before after,
      level d ignored accepted place dir.length = before ++ dir :: after ∧
        ∀ q ∈ before, root.join q ∉ d.unlistable) ∧
      ∀ k < dir.length, ∀ q ∈ level d ignored accepted place k, root.join q ∉ d.unlistable := by
  have hsorted : (level d ignored accepted place dir.length).Pairwise (· < ·) :=
    pairwise_level hd dir.length
  constructor
  · intro h
    have hmem := (mem_level_iff_isVisited accepted hd hplace).mpr ⟨rfl, h.asked.1⟩
    obtain ⟨before, after, hlevel⟩ := List.append_of_mem hmem
    refine ⟨h.denied, ⟨before, after, hlevel, fun q hq => ?_⟩, fun k hk q hq => ?_⟩
    · have hq' : q ∈ level d ignored accepted place dir.length := by
        rw [hlevel]
        exact List.mem_append_left _ hq
      obtain ⟨hlength, hvisited⟩ := (mem_level_iff_isVisited accepted hd hplace).mp hq'
      rw [hlevel] at hsorted
      have hlt := (List.pairwise_append.mp hsorted).2.2 q hq dir List.mem_cons_self
      exact h.listable_of_earlier hd hvisited (.inr ⟨hlength, hlt⟩)
    · obtain ⟨hlength, hvisited⟩ := (mem_level_iff_isVisited accepted hd hplace).mp hq
      exact h.listable_of_earlier hd hvisited (.inl (hlength ▸ hk))
  · rintro ⟨hdenied, ⟨before, after, hlevel, hbefore⟩, habove⟩
    have hmem : dir ∈ level d ignored accepted place dir.length := by
      rw [hlevel]
      simp
    have hvisited := ((mem_level_iff_isVisited accepted hd hplace).mp hmem).2
    refine ⟨⟨hvisited, fun above hbelow hne => ?_⟩, hdenied, fun dir' hasked hdenied' hne => ?_⟩
    · have hlt : above.length < dir.length :=
        Nat.lt_of_le_of_ne hbelow.length_le fun hlength => hne (hbelow.eq_of_length hlength)
      exact habove _ hlt above
        ((mem_level_iff_isVisited accepted hd hplace).mpr ⟨rfl, hvisited.of_prefix hd hbelow⟩)
    · have hmem' := (mem_level_iff_isVisited accepted hd hplace).mpr ⟨rfl, hasked.1⟩
      rcases Nat.lt_trichotomy dir.length dir'.length with hlt | heq | hgt
      · exact .inl hlt
      · rw [← heq, hlevel] at hmem'
        rw [hlevel] at hsorted
        refine .inr ⟨heq, ?_⟩
        rcases List.mem_append.mp hmem' with hq | hq
        · exact absurd hdenied' (hbefore dir' hq)
        · have hafter := (List.mem_cons.mp hq).resolve_left hne
          exact (List.pairwise_cons.mp (List.pairwise_append.mp hsorted).2.1).1 dir' hafter
      · exact absurd hdenied' (habove _ hgt dir' hmem')

/-- A walk that goes deep enough fails at the barrier, if there is one. -/
theorem levels_root_eq_error_iff {rounds : Nat} (hrounds : d.entries.length < rounds)
    {e : InputError} :
    levels d ignored accepted root place rounds [[]] = .error e ↔
      ∃ dir, IsBarrier d ignored root place dir ∧ e = .denied (root.join dir) := by
  change
    levels d ignored accepted root place rounds (level d ignored accepted place 0) = .error e ↔ _
  rw [levels_eq_error_iff]
  simp only [isBarrier_iff accepted hd hplace, unlistable?_eq_none_iff,
    unlistable?_eq_some_iff, List.mem_range'_1, Nat.zero_le, Nat.zero_add, true_and]
  constructor
  · rintro ⟨n, -, habove, -, ⟨before, dir, after, hlevel, rfl, hdenied, hbefore⟩, rfl⟩
    obtain rfl : dir.length = n := by
      have hmem : dir ∈ level d ignored accepted place n := by
        rw [hlevel]
        simp
      exact ((mem_level_iff hd).mp hmem).1
    exact ⟨dir, ⟨hdenied, ⟨before, after, hlevel, hbefore⟩, habove⟩, rfl⟩
  · rintro ⟨dir, ⟨hdenied, ⟨before, after, hlevel, hbefore⟩, habove⟩, rfl⟩
    refine ⟨dir.length, Nat.lt_of_not_le fun hdeep => ?_, habove, _,
      ⟨before, dir, after, hlevel, rfl, hdenied, hbefore⟩, rfl⟩
    rw [level_eq_nil hd (Nat.lt_of_lt_of_le hrounds hdeep)] at hlevel
    cases before <;> cases hlevel

/-- The queue that stops at the barrier has listed all directories that come before it. -/
theorem exists_stops_of_isBarrier {dir : Location} (h : IsBarrier d ignored root place dir) :
    ∃ listed, Stops d ignored accepted place root [[]] listed dir ∧
      ∀ q, q ∈ listed ↔ IsVisited d ignored place q ∧ Location.Earlier q dir := by
  obtain ⟨hdenied, ⟨before, after, hlevel, hbefore⟩, habove⟩ :=
    (isBarrier_iff accepted hd hplace).mp h
  have habove' : ∀ k ∈ List.range' 0 dir.length, ∀ q ∈ level d ignored accepted place k,
      root.join q ∉ d.unlistable :=
    fun k hk => habove k (by simpa using (List.mem_range'_1.mp hk).2)
  have hlevel' : level d ignored accepted place (0 + dir.length) = before ++ dir :: after := by
    rwa [Nat.zero_add]
  refine ⟨_, stops_of_level habove' hlevel' hbefore hdenied, fun q => ?_⟩
  · have hsorted : (level d ignored accepted place dir.length).Pairwise (· < ·) :=
      pairwise_level hd dir.length
    have hmem : q ∈ level d ignored accepted place dir.length ↔
        q.length = dir.length ∧ IsVisited d ignored place q :=
      mem_level_iff_isVisited accepted hd hplace
    rw [hlevel] at hsorted hmem
    rw [List.mem_append, List.mem_flatMap]
    simp only [mem_level_iff_isVisited accepted hd hplace, List.mem_range'_1, Nat.zero_le,
      Nat.zero_add, true_and]
    constructor
    · rintro (⟨k, hk, rfl, hvisited⟩ | hq)
      · exact ⟨hvisited, .inl hk⟩
      · obtain ⟨hlength, hvisited⟩ := hmem.mp (List.mem_append_left _ hq)
        exact ⟨hvisited,
          .inr ⟨hlength, (List.pairwise_append.mp hsorted).2.2 q hq dir List.mem_cons_self⟩⟩
    · rintro ⟨hvisited, hlt | ⟨hlength, hlt⟩⟩
      · exact .inl ⟨q.length, hlt, rfl, hvisited⟩
      · right
        have hcons := List.pairwise_cons.mp (List.pairwise_append.mp hsorted).2.1
        rcases List.mem_append.mp (hmem.mpr ⟨hlength, hvisited⟩) with hq | hq
        · exact hq
        · rcases List.mem_cons.mp hq with rfl | hq
          · exact absurd hlt (List.lt_irrefl q)
          · exact absurd hlt (List.lt_asymm (hcons.1 q hq))

omit accepted in
/-- There is a barrier if some directory that is asked for may not be listed. -/
theorem exists_isBarrier_iff : (∃ dir, IsBarrier d ignored root place dir) ↔
    ∃ dir, IsAskedFor d ignored root place dir ∧ root.join dir ∈ d.unlistable := by
  constructor
  · rintro ⟨dir, h⟩
    exact ⟨dir, h.asked, h.denied⟩
  · rintro ⟨dir, hasked, hdenied⟩
    refine Classical.byContradiction fun hnot => ?_
    -- a walk without a barrier succeeds, but then all directories it comes to may be listed
    cases hlevels : levels d ignored [] root place (d.entries.length + 1) [[]] with
    | error e =>
      obtain ⟨barrier, hbarrier, -⟩ :=
        (levels_root_eq_error_iff [] hd hplace (Nat.lt_succ_self _)).mp hlevels
      exact hnot ⟨barrier, hbarrier⟩
    | ok s =>
      have hmem := (mem_level_iff_isVisited [] hd hplace).mpr ⟨rfl, hasked.1⟩
      have hdeep : dir.length < d.entries.length + 1 := by
        refine Nat.lt_of_not_le fun hdeep => ?_
        rw [level_eq_nil hd hdeep] at hmem
        cases hmem
      have hlist := (levels_root_eq_ok_iff.mp hlevels).1 _ hdeep
      exact unlistable?_eq_none_iff.mp hlist dir hmem hdenied

end

end Walk

/-- **Where discovery stops.** On any tree, whatever predicate leaves entries out, discovery fails
exactly if some directory that it asks for may not be listed. The error names the first such
directory in the order of the walk, until which all directories before it have been listed and no
other. Whether directories may be listed that discovery does not go into makes no difference to it.
-/
theorem discovery_stops {d : Disk} (hd : d.WellFormed) (ignored : List Char → Bool)
    (extensions : List String) (root : Path) {place : Location}
    (hplace : d.find? place = some .folder) :
    ((∃ dir, IsBarrier d ignored root place dir) ↔
      ∃ dir, IsAskedFor d ignored root place dir ∧ root.join dir ∈ d.unlistable) ∧
    (∀ dir, IsBarrier d ignored root place dir →
      ∃ listed, Walk.Stops d ignored (extensions.map Text.lower) place root [[]] listed dir ∧
        ∀ q, q ∈ listed ↔ IsVisited d ignored place q ∧ Location.Earlier q dir) ∧
    (∀ rounds, d.entries.length < rounds → ∀ e,
      Walk.levels d ignored (extensions.map Text.lower) root place rounds [[]] = .error e ↔
        ∃ dir, IsBarrier d ignored root place dir ∧ e = .denied (root.join dir)) ∧
    ∀ lines rules, d.folder? root = .ok (some place) → ignoreLines d root place = .ok lines →
      Ignore.compileAll lines = .ok rules → Ignore.ignores rules = ignored →
      (∀ e, discover d root extensions = .ok (.error e) ↔
        ∃ dir, IsBarrier d ignored root place dir ∧ e = .denied (root.join dir)) ∧
      ((∃ s, discover d root extensions = .ok (.ok s)) ↔
        ∀ dir, IsAskedFor d ignored root place dir → root.join dir ∉ d.unlistable) ∧
      ∀ denied, (∀ dir, IsVisited d ignored place dir →
          (root.join dir ∈ denied ↔ root.join dir ∈ d.unlistable)) →
        discover { d with unlistable := denied } root extensions = discover d root extensions := by
  have hlevels : ∀ rounds, d.entries.length < rounds → ∀ e,
      Walk.levels d ignored (extensions.map Text.lower) root place rounds [[]] = .error e ↔
        ∃ dir, IsBarrier d ignored root place dir ∧ e = .denied (root.join dir) :=
    fun rounds hrounds e => Walk.levels_root_eq_error_iff _ hd hplace hrounds
  have hexists : (∃ dir, IsBarrier d ignored root place dir) ↔
      ∃ dir, IsAskedFor d ignored root place dir ∧ root.join dir ∈ d.unlistable :=
    Walk.exists_isBarrier_iff hd hplace
  refine ⟨hexists, fun dir => Walk.exists_stops_of_isBarrier _ hd hplace, hlevels, ?_⟩
  rintro lines rules hfolder hlines hrules rfl
  have hwalk := discover_of_compileAll hfolder hlines hrules extensions
  have herror := hlevels _ (Nat.lt_succ_self _)
  refine ⟨fun e => ?_, ?_, fun denied hdenied => ?_⟩
  · rw [hwalk, Except.ok.injEq]
    exact herror e
  · simp only [← not_and, ← not_exists]
    rw [← hexists, hwalk]
    cases hresult : Walk.levels d (Ignore.ignores rules) (extensions.map Text.lower) root place
        (d.entries.length + 1) [[]] with
    | ok s =>
      refine ⟨fun _ hbarrier => ?_, fun _ => ⟨s, rfl⟩⟩
      obtain ⟨dir, hdir⟩ := hbarrier
      cases hresult.symm.trans ((herror _).mpr ⟨dir, hdir, rfl⟩)
    | error e =>
      refine ⟨fun ⟨s, hs⟩ => ?_, fun hnone => ?_⟩
      · cases hs
      · obtain ⟨dir, hdir, -⟩ := (herror e).mp hresult
        exact absurd ⟨dir, hdir⟩ hnone
  · have hfolder' : Disk.folder? { d with unlistable := denied } root = .ok (some place) :=
      (d.folder?_unlistable denied root).trans hfolder
    rw [hwalk, discover_of_compileAll hfolder' hlines hrules]
    have hlisted : ∀ k ∈ List.range' 0 (d.entries.length + 1), ∀ names ∈
        Walk.level d (Ignore.ignores rules) (extensions.map Text.lower) place k,
        (root.join names ∈ denied ↔ root.join names ∈ d.unlistable) := fun k _ names hnames =>
      hdenied names ((Walk.mem_level_iff_isVisited _ hd hplace).mp hnames).2
    exact congrArg Except.ok (Walk.levels_congr hlisted)

/-- A tree in which three directories may not be listed, one of them called `.git`. -/
def closedOrchard : Disk :=
  { orchard with
    unlistable := [⟨.here, ["new", ".git"]⟩, ⟨.here, ["new", "skip"]⟩, ⟨.here, ["new", "a"]⟩] }

/-- The walk stops at the directory that is neither left out nor called `.git`. -/
theorem discovery_stops_closedOrchard :
    Walk.levels closedOrchard (fun path => path == "skip/".toList) ([".js", ".py"].map Text.lower)
        ⟨.here, ["new"]⟩ ["new"] 9 [[]] = .error (.denied ⟨.here, ["new", "a"]⟩) ∧
      ∃ listed, Walk.Stops closedOrchard (fun path => path == "skip/".toList)
        ([".js", ".py"].map Text.lower) ["new"] ⟨.here, ["new"]⟩ [[]] listed ["a"] := by
  obtain ⟨-, hstops, hlevels, -⟩ := discovery_stops (d := closedOrchard)
    ⟨by decide, by decide, by decide⟩ (fun path => path == "skip/".toList) [".js", ".py"]
    ⟨.here, ["new"]⟩ (show closedOrchard.find? ["new"] = some .folder by decide)
  have hbarrier : IsBarrier closedOrchard (fun path => path == "skip/".toList) ⟨.here, ["new"]⟩
      ["new"] ["a"] := by
    refine ⟨⟨⟨by decide, fun names hnames hne => ?_⟩, fun above habove hne => ?_⟩, by decide,
      fun dir hasked hdenied hne => ?_⟩
    · obtain rfl := (List.prefix_concat_iff.mp hnames).resolve_right
        fun hnil => hne (List.prefix_nil.mp hnil)
      rintro (⟨-, hgit⟩ | hbare | ⟨-, hfolder⟩)
      · exact absurd hgit (by decide)
      · exact absurd hbare (by decide)
      · exact absurd hfolder (by decide)
    · obtain rfl := List.prefix_nil.mp ((List.prefix_concat_iff.mp habove).resolve_left hne)
      decide
    · have hdir : dir = [".git"] ∨ dir = ["skip"] ∨ dir = ["a"] := by
        simpa [closedOrchard, Path.join] using hdenied
      rcases hdir with rfl | rfl | rfl
      · exact absurd (.inl ⟨rfl, rfl⟩) (hasked.1.2 [".git"] List.prefix_rfl (by decide))
      · exact absurd (.inr (.inr ⟨rfl, by decide⟩))
          (hasked.1.2 ["skip"] List.prefix_rfl (by decide))
      · exact absurd rfl hne
  obtain ⟨listed, hlisted, -⟩ := hstops _ hbarrier
  exact ⟨(hlevels 9 (by decide) _).mpr ⟨_, hbarrier, rfl⟩, listed, hlisted⟩

end Relocation
