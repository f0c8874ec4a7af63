import Relocation.Pattern

/-!
# Sweeping a line

A pattern with several repetitions can often match in very many ways that end at the same place,
and `Pattern.attempt` goes through them one by one. `Pattern.sweep` carries all cursors through a
pattern together, the preferred ones first, and keeps only the first cursor at each place.

What follows a cursor depends on its place alone, not on the way there. So a cursor that is dropped
would fare no better than the one kept before it, and a sweep finds the same match as a search:

* `Cursor.distinct` — the first cursor at each place,
* `Pattern.sweep` — the cursors after a pattern, from those before it,
* `Pattern.findSome?_sweep` — a sweep answers like attempts from one cursor after another,
* `Pattern.sweepSearch_eq_search` — **the leftmost match by sweeps is the leftmost match**.
-/

namespace Relocation

/-! ## One cursor at each place -/

namespace Cursor

/-- Whether a position is among those noted, which are in ascending order. -/
def isNoted (pos : Nat) : List Nat → Bool
  | [] => false
  | noted :: rest => if pos < noted then false else pos == noted || isNoted pos rest

/-- Note a position. A position before all others, the usual case, takes one step. -/
def note (pos : Nat) : List Nat → List Nat
  | [] => [pos]
  | noted :: rest => if pos < noted then pos :: noted :: rest else noted :: note pos rest

theorem mem_of_isNoted {pos : Nat} {seen : List Nat} (h : isNoted pos seen = true) :
    pos ∈ seen := by
  induction seen with
  | nil => simp [isNoted] at h
  | cons noted rest ih =>
    simp only [isNoted] at h
    split at h
    · simp at h
    · rcases Bool.or_eq_true _ _ ▸ h with h | h
      · exact List.mem_cons.mpr (.inl (beq_iff_eq.mp h))
      · exact List.mem_cons_of_mem _ (ih h)

theorem mem_note {pos other : Nat} {seen : List Nat} :
    other ∈ note pos seen ↔ other = pos ∨ other ∈ seen := by
  induction seen with
  | nil => simp [note]
  | cons noted rest ih =>
    simp only [note]
    split
    · simp
    · simp only [List.mem_cons, ih]
      exact or_left_comm

/-- The first cursor at each place that is not noted. -/
def distinctFrom : (seen : List Nat) → List Cursor → List Cursor
  | _, [] => []
  | seen, c :: rest =>
    if isNoted c.pos seen then distinctFrom seen rest
    else c :: distinctFrom (note c.pos seen) rest

/-- The first cursor at each place. -/
def distinct (cursors : List Cursor) : List Cursor :=
  distinctFrom [] cursors

theorem mem_of_mem_distinctFrom {c : Cursor} {seen : List Nat} {cursors : List Cursor}
    (h : c ∈ distinctFrom seen cursors) : c ∈ cursors := by
  induction cursors generalizing seen with
  | nil => simp [distinctFrom] at h
  | cons d rest ih =>
    simp only [distinctFrom] at h
    split at h
    · exact List.mem_cons_of_mem _ (ih h)
    · rcases List.mem_cons.mp h with rfl | h
      · exact List.mem_cons_self
      · exact List.mem_cons_of_mem _ (ih h)

theorem mem_of_mem_distinct {c : Cursor} {cursors : List Cursor} (h : c ∈ distinct cursors) :
    c ∈ cursors :=
  mem_of_mem_distinctFrom h

/-- A cursor stands in a line: what it has ahead is the rest of the line. -/
def Within (line : List Char) (c : Cursor) : Prop :=
  line.drop c.pos = c.rest

/-- Cursors of one line at the same position have the same ahead of them. -/
theorem Within.rest_eq {line : List Char} {c d : Cursor} (hc : c.Within line) (hd : d.Within line)
    (h : c.pos = d.pos) : c.rest = d.rest := by
  rw [← hc, ← hd, h]

theorem Within.step {line : List Char} {s : CharSet} {c d : Cursor} (hc : c.Within line)
    (h : c.step? s = some d) : d.Within line := by
  obtain ⟨pos, rest, captured⟩ := c
  cases rest with
  | nil => simp [step?] at h
  | cons a rest =>
    simp only [step?] at h
    split at h
    · obtain rfl := Option.some.inj h
      simp only [Within] at hc ⊢
      rw [← List.tail_drop, hc, List.tail_cons]
    · simp at h

theorem Within.capture {line : List Char} {c : Cursor} (start : Nat) (hc : c.Within line) :
    (c.capture start).Within line :=
  hc

theorem Within.runsOnto {line : List Char} {s : CharSet} {captured : Option Span} {pos : Nat}
    {rest : List Char} {near : List Cursor} (hrest : line.drop pos = rest)
    (hnear : ∀ c ∈ near, c.Within line) :
    ∀ c ∈ Cursor.runsOnto s captured pos rest near, c.Within line := by
  induction rest generalizing pos near with
  | nil =>
    intro c hc
    rcases List.mem_cons.mp hc with rfl | hc
    · exact hrest
    · exact hnear c hc
  | cons a rest ih =>
    have hhere : ∀ c ∈ (⟨pos, a :: rest, captured⟩ : Cursor) :: near, c.Within line := by
      intro c hc
      rcases List.mem_cons.mp hc with rfl | hc
      · exact hrest
      · exact hnear c hc
    simp only [Cursor.runsOnto]
    split
    · exact ih (by rw [← List.tail_drop, hrest, List.tail_cons]) hhere
    · exact hhere

theorem Within.runs {line : List Char} {s : CharSet} {c d : Cursor} (hc : c.Within line)
    (hd : d ∈ c.runs s) : d.Within line :=
  Within.runsOnto hc (by simp) d hd

end Cursor

/-! ## Answers that depend on the place alone -/

/-- Whether there is an answer depends on the place of a cursor, not on what it has captured. -/
def Blind {α : Type} (next : Cursor → Option α) : Prop :=
  ∀ c d : Cursor, c.pos = d.pos → c.rest = d.rest → (next c).isSome = (next d).isSome

namespace Blind

variable {α : Type} {next : Cursor → Option α}

theorem eq_none (h : Blind next) {c d : Cursor} (hpos : c.pos = d.pos) (hrest : c.rest = d.rest)
    (hd : next d = none) : next c = none := by
  have := h c d hpos hrest
  simpa [hd] using this

theorem findSome?_runsOnto (h : Blind next) (s : CharSet) (a b : Option Span) (pos : Nat)
    (rest : List Char) {near near' : List Cursor}
    (hnear : (near.findSome? next).isSome = (near'.findSome? next).isSome) :
    ((Cursor.runsOnto s a pos rest near).findSome? next).isSome =
      ((Cursor.runsOnto s b pos rest near').findSome? next).isSome := by
  have key : ∀ (pos : Nat) (rest : List Char) (near near' : List Cursor),
      (near.findSome? next).isSome = (near'.findSome? next).isSome →
      (((⟨pos, rest, a⟩ : Cursor) :: near).findSome? next).isSome =
        (((⟨pos, rest, b⟩ : Cursor) :: near').findSome? next).isSome := by
    intro pos rest near near' hnear
    have := h ⟨pos, rest, a⟩ ⟨pos, rest, b⟩ rfl rfl
    simp only [List.findSome?_cons]
    cases ha : next ⟨pos, rest, a⟩ <;> cases hb : next ⟨pos, rest, b⟩ <;> simp_all
  induction rest generalizing pos near near' with
  | nil => exact key pos [] near near' hnear
  | cons c rest ih =>
    simp only [Cursor.runsOnto]
    split
    · exact ih (pos + 1) (key pos (c :: rest) near near' hnear)
    · exact key pos (c :: rest) near near' hnear

theorem repeated {body : (Cursor → Option α) → Cursor → Option α}
    (hbody : ∀ next : Cursor → Option α, Blind next → Blind (body next)) (h : Blind next)
    (rounds : List Char) : Blind (Pattern.repeated body next rounds) := by
  induction rounds with
  | nil => exact h
  | cons _ rounds ih =>
    intro c d hpos hrest
    have hround : Blind fun e : Cursor =>
        if e.pos = d.pos then none else Pattern.repeated body next rounds e := by
      intro e f hpos' hrest'
      simp only [hpos']
      split
      · rfl
      · exact ih e f hpos' hrest'
    simp only [Pattern.repeated, hpos, Option.orElse_eq_orElse, Option.orElse_eq_or,
      Option.isSome_or, hbody _ hround c d hpos hrest, h c d hpos hrest]

/-- Matching a pattern first keeps it so. -/
theorem attempt (p : Pattern) {next : Cursor → Option α} (h : Blind next) :
    Blind (p.attempt next) := by
  induction p generalizing next with
  | empty => exact h
  | one s =>
    rintro ⟨pos, rest, a⟩ ⟨_, _, b⟩ rfl rfl
    cases rest with
    | nil => rfl
    | cons c rest =>
      simp only [Pattern.attempt, Cursor.step?]
      split
      · exact h _ _ rfl rfl
      · rfl
  | run s =>
    rintro ⟨pos, rest, a⟩ ⟨_, _, b⟩ rfl rfl
    exact h.findSome?_runsOnto s a b pos rest rfl
  | seq p q ihp ihq => exact ihp (ihq h)
  | alt p q ihp ihq =>
    intro c d hpos hrest
    simp only [Pattern.attempt, Option.orElse_eq_orElse, Option.orElse_eq_or, Option.isSome_or,
      ihp h c d hpos hrest, ihq h c d hpos hrest]
  | many p ih =>
    intro c d hpos hrest
    simp only [Pattern.attempt, hrest]
    exact repeated (fun _ hnext => ih hnext) h d.rest c d hpos hrest
  | capture p ih =>
    intro c d hpos hrest
    simp only [Pattern.attempt, hpos]
    have hnext : Blind fun e : Cursor => next (e.capture d.pos) :=
      fun e f hpos' hrest' => h _ _ hpos' hrest'
    exact ih hnext c d hpos hrest
  | atStart =>
    intro c d hpos hrest
    simp only [Pattern.attempt, hpos]
    split
    · exact h c d hpos hrest
    · rfl
  | atEnd =>
    intro c d hpos hrest
    have hend : c.isEnd = d.isEnd := by simp only [Cursor.isEnd, hrest]
    simp only [Pattern.attempt, hend]
    split
    · exact h c d hpos hrest
    · rfl

/-- The cursors at places noted have no answer, so they may be left out. -/
theorem findSome?_distinctFrom (h : Blind next) {line : List Char} {seen : List Nat}
    {cursors : List Cursor} (hline : ∀ c ∈ cursors, c.Within line)
    (hseen : ∀ c : Cursor, c.Within line → c.pos ∈ seen → next c = none) :
    (Cursor.distinctFrom seen cursors).findSome? next = cursors.findSome? next := by
  induction cursors generalizing seen with
  | nil => rfl
  | cons c rest ih =>
    have hc := hline c List.mem_cons_self
    have hrest := fun d hd => hline d (List.mem_cons_of_mem c hd)
    simp only [Cursor.distinctFrom]
    split
    · next hnoted =>
      rw [ih hrest hseen, List.findSome?_cons, hseen c hc (Cursor.mem_of_isNoted hnoted)]
    · simp only [List.findSome?_cons]
      cases hnext : next c with
      | some a => rfl
      | none =>
        refine ih hrest fun d hd hmem => ?_
        rcases Cursor.mem_note.mp hmem with hpos | hmem
        · exact h.eq_none hpos (hd.rest_eq hc hpos) hnext
        · exact hseen d hd hmem

theorem findSome?_distinct (h : Blind next) {line : List Char} {cursors : List Cursor}
    (hline : ∀ c ∈ cursors, c.Within line) :
    (Cursor.distinct cursors).findSome? next = cursors.findSome? next :=
  h.findSome?_distinctFrom hline (by simp)

end Blind

/-! ## Sweeps -/

namespace Pattern

/-- The cursors after any number of rounds of a sweep from one cursor, those of more rounds first.
A round that does not move the cursor ends nothing new, so one round per remaining character,
counted off by the list `rounds`, is enough. -/
def sweepRounds (body : List Cursor → List Cursor) : (rounds : List Char) → Cursor → List Cursor
  | [], c => [c]
  | _ :: rounds, c =>
    ((body [c]).filter fun e => e.pos != c.pos).flatMap (sweepRounds body rounds) ++ [c]

/-- The cursors after a pattern, from those before it, at most one at each place. Where no cursor is
left, the rest of a sequence is not looked at. -/
def sweep : Pattern → List Cursor → List Cursor
  | empty, cursors => cursors
  | one s, cursors => cursors.filterMap fun c => c.step? s
  | run s, cursors => Cursor.distinct (cursors.flatMap fun c => c.runs s)
  | seq p q, cursors =>
    match p.sweep cursors with
    | [] => []
    | moved => q.sweep moved
  | alt p q, cursors => Cursor.distinct (cursors.flatMap fun c => p.sweep [c] ++ q.sweep [c])
  | many p, cursors => Cursor.distinct (cursors.flatMap fun c => sweepRounds p.sweep c.rest c)
  | capture p, cursors =>
    Cursor.distinct (cursors.flatMap fun c => (p.sweep [c]).map fun e => e.capture c.pos)
  | atStart, cursors => cursors.filter fun c => c.pos == 0
  | atEnd, cursors => cursors.filter fun c => c.isEnd

theorem sweep_nil (p : Pattern) : p.sweep [] = [] := by
  induction p with
  | seq p q ihp _ => simp [sweep, ihp]
  | _ => rfl

theorem sweep_seq (p q : Pattern) (cursors : List Cursor) :
    (seq p q).sweep cursors = q.sweep (p.sweep cursors) := by
  rw [sweep]
  split
  · next h => rw [h, sweep_nil]
  · rfl

/-! ### Sweeps stay in the line -/

theorem within_sweepRounds {line : List Char} {body : List Cursor → List Cursor}
    (hbody : ∀ cursors : List Cursor, (∀ c ∈ cursors, c.Within line) →
      ∀ c ∈ body cursors, c.Within line)
    (rounds : List Char) {c : Cursor} (hc : c.Within line) :
    ∀ e ∈ sweepRounds body rounds c, e.Within line := by
  induction rounds generalizing c with
  | nil =>
    intro e he
    obtain rfl := List.mem_singleton.mp he
    exact hc
  | cons _ rounds ih =>
    intro e he
    simp only [sweepRounds, List.mem_append, List.mem_flatMap, List.mem_filter,
      List.mem_singleton] at he
    rcases he with ⟨d, ⟨hd, _⟩, he⟩ | rfl
    · exact ih (hbody [c] (by simpa using hc) d hd) e he
    · exact hc

theorem within_sweep {line : List Char} (p : Pattern) {cursors : List Cursor}
    (h : ∀ c ∈ cursors, c.Within line) : ∀ c ∈ p.sweep cursors, c.Within line := by
  induction p generalizing cursors with
  | empty => exact h
  | one s =>
    intro c hc
    obtain ⟨d, hd, hstep⟩ := List.mem_filterMap.mp hc
    exact (h d hd).step hstep
  | run s =>
    intro c hc
    obtain ⟨d, hd, hc⟩ := List.mem_flatMap.mp (Cursor.mem_of_mem_distinct hc)
    exact (h d hd).runs hc
  | seq p q ihp ihq =>
    rw [sweep_seq]
    exact ihq (ihp h)
  | alt p q ihp ihq =>
    intro c hc
    obtain ⟨d, hd, hc⟩ := List.mem_flatMap.mp (Cursor.mem_of_mem_distinct hc)
    have hone : ∀ e ∈ [d], e.Within line := by simpa using h d hd
    rcases List.mem_append.mp hc with hc | hc
    · exact ihp hone c hc
    · exact ihq hone c hc
  | many p ih =>
    intro c hc
    obtain ⟨d, hd, hc⟩ := List.mem_flatMap.mp (Cursor.mem_of_mem_distinct hc)
    exact within_sweepRounds (fun _ => ih) d.rest (h d hd) c hc
  | capture p ih =>
    intro c hc
    obtain ⟨d, hd, hc⟩ := List.mem_flatMap.mp (Cursor.mem_of_mem_distinct hc)
    obtain ⟨e, he, rfl⟩ := List.mem_map.mp hc
    have hone : ∀ f ∈ [d], f.Within line := by simpa using h d hd
    exact (ih hone e he).capture d.pos
  | atStart => exact fun c hc => h c (List.mem_filter.mp hc).1
  | atEnd => exact fun c hc => h c (List.mem_filter.mp hc).1

/-! ### Sweeps answer like attempts -/

variable {α : Type} {next : Cursor → Option α}

theorem findSome?_congr {cursors : List Cursor} {f g : Cursor → Option α}
    (h : ∀ c ∈ cursors, f c = g c) : cursors.findSome? f = cursors.findSome? g := by
  induction cursors with
  | nil => rfl
  | cons c rest ih =>
    simp only [List.findSome?_cons, h c List.mem_cons_self,
      ih fun d hd => h d (List.mem_cons_of_mem c hd)]

theorem findSome?_filter {cursors : List Cursor} (keep : Cursor → Bool)
    (f : Cursor → Option α) :
    (cursors.filter keep).findSome? f =
      cursors.findSome? fun c => if keep c then f c else none := by
  induction cursors with
  | nil => rfl
  | cons c rest ih => cases h : keep c <;> simp [List.findSome?_cons, h, ih]

theorem findSome?_flatMap {cursors : List Cursor} (f : Cursor → List Cursor)
    (g : Cursor → Option α) :
    (cursors.flatMap f).findSome? g = cursors.findSome? fun c => (f c).findSome? g := by
  induction cursors with
  | nil => rfl
  | cons c rest ih =>
    rw [List.flatMap_cons, List.findSome?_append, ih, List.findSome?_cons]
    cases (f c).findSome? g <;> rfl

theorem findSome?_filterMap {cursors : List Cursor} (f : Cursor → Option Cursor)
    (g : Cursor → Option α) :
    (cursors.filterMap f).findSome? g = cursors.findSome? fun c => (f c).bind g := by
  induction cursors with
  | nil => rfl
  | cons c rest ih => cases h : f c <;> simp [List.findSome?_cons, h, ih]

theorem findSome?_single (c : Cursor) (f : Cursor → Option α) :
    [c].findSome? f = f c := by
  rw [List.findSome?_cons]
  cases f c <;> rfl

/-- Leading each cursor on and keeping one cursor at each place answers like each cursor in turn. -/
theorem findSome?_distinct_flatMap (line : List Char) {cursors : List Cursor} (h : Blind next)
    {lead : Cursor → List Cursor} {answer : Cursor → Option α}
    (hlead : ∀ c ∈ cursors, ∀ e ∈ lead c, e.Within line)
    (hanswer : ∀ c ∈ cursors, (lead c).findSome? next = answer c) :
    (Cursor.distinct (cursors.flatMap lead)).findSome? next = cursors.findSome? answer := by
  have hline : ∀ e ∈ cursors.flatMap lead, e.Within line := by
    intro e he
    obtain ⟨c, hc, he⟩ := List.mem_flatMap.mp he
    exact hlead c hc e he
  rw [h.findSome?_distinct hline, findSome?_flatMap]
  exact findSome?_congr hanswer

theorem findSome?_sweepRounds {line : List Char} {p : Pattern}
    (hp : ∀ {next : Cursor → Option α} {cursors : List Cursor}, Blind next →
      (∀ c ∈ cursors, c.Within line) →
      (p.sweep cursors).findSome? next = cursors.findSome? (p.attempt next))
    (h : Blind next) (rounds : List Char) {c : Cursor} (hc : c.Within line) :
    (sweepRounds p.sweep rounds c).findSome? next = repeated p.attempt next rounds c := by
  induction rounds generalizing c with
  | nil => exact findSome?_single c next
  | cons _ rounds ih =>
    have hone : ∀ e ∈ [c], e.Within line := by simpa using hc
    have hround : Blind fun e : Cursor =>
        if e.pos = c.pos then none else repeated p.attempt next rounds e := by
      intro e f hpos hrest
      simp only [hpos]
      split
      · rfl
      · exact Blind.repeated (fun _ hnext => hnext.attempt p) h rounds e f hpos hrest
    have hswept : ((p.sweep [c]).filter fun e => e.pos != c.pos).findSome?
        (fun e => (sweepRounds p.sweep rounds e).findSome? next) =
        p.attempt
          (fun e => if e.pos = c.pos then none else repeated p.attempt next rounds e) c := by
      rw [findSome?_filter, ← findSome?_single c (p.attempt _), ← hp hround hone]
      refine findSome?_congr fun e he => ?_
      by_cases hpos : e.pos = c.pos
      · simp [hpos]
      · simp [hpos, ih (within_sweep p hone e he)]
    rw [sweepRounds, List.findSome?_append, findSome?_flatMap, hswept, findSome?_single]
    simp [repeated]

/-- **A sweep answers like attempts.** What the first cursor of a sweep with an answer says is what
the first cursor before it says that can be led through the pattern to an answer. -/
theorem findSome?_sweep {line : List Char} (p : Pattern) {cursors : List Cursor} (h : Blind next)
    (hline : ∀ c ∈ cursors, c.Within line) :
    (p.sweep cursors).findSome? next = cursors.findSome? (p.attempt next) := by
  induction p generalizing next cursors with
  | empty => rfl
  | one s => exact findSome?_filterMap (fun c => c.step? s) next
  | run s =>
    exact findSome?_distinct_flatMap line h (fun c hc _ he => (hline c hc).runs he) fun _ _ => rfl
  | seq p q ihp ihq =>
    rw [sweep_seq]
    exact (ihq h (within_sweep p hline)).trans (ihp (h.attempt q) hline)
  | alt p q ihp ihq =>
    refine findSome?_distinct_flatMap line h (fun c hc e he => ?_) fun c hc => ?_
    · have hone : ∀ d ∈ [c], d.Within line := by simpa using hline c hc
      rcases List.mem_append.mp he with he | he
      · exact within_sweep p hone e he
      · exact within_sweep q hone e he
    · have hone : ∀ d ∈ [c], d.Within line := by simpa using hline c hc
      simp [List.findSome?_append, ihp h hone, ihq h hone, attempt]
  | many p ih =>
    refine findSome?_distinct_flatMap line h (fun c hc => ?_) fun c hc => ?_
    · exact within_sweepRounds (fun _ => within_sweep p) c.rest (hline c hc)
    · exact findSome?_sweepRounds ih h c.rest (hline c hc)
  | capture p ih =>
    refine findSome?_distinct_flatMap line h (fun c hc e he => ?_) fun c hc => ?_
    · have hone : ∀ d ∈ [c], d.Within line := by simpa using hline c hc
      obtain ⟨d, hd, rfl⟩ := List.mem_map.mp he
      exact (within_sweep p hone d hd).capture c.pos
    · have hone : ∀ d ∈ [c], d.Within line := by simpa using hline c hc
      have hnext : Blind fun e : Cursor => next (e.capture c.pos) :=
        fun e f hpos hrest => h _ _ hpos hrest
      rw [List.findSome?_map]
      exact (ih hnext hone).trans (findSome?_single c _)
  | atStart => simp [sweep, attempt, findSome?_filter]
  | atEnd => simp [sweep, attempt, findSome?_filter]

/-! ## Searching -/

/-- The match of a pattern that starts at a given place, by a sweep. -/
def sweepHitAt (p : Pattern) (pos : Nat) (rest : List Char) : Option Hit :=
  (p.sweep [⟨pos, rest, none⟩]).findSome? fun e => some ⟨⟨pos, e.pos⟩, e.captured⟩

/-- The leftmost match of a pattern at or after a given place, by sweeps. -/
def sweepFrom (p : Pattern) : Nat → List Char → Option Hit
  | pos, [] => p.sweepHitAt pos []
  | pos, c :: rest => p.sweepHitAt pos (c :: rest) <|> sweepFrom p (pos + 1) rest

/-- The leftmost match of a pattern in a line, by sweeps. -/
def sweepSearch (p : Pattern) (line : List Char) : Option Hit :=
  p.sweepFrom 0 line

theorem sweepHitAt_eq_hitAt (p : Pattern) {line : List Char} {pos : Nat} {rest : List Char}
    (h : line.drop pos = rest) : p.sweepHitAt pos rest = p.hitAt pos rest := by
  have hnext : Blind fun e : Cursor => some (⟨⟨pos, e.pos⟩, e.captured⟩ : Hit) :=
    fun _ _ _ _ => rfl
  have hone : ∀ c ∈ [(⟨pos, rest, none⟩ : Cursor)], c.Within line := by
    simpa [Cursor.Within] using h
  exact (findSome?_sweep p hnext hone).trans (findSome?_single _ _)

theorem sweepFrom_eq_searchFrom (p : Pattern) {line : List Char} {pos : Nat} {rest : List Char}
    (h : line.drop pos = rest) : p.sweepFrom pos rest = p.searchFrom pos rest := by
  induction rest generalizing pos with
  | nil => exact sweepHitAt_eq_hitAt p h
  | cons c rest ih =>
    have htail : line.drop (pos + 1) = rest := by rw [← List.tail_drop, h, List.tail_cons]
    rw [sweepFrom, searchFrom, sweepHitAt_eq_hitAt p h, ih htail]

/-- **The leftmost match by sweeps is the leftmost match.** -/
theorem sweepSearch_eq_search (p : Pattern) (line : List Char) :
    p.sweepSearch line = p.search line :=
  sweepFrom_eq_searchFrom p (List.drop_zero)

end Pattern

end Relocation
