import Relocation.Proofs.Pattern.Ends

/-!
# Matches in a longer line

A pattern that asks neither for the start nor for the end of the line matches in the middle of a
longer line as it does in the line itself.

* `Cursor.frame` — a cursor of a line, seen in a longer one,
* `Pattern.filter_ends_frame` — **the ends in the longer line that leave all of what was added**
  are the ends in the line itself,
* `Pattern.closes`, `Pattern.opens` — whether every match ends with, or starts with, a character
  outside a set,
* `Pattern.search_append` — characters added at the end that no match ends with change nothing.
-/

namespace Relocation

/-- A stretch of a line, seen in a line with more characters before it. -/
def Span.shift (before : Nat) (s : Span) : Span :=
  ⟨s.start + before, s.stop + before⟩

/-- A cursor of a line, seen in a line with more characters before and after it. -/
def Cursor.frame (before : Nat) (after : List Char) (c : Cursor) : Cursor :=
  ⟨c.pos + before, c.rest ++ after, c.captured.map (Span.shift before)⟩

/-- Whether a cursor still has a given number of characters ahead. -/
def Cursor.leaves (n : Nat) (c : Cursor) : Bool :=
  n ≤ c.rest.length

theorem Cursor.leaves_frame (before : Nat) (after : List Char) (c : Cursor) :
    (c.frame before after).leaves after.length = true := by
  simp [leaves, frame]

namespace Pattern

/-- Whether a pattern asks neither for the start nor for the end of the line. -/
def isFree : Pattern → Bool
  | empty | one _ | run _ => true
  | seq p q | alt p q => p.isFree && q.isFree
  | many p | capture p => p.isFree
  | atStart | atEnd => false

/-! ## Ends in a longer line -/

private theorem flatMap_eq_flatMap_filter {l : List Cursor} {keep : Cursor → Bool}
    {f : Cursor → List Cursor} (h : ∀ e ∈ l, keep e = false → f e = []) :
    l.flatMap f = (l.filter keep).flatMap f := by
  induction l with
  | nil => rfl
  | cons e l ih =>
    have hl := ih fun d hd => h d (List.mem_cons_of_mem e hd)
    cases hkeep : keep e with
    | true => simp [hkeep, hl]
    | false => simp [hkeep, hl, h e List.mem_cons_self hkeep]

/-- Once too few characters are left, no end leaves enough. -/
theorem filter_ends_eq_nil {p : Pattern} {c : Cursor} {n : Nat} (h : c.leaves n = false) :
    (p.ends c).filter (Cursor.leaves n) = [] := by
  rw [List.filter_eq_nil_iff]
  intro d hd
  have hle := length_rest_le hd
  simp only [Cursor.leaves, decide_eq_false_iff_not, decide_eq_true_eq] at h ⊢
  omega

theorem filter_endsRounds_eq_nil {p : Pattern} {c : Cursor} {n : Nat} {rounds : List Char}
    (h : c.leaves n = false) : (endsRounds p.ends rounds c).filter (Cursor.leaves n) = [] := by
  rw [List.filter_eq_nil_iff]
  intro d hd
  have hle : d.rest.length ≤ c.rest.length :=
    of_mem_endsRounds (P := fun e => e.rest.length ≤ c.rest.length)
      (fun e f he hf _ => Nat.le_trans (length_rest_le hf) he) (Nat.le_refl _) hd
  simp only [Cursor.leaves, decide_eq_false_iff_not, decide_eq_true_eq] at h ⊢
  omega

/-- As many rounds as characters ahead are enough: more rounds add no ends. -/
theorem endsRounds_eq {p : Pattern} {c : Cursor} {rounds rounds' : List Char}
    (h : c.rest.length ≤ rounds.length) (h' : c.rest.length ≤ rounds'.length) :
    endsRounds p.ends rounds c = endsRounds p.ends rounds' c := by
  have hshort : ∀ c : Cursor, ∀ d ∈ (p.ends c).filter (fun e => e.pos != c.pos),
      d.rest.length < c.rest.length := by
    intro c d hd
    obtain ⟨hd, hmoved⟩ := List.mem_filter.mp hd
    exact length_rest_lt hd (by simpa using hmoved)
  -- with nothing ahead no round can move, so the list of rounds does not matter
  have hlast : ∀ (c : Cursor) (rounds : List Char), c.rest.length = 0 →
      endsRounds p.ends rounds c = [c] := by
    intro c rounds hc
    have hnone : (p.ends c).filter (fun e => e.pos != c.pos) = [] := by
      refine List.eq_nil_iff_forall_not_mem.mpr fun d hd => ?_
      have := hshort c d hd
      omega
    cases rounds with
    | nil => rfl
    | cons _ rounds => simp [endsRounds, hnone]
  induction rounds generalizing c rounds' with
  | nil => rw [hlast c [] (by simpa using h), hlast c rounds' (by simpa using h)]
  | cons r rounds ih =>
    cases rounds' with
    | nil => rw [hlast c [] (by simpa using h'), hlast c (r :: rounds) (by simpa using h')]
    | cons r' rounds' =>
      simp only [endsRounds, List.append_cancel_right_eq]
      refine List.flatMap_congr fun d hd => ?_
      have hlt := hshort c d hd
      simp only [List.length_cons] at h h'
      exact ih (by omega) (by omega)

theorem runsOnto_after {s : CharSet} {captured : Option Span} {pos n : Nat} {rest : List Char}
    {near : List Cursor} (h : rest.length < n) :
    (Cursor.runsOnto s captured pos rest near).filter (Cursor.leaves n) =
      near.filter (Cursor.leaves n) := by
  induction rest generalizing pos near with
  | nil =>
    have hhere : Cursor.leaves n ⟨pos, [], captured⟩ = false := by
      simpa [Cursor.leaves, Nat.pos_iff_ne_zero] using h
    simp [Cursor.runsOnto, hhere]
  | cons a rest ih =>
    have hhere : Cursor.leaves n ⟨pos, a :: rest, captured⟩ = false := by
      simpa [Cursor.leaves] using h
    simp only [List.length_cons] at h
    simp only [Cursor.runsOnto]
    split
    · rw [ih (by omega)]
      simp [hhere]
    · simp [hhere]

theorem filter_runsOnto_frame {s : CharSet} {captured : Option Span} {before : Nat}
    {after : List Char} {pos : Nat} {rest : List Char} {near near' : List Cursor}
    (h : near'.filter (Cursor.leaves after.length) = near.map (Cursor.frame before after)) :
    (Cursor.runsOnto s (captured.map (Span.shift before)) (pos + before) (rest ++ after)
        near').filter (Cursor.leaves after.length) =
      (Cursor.runsOnto s captured pos rest near).map (Cursor.frame before after) := by
  -- one more place in both lists keeps them alike
  have hcons : ∀ (pos : Nat) (rest : List Char) {near near' : List Cursor},
      near'.filter (Cursor.leaves after.length) = near.map (Cursor.frame before after) →
      ((⟨pos + before, rest ++ after, captured.map (Span.shift before)⟩ : Cursor) ::
          near').filter (Cursor.leaves after.length) =
        ((⟨pos, rest, captured⟩ : Cursor) :: near).map (Cursor.frame before after) := by
    intro pos rest near near' h
    rw [List.filter_cons_of_pos (by simp [Cursor.leaves]), h]
    rfl
  induction rest generalizing pos near near' with
  | nil =>
    cases after with
    | nil => exact hcons pos [] h
    | cons a after =>
      simp only [List.nil_append, Cursor.runsOnto]
      split
      · rw [runsOnto_after (by simp)]
        exact hcons pos [] h
      · exact hcons pos [] h
  | cons a rest ih =>
    simp only [List.cons_append, Cursor.runsOnto]
    split
    · rw [Nat.add_right_comm]
      exact ih (hcons pos (a :: rest) h)
    · exact hcons pos (a :: rest) h

/-- **The ends in a longer line** that leave all of what was added after the line are the ends in
the line itself. -/
theorem filter_ends_frame {p : Pattern} (hp : p.isFree = true) (before : Nat) (after : List Char)
    (c : Cursor) :
    (p.ends (c.frame before after)).filter (Cursor.leaves after.length) =
      (p.ends c).map (Cursor.frame before after) := by
  induction p generalizing c with
  | empty => simp [ends, Cursor.leaves_frame]
  | one s =>
    obtain ⟨pos, rest, captured⟩ := c
    cases rest with
    | nil =>
      cases after with
      | nil => rfl
      | cons a after =>
        simp only [ends, Cursor.frame, Cursor.step?, List.nil_append]
        split <;> simp [Cursor.leaves]
    | cons a rest =>
      simp only [ends, Cursor.frame, Cursor.step?, List.cons_append]
      split
      · simp [Cursor.leaves, Cursor.frame, Nat.add_right_comm]
      · simp
  | run s => exact filter_runsOnto_frame (by simp)
  | seq p q ihp ihq =>
    simp only [isFree, Bool.and_eq_true] at hp
    rw [ends, ends, List.filter_flatMap, flatMap_eq_flatMap_filter fun e _ => filter_ends_eq_nil,
      ihp hp.1, List.flatMap_map, List.map_flatMap]
    exact List.flatMap_congr fun e _ => ihq hp.2 e
  | alt p q ihp ihq =>
    simp only [isFree, Bool.and_eq_true] at hp
    rw [ends, ends, List.filter_append, List.map_append, ihp hp.1, ihq hp.2]
  | many p ih =>
    have hrounds : ∀ (rounds : List Char) (c : Cursor),
        (endsRounds p.ends rounds (c.frame before after)).filter (Cursor.leaves after.length) =
          (endsRounds p.ends rounds c).map (Cursor.frame before after) := by
      intro rounds
      induction rounds with
      | nil => simp [endsRounds, Cursor.leaves_frame]
      | cons _ rounds ihr =>
        intro c
        have hmoved : ∀ e : Cursor, ((e.frame before after).pos != (c.frame before after).pos) =
            (e.pos != c.pos) := by
          intro e
          simp [Cursor.frame, bne]
        rw [endsRounds, endsRounds, List.filter_append, List.map_append, List.filter_flatMap,
          flatMap_eq_flatMap_filter fun e _ => filter_endsRounds_eq_nil, List.filter_comm,
          ih hp, List.filter_map, List.flatMap_map, List.map_flatMap]
        congr 1
        · simp only [Function.comp_def, hmoved, ihr]
        · simp [Cursor.leaves_frame]
    have henough : endsRounds p.ends c.rest c = endsRounds p.ends (c.rest ++ after) c :=
      endsRounds_eq (Nat.le_refl _) (by simp)
    rw [ends, ends, henough]
    exact hrounds (c.rest ++ after) c
  | capture p ih =>
    have hcapture : ∀ e : Cursor, (e.frame before after).capture (c.frame before after).pos =
        (e.capture c.pos).frame before after := fun _ => rfl
    rw [ends, ends, List.filter_map, List.map_map]
    have hleaves : (Cursor.leaves after.length ∘ fun e => e.capture (c.frame before after).pos) =
        Cursor.leaves after.length := rfl
    rw [hleaves, ih hp, List.map_map]
    exact List.map_congr_left fun e _ => hcapture e
  | atStart => simp [isFree] at hp
  | atEnd => simp [isFree] at hp

end Pattern

/-! ## First and last characters -/

/-- Whether two sets given by their members lie apart. -/
def CharSet.apart (s t : CharSet) : Bool :=
  !s.negated && !t.negated &&
    s.ranges.all fun r => t.ranges.all fun r' => r.2 < r'.1 || r'.2 < r.1

theorem CharSet.contains_of_apart {s t : CharSet} {c : Char} (h : s.apart t = true)
    (hc : s.contains c = true) : t.contains c = false := by
  simp only [apart, Bool.and_eq_true, Bool.not_eq_true', List.all_eq_true, Bool.or_eq_true,
    decide_eq_true_eq] at h
  obtain ⟨⟨hs, ht⟩, hranges⟩ := h
  simp only [contains, hs, ht, Bool.bne_false, List.any_eq_true] at hc ⊢
  obtain ⟨r, hr, hc⟩ := hc
  rw [List.any_eq_false]
  intro r' hr' hc'
  simp only [within, Bool.and_eq_true, decide_eq_true_eq] at hc hc'
  rcases hranges r hr r' hr' with hlt | hlt
  · exact Char.not_lt.mpr (Char.le_trans hc'.1 hc.2) hlt
  · exact Char.not_lt.mpr (Char.le_trans hc.1 hc'.2) hlt

namespace Pattern

/-- Whether every match starts with a character outside a set, or with `mayStay` goes nowhere. -/
def opens (outside : CharSet) : (mayStay : Bool) → Pattern → Bool
  | mayStay, empty => mayStay
  | _, one s => s.apart outside
  | mayStay, run s => mayStay && s.apart outside
  | mayStay, seq p q => opens outside false p || (opens outside true p && opens outside mayStay q)
  | mayStay, alt p q => opens outside mayStay p && opens outside mayStay q
  | mayStay, many p => mayStay && opens outside true p
  | mayStay, capture p => opens outside mayStay p
  | mayStay, atStart => mayStay
  | mayStay, atEnd => mayStay

/-- Whether every match ends with a character outside a set. -/
def closes (outside : CharSet) : Pattern → Bool
  | one s => s.apart outside
  | seq _ q => closes outside q
  | alt p q => closes outside p && closes outside q
  | capture p => closes outside p
  | _ => false

theorem start_of_opens {p : Pattern} {outside : CharSet} {mayStay : Bool} {c d : Cursor}
    (hp : p.opens outside mayStay = true) (h : d ∈ p.ends c) :
    (mayStay = true ∧ d.rest = c.rest) ∨ ∃ a w, c.rest = a :: w ∧ outside.contains a = false := by
  induction p generalizing mayStay c d with
  | empty =>
    obtain rfl := List.mem_singleton.mp h
    exact .inl ⟨hp, rfl⟩
  | one s =>
    obtain ⟨a, rest, hrest, ha, -⟩ := mem_ends_one.mp h
    exact .inr ⟨a, rest, hrest, CharSet.contains_of_apart hp ha⟩
  | run s =>
    simp only [opens, Bool.and_eq_true] at hp
    obtain ⟨w, rest, hrest, hw, rfl⟩ := mem_ends_run.mp h
    cases w with
    | nil => exact .inl ⟨hp.1, hrest.symm⟩
    | cons a w =>
      exact .inr ⟨a, w ++ rest, hrest,
        CharSet.contains_of_apart hp.2 (hw a List.mem_cons_self)⟩
  | seq p q ihp ihq =>
    simp only [opens, Bool.or_eq_true, Bool.and_eq_true] at hp
    obtain ⟨e, he, hd⟩ := mem_ends_seq.mp h
    rcases hp with hp | ⟨hp, hq⟩
    · rcases ihp hp he with ⟨hfalse, -⟩ | hstart
      · cases hfalse
      · exact .inr hstart
    · rcases ihp hp he with ⟨-, hrest⟩ | hstart
      · rw [← hrest]
        exact ihq hq hd
      · exact .inr hstart
  | alt p q ihp ihq =>
    simp only [opens, Bool.and_eq_true] at hp
    rcases mem_ends_alt.mp h with h | h
    · exact ihp hp.1 h
    · exact ihq hp.2 h
  | many p ih =>
    simp only [opens, Bool.and_eq_true] at hp
    rw [hp.1]
    -- the first round that moves decides the first character
    refine of_mem_endsRounds (P := fun e =>
      (true = true ∧ e.rest = c.rest) ∨ ∃ a w, c.rest = a :: w ∧ outside.contains a = false)
      (fun e f he hf _ => ?_) (.inl ⟨rfl, rfl⟩) h
    rcases he with ⟨-, hrest⟩ | hstart
    · rw [← hrest]
      exact ih hp.2 hf
    · exact .inr hstart
  | capture p ih =>
    obtain ⟨e, he, rfl⟩ := mem_ends_capture.mp h
    rcases ih hp he with hstay | hstart
    · exact .inl hstay
    · exact .inr hstart
  | atStart =>
    obtain ⟨-, rfl⟩ : c.pos = 0 ∧ d = c := by simpa [ends] using h
    exact .inl ⟨hp, rfl⟩
  | atEnd =>
    obtain ⟨-, rfl⟩ : c.isEnd = true ∧ d = c := by simpa [ends] using h
    exact .inl ⟨hp, rfl⟩

theorem last_of_closes {p : Pattern} {outside : CharSet} {c d : Cursor}
    (hp : p.closes outside = true) (h : d ∈ p.ends c) :
    ∃ w a, c.rest = w ++ a :: d.rest ∧ outside.contains a = false := by
  induction p generalizing c d with
  | one s =>
    obtain ⟨a, rest, hrest, ha, rfl⟩ := mem_ends_one.mp h
    exact ⟨[], a, hrest, CharSet.contains_of_apart hp ha⟩
  | seq p q _ ihq =>
    obtain ⟨e, he, hd⟩ := mem_ends_seq.mp h
    obtain ⟨v, hv, -⟩ := exists_of_mem_ends he
    obtain ⟨w, a, hw, ha⟩ := ihq hp hd
    exact ⟨v ++ w, a, by rw [hv, hw, List.append_assoc], ha⟩
  | alt p q ihp ihq =>
    simp only [closes, Bool.and_eq_true] at hp
    rcases mem_ends_alt.mp h with h | h
    · exact ihp hp.1 h
    · exact ihq hp.2 h
  | capture p ih =>
    obtain ⟨e, he, rfl⟩ := mem_ends_capture.mp h
    obtain ⟨w, a, hw, ha⟩ := ih hp he
    exact ⟨w, a, hw, ha⟩
  | _ => simp [closes] at hp

/-! ## Searching a longer line -/

variable {p : Pattern} {outside : CharSet} {pos : Nat} {rest after : List Char}

/-- Every match leaves the characters at the end of the line alone that it cannot end with. -/
theorem ends_append (hfree : p.isFree = true) (hcloses : p.closes outside = true)
    (hafter : ∀ a ∈ after, outside.contains a = true) :
    p.ends ⟨pos, rest ++ after, none⟩ = (p.ends ⟨pos, rest, none⟩).map (Cursor.frame 0 after) := by
  have hall : (p.ends ⟨pos, rest ++ after, none⟩).filter (Cursor.leaves after.length) =
      p.ends ⟨pos, rest ++ after, none⟩ := by
    rw [List.filter_eq_self]
    intro d hd
    obtain ⟨w, a, hw, ha⟩ := last_of_closes hcloses hd
    rw [Cursor.leaves, decide_eq_true_eq]
    by_contra hshort
    -- else the last character of the match would be one of those at the end
    have hsuffix : a :: d.rest <:+ after :=
      List.suffix_of_suffix_length_le ⟨w, hw.symm⟩ ⟨rest, rfl⟩ (by simp; omega)
    rw [hafter a (hsuffix.subset List.mem_cons_self)] at ha
    cases ha
  rw [← hall]
  exact filter_ends_frame hfree 0 after ⟨pos, rest, none⟩

theorem hitAt_append (hfree : p.isFree = true) (hcloses : p.closes outside = true)
    (hafter : ∀ a ∈ after, outside.contains a = true) :
    p.hitAt pos (rest ++ after) = p.hitAt pos rest := by
  have hshift : ∀ captured : Option Span, captured.map (Span.shift 0) = captured := by
    intro captured
    cases captured <;> rfl
  rw [hitAt_eq, hitAt_eq, ends_append hfree hcloses hafter, List.head?_map, Option.map_map]
  simp only [Function.comp_def, Cursor.frame, hshift, Nat.add_zero]

theorem searchFrom_eq_none (hcloses : p.closes outside = true)
    (hrest : ∀ a ∈ rest, outside.contains a = true) : p.searchFrom pos rest = none := by
  have hhere : ∀ (pos : Nat) (rest : List Char), (∀ a ∈ rest, outside.contains a = true) →
      p.hitAt pos rest = none := by
    intro pos rest hrest
    rw [hitAt_eq_none_iff, List.eq_nil_iff_forall_not_mem]
    intro d hd
    obtain ⟨w, a, hw, ha⟩ := last_of_closes hcloses hd
    obtain rfl : rest = w ++ a :: d.rest := hw
    rw [hrest a (by simp)] at ha
    cases ha
  induction rest generalizing pos with
  | nil => exact hhere pos [] hrest
  | cons a rest ih =>
    rw [searchFrom, hhere pos (a :: rest) hrest, ih fun b hb => hrest b (List.mem_cons_of_mem a hb)]
    rfl

/-- Characters added at the end that no match ends with change nothing. -/
theorem searchFrom_append (hfree : p.isFree = true) (hcloses : p.closes outside = true)
    (hafter : ∀ a ∈ after, outside.contains a = true) :
    p.searchFrom pos (rest ++ after) = p.searchFrom pos rest := by
  induction rest generalizing pos with
  | nil =>
    rw [List.nil_append, searchFrom_eq_none hcloses hafter, searchFrom_eq_none hcloses (by simp)]
  | cons a rest ih =>
    rw [List.cons_append, searchFrom, searchFrom, ih, ← List.cons_append,
      hitAt_append hfree hcloses hafter]

/-- A match at the place where a search starts is the one it finds. -/
theorem searchFrom_eq_of_hitAt {hit : Hit} (h : p.hitAt pos rest = some hit) :
    p.searchFrom pos rest = some hit := by
  cases rest with
  | nil => exact h
  | cons a rest =>
    rw [searchFrom, h]
    rfl

/-- A search finds the match at the first place of the line that has one. -/
theorem exists_of_searchFrom {hit : Hit} (h : p.searchFrom pos rest = some hit) :
    ∃ skipped tail, rest = skipped ++ tail ∧ p.hitAt (pos + skipped.length) tail = some hit ∧
      ∀ u v, rest = u ++ v → u.length < skipped.length → p.hitAt (pos + u.length) v = none := by
  induction rest generalizing pos with
  | nil => exact ⟨[], [], rfl, h, by simp⟩
  | cons a rest ih =>
    rw [searchFrom] at h
    rcases hhere : p.hitAt pos (a :: rest) with _ | found
    · rw [hhere] at h
      obtain ⟨skipped, tail, rfl, htail, hfirst⟩ := ih h
      have hnext : ∀ u : List Char, pos + (a :: u).length = pos + 1 + u.length := by
        intro u
        rw [List.length_cons, Nat.add_assoc, Nat.add_comm 1]
      refine ⟨a :: skipped, tail, rfl, by rw [hnext, htail], fun u v huv hlt => ?_⟩
      cases u with
      | nil =>
        obtain rfl : a :: (skipped ++ tail) = v := huv
        exact hhere
      | cons b u =>
        obtain ⟨rfl, htext⟩ := List.cons.inj huv
        rw [hnext]
        exact hfirst u v htext (Nat.lt_of_succ_lt_succ hlt)
    · rw [hhere] at h
      obtain rfl : found = hit := Option.some.inj h
      exact ⟨[], a :: rest, rfl, hhere, by simp⟩

/-- What a match captures lies before its end. -/
theorem stop_le_of_mem_ends {c d : Cursor} (h : d ∈ p.ends c)
    (hc : ∀ s ∈ c.captured, s.stop ≤ c.pos) : ∀ s ∈ d.captured, s.stop ≤ d.pos := by
  induction p generalizing c d with
  | empty =>
    obtain rfl := List.mem_singleton.mp h
    exact hc
  | one s =>
    obtain ⟨a, rest, -, -, rfl⟩ := mem_ends_one.mp h
    intro s hs
    exact Nat.le_succ_of_le (hc s hs)
  | run s =>
    obtain ⟨w, rest, -, -, rfl⟩ := mem_ends_run.mp h
    intro s hs
    exact Nat.le_add_right_of_le (hc s hs)
  | seq p q ihp ihq =>
    obtain ⟨e, he, hd⟩ := mem_ends_seq.mp h
    exact ihq hd (ihp he hc)
  | alt p q ihp ihq =>
    rcases mem_ends_alt.mp h with h | h
    · exact ihp h hc
    · exact ihq h hc
  | many p ih =>
    exact of_mem_endsRounds (P := fun e => ∀ s ∈ e.captured, s.stop ≤ e.pos)
      (fun e f he hf _ => ih hf he) hc h
  | capture p ih =>
    obtain ⟨e, -, rfl⟩ := mem_ends_capture.mp h
    intro s hs
    obtain rfl : ⟨c.pos, e.pos⟩ = s := Option.some.inj hs
    exact Nat.le_refl _
  | atStart =>
    obtain ⟨-, rfl⟩ : c.pos = 0 ∧ d = c := by simpa [ends] using h
    exact hc
  | atEnd =>
    obtain ⟨-, rfl⟩ : c.isEnd = true ∧ d = c := by simpa [ends] using h
    exact hc

/-- What a search captures lies in the line. -/
theorem stop_le_of_search {line : List Char} {hit : Hit} {s : Span}
    (h : p.search line = some hit) (hs : hit.captured = some s) : s.stop ≤ line.length := by
  obtain ⟨skipped, tail, rfl, hhit, -⟩ := exists_of_searchFrom h
  rw [hitAt_eq] at hhit
  obtain ⟨e, he, rfl⟩ := Option.map_eq_some_iff.mp hhit
  have hmem := List.mem_of_mem_head? he
  obtain ⟨w, hw, hpos⟩ := exists_of_mem_ends hmem
  have hstop := stop_le_of_mem_ends hmem (by simp) s hs
  simp only at hw hpos
  rw [hw, List.length_append, List.length_append]
  omega

/-- A search in the rest of a line finds what it finds in a line of its own. -/
theorem searchFrom_add (hfree : p.isFree = true) (before : Nat) :
    p.searchFrom (pos + before) rest =
      (p.searchFrom pos rest).map fun hit =>
        ⟨hit.span.shift before, hit.captured.map (Span.shift before)⟩ := by
  have hhere : ∀ (pos : Nat) (rest : List Char), p.hitAt (pos + before) rest =
      (p.hitAt pos rest).map fun hit =>
        ⟨hit.span.shift before, hit.captured.map (Span.shift before)⟩ := by
    intro pos rest
    have hends := filter_ends_frame hfree before [] ⟨pos, rest, none⟩
    simp only [Cursor.frame, List.append_nil, Option.map_none] at hends
    rw [List.filter_eq_self.mpr fun d _ => by simp [Cursor.leaves]] at hends
    rw [hitAt_eq, hitAt_eq, hends, List.head?_map, Option.map_map, Option.map_map]
    rfl
  induction rest generalizing pos with
  | nil => exact hhere pos []
  | cons a rest ih =>
    rw [searchFrom, searchFrom, hhere, Nat.add_right_comm, ih]
    cases p.hitAt pos (a :: rest) <;> rfl

/-- Characters added in front change nothing about what is captured, if wherever a match can start
among them one can also start after them, and all of those capture the same. -/
theorem captured_searchFrom_append {before body : List Char}
    (hmatch : ∀ (pos : Nat) (lead : List Char), lead ≠ [] → lead <:+ before →
      ∀ d ∈ p.ends ⟨pos, lead ++ body, none⟩, p.ends ⟨pos + lead.length, body, none⟩ ≠ [] ∧
        ∀ e ∈ p.ends ⟨pos + lead.length, body, none⟩, e.captured = d.captured) :
    (p.searchFrom pos (before ++ body)).map Hit.captured =
      (p.searchFrom (pos + before.length) body).map Hit.captured := by
  induction before generalizing pos with
  | nil => rfl
  | cons a before ih =>
    have hrest : (p.searchFrom (pos + 1) (before ++ body)).map Hit.captured =
        (p.searchFrom (pos + 1 + before.length) body).map Hit.captured :=
      ih fun pos lead hne hlead => hmatch pos lead hne (hlead.trans (List.suffix_cons a before))
    rw [List.cons_append, searchFrom]
    rcases hhere : p.hitAt pos (a :: (before ++ body)) with _ | hit
    · rw [List.length_cons, Nat.add_comm before.length, ← Nat.add_assoc, ← hrest]
      rfl
    · rw [hitAt_eq] at hhere
      obtain ⟨d, hd, rfl⟩ := Option.map_eq_some_iff.mp hhere
      obtain ⟨hne, hsame⟩ :=
        hmatch pos (a :: before) (by simp) List.suffix_rfl d (List.mem_of_mem_head? hd)
      -- the search from the end of the added characters ends at its first place
      obtain ⟨e, es, hes⟩ := List.exists_cons_of_ne_nil hne
      have hfound : p.hitAt (pos + (a :: before).length) body =
          some ⟨⟨pos + (a :: before).length, e.pos⟩, e.captured⟩ := by
        rw [hitAt_eq, hes]
        rfl
      rw [searchFrom_eq_of_hitAt hfound]
      simp [hsame e (hes ▸ List.mem_cons_self)]

end Pattern

end Relocation
