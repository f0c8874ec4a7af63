import Mathlib.Computability.Language
import Relocation.Proofs.Pattern.Frame

/-!
# What a pattern stands for

A matcher goes through the ways to match in some order. Here a pattern is read without any order:

* `Pattern.language` — the texts that a pattern stands for, by the operations on languages,
* `Pattern.Reads` — a way to divide such a text among the parts of the pattern, with the stretch
  that is captured on the way,
* `Pattern.mem_language_of_reads`, `Pattern.exists_reads` — a text that can be read belongs to the
  language, and one that belongs to it can be read,
* `Pattern.mem_ends_iff` — **the ends of a match are the ends of the readings**,
* `Pattern.isSome_search_iff`, `Pattern.reads_of_search` — a search finds something exactly if some
  stretch of the line belongs to the language, and what it finds is a reading that starts as far
  left as any.
-/

namespace Relocation

open scoped Computability

/-! ## Stretches of a line -/

/-- A stretch that lies in a line. -/
def Span.Inside (s : Span) (line : List Char) : Prop :=
  s.start ≤ s.stop ∧ s.stop ≤ line.length

theorem Span.Inside.exists_append {s : Span} {line : List Char} (h : s.Inside line) :
    ∃ u v, line = u ++ s.slice line ++ v ∧ u.length = s.start := by
  refine ⟨line.take s.start, line.drop s.stop, ?_, ?_⟩
  · have hstop : line.drop s.stop = (line.drop s.start).drop (s.stop - s.start) := by
      rw [List.drop_drop, Nat.add_sub_cancel' h.1]
    rw [Span.slice, hstop, List.append_assoc, List.take_append_drop, List.take_append_drop]
  · rw [List.length_take, Nat.min_eq_left (Nat.le_trans h.1 h.2)]

/-- The stretch between two parts of a line. -/
theorem Span.slice_between (u w v : List Char) :
    (⟨u.length, u.length + w.length⟩ : Span).slice (u ++ w ++ v) = w := by
  simp [Span.slice]

theorem Span.inside_between (u w v : List Char) :
    (⟨u.length, u.length + w.length⟩ : Span).Inside (u ++ w ++ v) := by
  simp [Span.Inside]

namespace Pattern

/-! ## Languages and readings -/

/-- The texts that a pattern stands for. A condition on the place in the line stands for none. -/
def language : Pattern → Language Char
  | empty => 1
  | one s => {w | ∃ a, s.contains a = true ∧ w = [a]}
  | run s => {w | ∀ a ∈ w, s.contains a = true}
  | seq p q => p.language * q.language
  | alt p q => p.language + q.language
  | many p => p.language∗
  | capture p => p.language
  | atStart => 0
  | atEnd => 0

/-- A reading of a text that starts at a position: how the parts of a pattern divide the text among
themselves. It turns the stretch captured before it into the one captured after it. -/
inductive Reads : Pattern → (pos : Nat) → (text : List Char) → (before after : Option Span) → Prop
  | empty {pos : Nat} {k : Option Span} : Reads .empty pos [] k k
  | one {s : CharSet} {pos : Nat} {a : Char} {k : Option Span} (ha : s.contains a = true) :
    Reads (.one s) pos [a] k k
  | run {s : CharSet} {pos : Nat} {w : List Char} {k : Option Span}
    (hw : ∀ a ∈ w, s.contains a = true) : Reads (.run s) pos w k k
  | seq {p q : Pattern} {pos : Nat} {v w : List Char} {k l m : Option Span}
    (hp : Reads p pos v k l) (hq : Reads q (pos + v.length) w l m) :
    Reads (.seq p q) pos (v ++ w) k m
  | left {p q : Pattern} {pos : Nat} {w : List Char} {k l : Option Span}
    (hp : Reads p pos w k l) : Reads (.alt p q) pos w k l
  | right {p q : Pattern} {pos : Nat} {w : List Char} {k l : Option Span}
    (hq : Reads q pos w k l) : Reads (.alt p q) pos w k l
  /-- no more rounds -/
  | done {p : Pattern} {pos : Nat} {k : Option Span} : Reads (.many p) pos [] k k
  /-- one round and then some more -/
  | round {p : Pattern} {pos : Nat} {v w : List Char} {k l m : Option Span}
    (hp : Reads p pos v k l) (hmore : Reads (.many p) (pos + v.length) w l m) :
    Reads (.many p) pos (v ++ w) k m
  | capture {p : Pattern} {pos : Nat} {w : List Char} {k l : Option Span}
    (hp : Reads p pos w k l) : Reads (.capture p) pos w k (some ⟨pos, pos + w.length⟩)

variable {p q : Pattern} {s : CharSet} {pos : Nat} {w text : List Char} {k l : Option Span}

theorem mem_language_of_reads (h : Reads p pos w k l) : w ∈ p.language := by
  induction h with
  | empty => exact Language.nil_mem_one
  | one ha => exact ⟨_, ha, rfl⟩
  | run hw => exact hw
  | seq _ _ ihp ihq => exact Language.append_mem_mul ihp ihq
  | left _ ih => exact .inl ih
  | right _ ih => exact .inr ih
  | done => exact Language.nil_mem_kstar _
  | round _ _ ihp ihmore =>
    obtain ⟨rounds, rfl, hrounds⟩ := ihmore
    exact ⟨_ :: rounds, rfl, List.forall_mem_cons.mpr ⟨ihp, hrounds⟩⟩
  | capture _ ih => exact ih

/-- A text of the language can be read wherever it stands. -/
theorem exists_reads (h : w ∈ p.language) (pos : Nat) (k : Option Span) :
    ∃ l, Reads p pos w k l := by
  induction p generalizing pos w k with
  | empty =>
    obtain rfl := (Language.mem_one w).mp h
    exact ⟨k, .empty⟩
  | one s =>
    obtain ⟨a, ha, rfl⟩ := h
    exact ⟨k, .one ha⟩
  | run s => exact ⟨k, .run h⟩
  | seq p q ihp ihq =>
    obtain ⟨u, hu, v, hv, rfl⟩ := Language.mem_mul.mp h
    obtain ⟨l, hl⟩ := ihp hu pos k
    obtain ⟨m, hm⟩ := ihq hv (pos + u.length) l
    exact ⟨m, .seq hl hm⟩
  | alt p q ihp ihq =>
    rcases h with h | h
    · obtain ⟨l, hl⟩ := ihp h pos k
      exact ⟨l, .left hl⟩
    · obtain ⟨l, hl⟩ := ihq h pos k
      exact ⟨l, .right hl⟩
  | many p ih =>
    obtain ⟨rounds, rfl, hrounds⟩ := Language.mem_kstar.mp h
    clear h
    induction rounds generalizing pos k with
    | nil => exact ⟨k, .done⟩
    | cons v rounds ihr =>
      obtain ⟨hv, hrounds⟩ := List.forall_mem_cons.mp hrounds
      obtain ⟨l, hl⟩ := ih hv pos k
      obtain ⟨m, hm⟩ := ihr (pos + v.length) l hrounds
      exact ⟨m, .round hl hm⟩
  | capture p ih =>
    obtain ⟨l, hl⟩ := ih h pos k
    exact ⟨_, .capture hl⟩
  | atStart => exact absurd h (Language.notMem_zero w)
  | atEnd => exact absurd h (Language.notMem_zero w)

/-! ## Ends are ends of readings -/

/-- Whether a pattern captures nothing. -/
def isBare : Pattern → Bool
  | seq p q | alt p q => p.isBare && q.isBare
  | many p => p.isBare
  | capture _ => false
  | _ => true

/-- Whether nothing that is repeated captures anything. -/
def isSteady : Pattern → Bool
  | seq p q | alt p q => p.isSteady && q.isSteady
  | many p => p.isBare
  | capture p => p.isSteady
  | _ => true

/-- A pattern that captures nothing leaves what was captured before. -/
theorem Reads.eq_of_isBare (h : Reads p pos w k l) (hp : p.isBare = true) : l = k := by
  induction h with
  | empty | one | run | done => rfl
  | seq _ _ ihp ihq =>
    simp only [isBare, Bool.and_eq_true] at hp
    rw [ihq hp.2, ihp hp.1]
  | left _ ih =>
    simp only [isBare, Bool.and_eq_true] at hp
    exact ih hp.1
  | right _ ih =>
    simp only [isBare, Bool.and_eq_true] at hp
    exact ih hp.2
  | round _ _ ihp ihmore => rw [ihmore hp, ihp hp]
  | capture => simp [isBare] at hp

theorem isSteady_of_isBare {p : Pattern} (hp : p.isBare = true) : p.isSteady = true := by
  induction p with
  | seq p q ihp ihq =>
    simp only [isBare, Bool.and_eq_true] at hp
    simp only [isSteady, ihp hp.1, ihq hp.2, Bool.and_self]
  | alt p q ihp ihq =>
    simp only [isBare, Bool.and_eq_true] at hp
    simp only [isSteady, ihp hp.1, ihq hp.2, Bool.and_self]
  | many p => exact hp
  | capture p => simp [isBare] at hp
  | _ => rfl

/-- Every end of a match is the end of a reading. -/
theorem exists_reads_of_mem_ends {c d : Cursor} (hp : p.isFree = true) (h : d ∈ p.ends c) :
    ∃ w, c.rest = w ++ d.rest ∧ d.pos = c.pos + w.length ∧
      Reads p c.pos w c.captured d.captured := by
  induction p generalizing c d with
  | empty =>
    obtain rfl := List.mem_singleton.mp h
    exact ⟨[], rfl, rfl, .empty⟩
  | one s =>
    obtain ⟨a, rest, hrest, ha, rfl⟩ := mem_ends_one.mp h
    exact ⟨[a], hrest, rfl, .one ha⟩
  | run s =>
    obtain ⟨w, rest, hrest, hw, rfl⟩ := mem_ends_run.mp h
    exact ⟨w, hrest, rfl, .run hw⟩
  | seq p q ihp ihq =>
    simp only [isFree, Bool.and_eq_true] at hp
    obtain ⟨e, he, hd⟩ := mem_ends_seq.mp h
    obtain ⟨v, hv, hpos, hreads⟩ := ihp hp.1 he
    obtain ⟨w, hw, hpos', hreads'⟩ := ihq hp.2 hd
    rw [hpos] at hpos' hreads'
    exact ⟨v ++ w, by rw [hv, hw, List.append_assoc],
      by rw [hpos', List.length_append, Nat.add_assoc], .seq hreads hreads'⟩
  | alt p q ihp ihq =>
    simp only [isFree, Bool.and_eq_true] at hp
    rcases mem_ends_alt.mp h with h | h
    · obtain ⟨w, hw, hpos, hreads⟩ := ihp hp.1 h
      exact ⟨w, hw, hpos, .left hreads⟩
    · obtain ⟨w, hw, hpos, hreads⟩ := ihq hp.2 h
      exact ⟨w, hw, hpos, .right hreads⟩
  | many p ih =>
    -- one round after another, however many of them there may be
    have hrounds : ∀ (rounds : List Char) (c : Cursor), d ∈ endsRounds p.ends rounds c →
        ∃ w, c.rest = w ++ d.rest ∧ d.pos = c.pos + w.length ∧
          Reads (.many p) c.pos w c.captured d.captured := by
      intro rounds
      induction rounds with
      | nil =>
        intro c h
        obtain rfl := List.mem_singleton.mp h
        exact ⟨[], rfl, rfl, .done⟩
      | cons _ rounds ihr =>
        intro c h
        rcases List.mem_append.mp h with h | h
        · obtain ⟨e, he, hd⟩ := List.mem_flatMap.mp h
          obtain ⟨v, hv, hpos, hreads⟩ := ih hp (List.mem_filter.mp he).1
          obtain ⟨w, hw, hpos', hreads'⟩ := ihr e hd
          rw [hpos] at hpos' hreads'
          exact ⟨v ++ w, by rw [hv, hw, List.append_assoc],
            by rw [hpos', List.length_append, Nat.add_assoc], .round hreads hreads'⟩
        · obtain rfl := List.mem_singleton.mp h
          exact ⟨[], rfl, rfl, .done⟩
    exact hrounds c.rest c h
  | capture p ih =>
    obtain ⟨e, he, rfl⟩ := mem_ends_capture.mp h
    obtain ⟨w, hw, hpos, hreads⟩ := ih hp he
    refine ⟨w, hw, hpos, ?_⟩
    rw [Cursor.capture, hpos]
    exact .capture hreads
  | atStart => simp [isFree] at hp
  | atEnd => simp [isFree] at hp

/-- Rounds are followed one by one, as long as no more of them are needed than are counted off. A
round over nothing is left out, which is no loss if it captures nothing. -/
theorem mem_endsRounds_of_reads (hbare : p.isBare = true)
    (hbody : ∀ {pos : Nat} {v : List Char} {k l : Option Span} (rest : List Char),
      Reads p pos v k l → ⟨pos + v.length, rest, l⟩ ∈ p.ends ⟨pos, v ++ rest, k⟩)
    (h : Reads (.many p) pos w k l) (rest : List Char) {rounds : List Char}
    (hrounds : w.length ≤ rounds.length) :
    ⟨pos + w.length, rest, l⟩ ∈ endsRounds p.ends rounds ⟨pos, w ++ rest, k⟩ := by
  generalize hq : Pattern.many p = q at h
  induction h generalizing rounds with
  | done =>
    cases rounds with
    | nil => exact List.mem_singleton_self _
    | cons _ rounds => exact List.mem_append_right _ (List.mem_singleton_self _)
  | @round p' pos v w k l m hp hmore _ ihmore =>
    obtain rfl := Pattern.many.inj hq
    cases v with
    | nil =>
      obtain rfl : l = k := hp.eq_of_isBare hbare
      exact ihmore hrounds rfl
    | cons a v =>
      cases rounds with
      | nil => simp at hrounds
      | cons _ rounds =>
        have hround := hbody (w ++ rest) hp
        rw [← List.append_assoc] at hround
        refine List.mem_append_left _
          (List.mem_flatMap.mpr ⟨_, List.mem_filter.mpr ⟨hround, by simp⟩, ?_⟩)
        rw [List.length_append, ← Nat.add_assoc]
        simp only [List.length_append, List.length_cons] at hrounds
        exact ihmore (by omega) rfl
  | _ => cases hq

/-- Every reading ends where a match ends. -/
theorem mem_ends_of_reads (hp : p.isSteady = true) (h : Reads p pos w k l) (rest : List Char) :
    ⟨pos + w.length, rest, l⟩ ∈ p.ends ⟨pos, w ++ rest, k⟩ := by
  induction p generalizing pos w k l rest with
  | empty =>
    cases h
    exact List.mem_singleton_self _
  | one s =>
    cases h with
    | one ha => exact mem_ends_one.mpr ⟨_, rest, rfl, ha, rfl⟩
  | run s =>
    cases h with
    | run hw => exact mem_ends_run.mpr ⟨_, rest, rfl, hw, rfl⟩
  | seq p q ihp ihq =>
    simp only [isSteady, Bool.and_eq_true] at hp
    cases h with
    | @seq _ _ _ v w _ l _ hv hw =>
      rw [List.append_assoc, List.length_append, ← Nat.add_assoc]
      exact mem_ends_seq.mpr ⟨_, ihp hp.1 hv (w ++ rest), ihq hp.2 hw rest⟩
  | alt p q ihp ihq =>
    simp only [isSteady, Bool.and_eq_true] at hp
    cases h with
    | left h => exact mem_ends_alt.mpr (.inl (ihp hp.1 h rest))
    | right h => exact mem_ends_alt.mpr (.inr (ihq hp.2 h rest))
  | many p ih =>
    exact mem_endsRounds_of_reads hp (fun rest h => ih (isSteady_of_isBare hp) h rest) h rest
      (by simp)
  | capture p ih =>
    cases h with
    | capture h => exact mem_ends_capture.mpr ⟨_, ih hp h rest, rfl⟩
  | atStart => cases h
  | atEnd => cases h

/-- **The ends of a match are the ends of the readings.** -/
theorem mem_ends_iff (hfree : p.isFree = true) (hsteady : p.isSteady = true) {d : Cursor} :
    d ∈ p.ends ⟨pos, text, k⟩ ↔
      ∃ w, text = w ++ d.rest ∧ d.pos = pos + w.length ∧ Reads p pos w k d.captured := by
  constructor
  · exact exists_reads_of_mem_ends hfree
  · obtain ⟨pos', rest, l⟩ := d
    rintro ⟨w, rfl, rfl, h⟩
    exact mem_ends_of_reads hsteady h rest

/-- There is no match at a place exactly if nothing that starts there belongs to the language. -/
theorem ends_eq_nil_iff (hfree : p.isFree = true) (hsteady : p.isSteady = true) :
    p.ends ⟨pos, text, k⟩ = [] ↔ ∀ w rest, text = w ++ rest → w ∉ p.language := by
  rw [List.eq_nil_iff_forall_not_mem]
  constructor
  · rintro h w rest rfl hw
    obtain ⟨l, hl⟩ := exists_reads hw pos k
    exact h _ (mem_ends_of_reads hsteady hl rest)
  · intro h d hd
    obtain ⟨w, hw, -, hreads⟩ := (mem_ends_iff hfree hsteady).mp hd
    exact h w d.rest hw (mem_language_of_reads hreads)

/-! ## Languages of written patterns -/

theorem language_append : (p ++ q).language = p.language * q.language :=
  rfl

theorem mem_language_someOf :
    w ∈ (someOf s).language ↔ w ≠ [] ∧ ∀ a ∈ w, s.contains a = true := by
  constructor
  · intro h
    obtain ⟨u, ⟨a, ha, rfl⟩, v, hv, rfl⟩ := Language.mem_mul.mp h
    exact ⟨by simp, List.forall_mem_cons.mpr ⟨ha, hv⟩⟩
  · rintro ⟨hne, hw⟩
    obtain ⟨a, w, rfl⟩ := List.exists_cons_of_ne_nil hne
    obtain ⟨ha, hw⟩ := List.forall_mem_cons.mp hw
    exact Language.append_mem_mul (a := [a]) ⟨a, ha, rfl⟩ hw

theorem mem_language_char {a : Char} : w ∈ (char a).language ↔ w = [a] := by
  constructor
  · rintro ⟨b, hb, rfl⟩
    rw [(CharSet.contains_single a b).mp hb]
  · rintro rfl
    exact ⟨a, (CharSet.contains_single a a).mpr rfl, rfl⟩

theorem mem_language_chars {text : List Char} : w ∈ (chars text).language ↔ w = text := by
  induction text generalizing w with
  | nil => exact Language.mem_one w
  | cons a text ih =>
    cases text with
    | nil => exact mem_language_char
    | cons b text =>
      constructor
      · intro h
        obtain ⟨u, hu, v, hv, rfl⟩ := Language.mem_mul.mp h
        rw [mem_language_char.mp hu, ih.mp hv, List.singleton_append]
      · rintro rfl
        exact Language.append_mem_mul (mem_language_char.mpr rfl) (ih.mpr rfl)

theorem mem_language_text {word : String} :
    w ∈ (Pattern.text word).language ↔ w = word.toList :=
  mem_language_chars

theorem mem_language_oneOf {ps : List Pattern} :
    w ∈ (oneOf ps).language ↔ ∃ p ∈ ps, w ∈ p.language := by
  induction ps with
  | nil =>
    constructor
    · rintro ⟨a, ha, -⟩
      exact absurd ((CharSet.contains_ofChars [] a).mp ha) (List.not_mem_nil)
    · rintro ⟨p, hp, -⟩
      cases hp
  | cons p ps ih =>
    cases ps with
    | nil => simp [oneOf]
    | cons q ps =>
      rw [List.exists_mem_cons_iff, ← ih]
      exact Language.mem_add p.language (oneOf (q :: ps)).language w

/-! ## Characters of a language -/

/-- Whether no text of a pattern has a character of a set. -/
def avoids (outside : CharSet) : Pattern → Bool
  | empty => true
  | one s | run s => s.apart outside
  | seq p q | alt p q => p.avoids outside && q.avoids outside
  | many p | capture p => p.avoids outside
  | atStart | atEnd => true

/-- Whether every text of a pattern ends with a character outside a set, or with `mayStay` is
empty. -/
def shuts (outside : CharSet) : (mayStay : Bool) → Pattern → Bool
  | mayStay, empty => mayStay
  | _, one s => s.apart outside
  | mayStay, run s => mayStay && s.apart outside
  | mayStay, seq p q => shuts outside false q || (shuts outside true q && shuts outside mayStay p)
  | mayStay, alt p q => shuts outside mayStay p && shuts outside mayStay q
  | mayStay, many p => mayStay && shuts outside true p
  | mayStay, capture p => shuts outside mayStay p
  | _, atStart => true
  | _, atEnd => true

theorem contains_of_avoids {outside : CharSet} (hp : p.avoids outside = true)
    (h : w ∈ p.language) : ∀ a ∈ w, outside.contains a = false := by
  induction p generalizing w with
  | empty =>
    obtain rfl := (Language.mem_one w).mp h
    simp
  | one s =>
    obtain ⟨a, ha, rfl⟩ := h
    intro b hb
    obtain rfl := List.mem_singleton.mp hb
    exact CharSet.contains_of_apart hp ha
  | run s => exact fun a ha => CharSet.contains_of_apart hp (h a ha)
  | seq p q ihp ihq =>
    simp only [avoids, Bool.and_eq_true] at hp
    obtain ⟨u, hu, v, hv, rfl⟩ := Language.mem_mul.mp h
    exact List.forall_mem_append.mpr ⟨ihp hp.1 hu, ihq hp.2 hv⟩
  | alt p q ihp ihq =>
    simp only [avoids, Bool.and_eq_true] at hp
    rcases h with h | h
    · exact ihp hp.1 h
    · exact ihq hp.2 h
  | many p ih =>
    obtain ⟨rounds, rfl, hrounds⟩ := Language.mem_kstar.mp h
    intro a ha
    obtain ⟨v, hv, ha⟩ := List.mem_flatten.mp ha
    exact ih hp (hrounds v hv) a ha
  | capture p ih => exact ih hp h
  | atStart => exact absurd h (Language.notMem_zero w)
  | atEnd => exact absurd h (Language.notMem_zero w)

theorem notMem_of_avoids {c : Char} (hp : p.avoids (.ofChars [c]) = true) (h : w ∈ p.language) :
    c ∉ w := by
  intro hmem
  have hnot := contains_of_avoids hp h c hmem
  rw [(CharSet.contains_ofChars [c] c).mpr (List.mem_singleton_self c)] at hnot
  cases hnot

/-- A text starts where a match of it does. -/
theorem exists_head_of_opens {outside : CharSet} (hsteady : p.isSteady = true)
    (hp : p.opens outside false = true) (h : w ∈ p.language) :
    ∃ a t, w = a :: t ∧ outside.contains a = false := by
  obtain ⟨l, hreads⟩ := exists_reads h 0 none
  have hmem := mem_ends_of_reads hsteady hreads []
  rw [List.append_nil] at hmem
  rcases start_of_opens hp hmem with ⟨hfalse, -⟩ | hstart
  · cases hfalse
  · exact hstart

/-- A text that ends with a character outside a set. -/
def EndsOutside (outside : CharSet) (w : List Char) : Prop :=
  ∃ x a, w = x ++ [a] ∧ outside.contains a = false

theorem EndsOutside.append {outside : CharSet} {v : List Char} (h : EndsOutside outside v)
    (u : List Char) : EndsOutside outside (u ++ v) := by
  obtain ⟨x, a, rfl, ha⟩ := h
  exact ⟨u ++ x, a, (List.append_assoc u x [a]).symm, ha⟩

theorem EndsOutside.contains_getLast {outside : CharSet} {w : List Char}
    (h : EndsOutside outside w) : ∀ a ∈ w.getLast?, outside.contains a = false := by
  obtain ⟨x, b, rfl, hb⟩ := h
  intro a ha
  rw [List.getLast?_concat] at ha
  cases ha
  exact hb

theorem endsOutside_of_shuts {outside : CharSet} {mayStay : Bool}
    (hp : p.shuts outside mayStay = true) (h : w ∈ p.language) :
    (mayStay = true ∧ w = []) ∨ EndsOutside outside w := by
  induction p generalizing mayStay w with
  | empty => exact .inl ⟨hp, (Language.mem_one w).mp h⟩
  | one s =>
    obtain ⟨a, ha, rfl⟩ := h
    exact .inr ⟨[], a, rfl, CharSet.contains_of_apart hp ha⟩
  | run s =>
    simp only [shuts, Bool.and_eq_true] at hp
    rcases List.eq_nil_or_concat w with rfl | ⟨x, a, rfl⟩
    · exact .inl ⟨hp.1, rfl⟩
    · exact .inr ⟨x, a, by simp, CharSet.contains_of_apart hp.2 (h a (by simp))⟩
  | seq p q ihp ihq =>
    simp only [shuts, Bool.or_eq_true, Bool.and_eq_true] at hp
    obtain ⟨u, hu, v, hv, rfl⟩ := Language.mem_mul.mp h
    rcases hp with hq | ⟨hq, hp⟩
    · rcases ihq hq hv with ⟨hfalse, -⟩ | hend
      · cases hfalse
      · exact .inr (hend.append u)
    · rcases ihq hq hv with ⟨-, rfl⟩ | hend
      · rw [List.append_nil]
        exact ihp hp hu
      · exact .inr (hend.append u)
  | alt p q ihp ihq =>
    simp only [shuts, Bool.and_eq_true] at hp
    rcases h with h | h
    · exact ihp hp.1 h
    · exact ihq hp.2 h
  | many p ih =>
    simp only [shuts, Bool.and_eq_true] at hp
    obtain ⟨rounds, rfl, hrounds⟩ := Language.mem_kstar.mp h
    clear h
    -- the last round over anything decides the last character
    induction rounds with
    | nil => exact .inl ⟨hp.1, rfl⟩
    | cons v rounds ihr =>
      obtain ⟨hv, hrounds⟩ := List.forall_mem_cons.mp hrounds
      rw [List.flatten_cons]
      rcases ihr hrounds with ⟨-, hnil⟩ | hend
      · rw [hnil, List.append_nil]
        rcases ih hp.2 hv with ⟨-, rfl⟩ | hend
        · exact .inl ⟨hp.1, rfl⟩
        · exact .inr hend
      · exact .inr (hend.append v)
  | capture p ih => exact ih hp h
  | atStart => exact absurd h (Language.notMem_zero w)
  | atEnd => exact absurd h (Language.notMem_zero w)

/-! ## One captured part -/

/-- Whether a pattern is a sequence of which just one part is captured. -/
def capturesOnce : Pattern → Bool
  | seq p q => if p.isBare then q.capturesOnce else p.capturesOnce && q.isBare
  | capture p => p.isBare
  | _ => false

/-- What comes before the captured part of a sequence. -/
def lead : Pattern → Pattern
  | seq p q => if p.isBare then seq p q.lead else p.lead
  | _ => empty

/-- The captured part of a sequence. -/
def core : Pattern → Pattern
  | seq p q => if p.isBare then q.core else p.core
  | capture p => p
  | _ => empty

/-- What comes after the captured part of a sequence. -/
def trail : Pattern → Pattern
  | seq p q => if p.isBare then q.trail else seq p.trail q
  | _ => empty

/-- A reading of such a pattern captures what its captured part goes over. -/
theorem exists_of_reads_of_capturesOnce (hp : p.capturesOnce = true) (h : Reads p pos w k l) :
    ∃ x n y, w = x ++ n ++ y ∧ x ∈ p.lead.language ∧ n ∈ p.core.language ∧
      y ∈ p.trail.language ∧ l = some ⟨pos + x.length, pos + (x ++ n).length⟩ := by
  induction h with
  | @seq p q pos v w k l m hv hw ihp ihq =>
    cases hbare : p.isBare with
    | true =>
      simp only [capturesOnce, hbare, if_true] at hp
      obtain ⟨x, n, y, rfl, hx, hn, hy, rfl⟩ := ihq hp
      simp only [lead, core, trail, hbare, if_true]
      refine ⟨v ++ x, n, y, by simp, ?_, hn, hy, by simp [Nat.add_assoc]⟩
      exact Language.append_mem_mul (mem_language_of_reads hv) hx
    | false =>
      simp only [capturesOnce, hbare, Bool.false_eq_true, if_false, Bool.and_eq_true] at hp
      obtain ⟨x, n, y, rfl, hx, hn, hy, rfl⟩ := ihp hp.1
      simp only [lead, core, trail, hbare, Bool.false_eq_true, if_false]
      refine ⟨x, n, y ++ w, by simp, hx, hn, ?_, hw.eq_of_isBare hp.2⟩
      exact Language.append_mem_mul hy (mem_language_of_reads hw)
  | @capture p pos w k l hw _ =>
    exact ⟨[], w, [], by simp, Language.nil_mem_one, mem_language_of_reads hw,
      Language.nil_mem_one, rfl⟩
  | _ => simp [capturesOnce] at hp

/-- What comes before, in and after the captured part is read together. -/
theorem reads_of_capturesOnce (hp : p.capturesOnce = true) {x n y : List Char}
    (hx : x ∈ p.lead.language) (hn : n ∈ p.core.language) (hy : y ∈ p.trail.language) (pos : Nat)
    (k : Option Span) :
    Reads p pos (x ++ n ++ y) k (some ⟨pos + x.length, pos + (x ++ n).length⟩) := by
  induction p generalizing x y pos k with
  | seq p q ihp ihq =>
    cases hbare : p.isBare with
    | true =>
      simp only [capturesOnce, lead, core, trail, hbare, if_true] at hp hx hn hy
      obtain ⟨v, hv, x, hrest, rfl⟩ := Language.mem_mul.mp hx
      obtain ⟨l, hreads⟩ := exists_reads hv pos k
      obtain rfl : l = k := hreads.eq_of_isBare hbare
      have hrest := ihq hp hrest hn hy (pos + v.length) l
      simpa [Nat.add_assoc] using hreads.seq hrest
    | false =>
      simp only [capturesOnce, lead, core, trail, hbare, Bool.false_eq_true, if_false,
        Bool.and_eq_true] at hp hx hn hy
      obtain ⟨y, hfirst, w, hw, rfl⟩ := Language.mem_mul.mp hy
      have hfirst := ihp hp.1 hx hn hfirst pos k
      obtain ⟨l, hreads⟩ := exists_reads hw (pos + (x ++ n ++ y).length)
        (some ⟨pos + x.length, pos + (x ++ n).length⟩)
      obtain rfl := hreads.eq_of_isBare hp.2
      rw [← List.append_assoc]
      exact hfirst.seq hreads
  | capture p _ =>
    obtain rfl := (Language.mem_one x).mp hx
    obtain rfl := (Language.mem_one y).mp hy
    obtain ⟨l, hreads⟩ := exists_reads (p := p) hn pos k
    simpa using hreads.capture
  | _ => simp [capturesOnce] at hp

/-! ## Searching -/

/-- A search finds nothing exactly if there is no match at any place. -/
theorem searchFrom_eq_none_iff :
    p.searchFrom pos text = none ↔
      ∀ u v, text = u ++ v → p.hitAt (pos + u.length) v = none := by
  constructor
  · intro h u v huv
    induction u generalizing pos text with
    | nil =>
      obtain rfl : text = v := huv
      cases hhit : p.hitAt pos text with
      | none => rfl
      | some hit =>
        rw [searchFrom_eq_of_hitAt hhit] at h
        cases h
    | cons a u ih =>
      subst huv
      rw [List.cons_append, searchFrom, Option.orElse_eq_orElse, Option.orElse_eq_or,
        Option.or_eq_none_iff] at h
      rw [List.length_cons, Nat.add_comm u.length, ← Nat.add_assoc]
      exact ih h.2 rfl
  · intro h
    cases hsearch : p.searchFrom pos text with
    | none => rfl
    | some hit =>
      obtain ⟨u, v, huv, hhit, -⟩ := exists_of_searchFrom hsearch
      rw [h u v huv] at hhit
      cases hhit

/-- Patterns with the same match at every place find the same. -/
theorem searchFrom_congr
    (h : ∀ u v, text = u ++ v → p.hitAt (pos + u.length) v = q.hitAt (pos + u.length) v) :
    p.searchFrom pos text = q.searchFrom pos text := by
  induction text generalizing pos with
  | nil => exact h [] [] rfl
  | cons a text ih =>
    have hhere : p.hitAt pos (a :: text) = q.hitAt pos (a :: text) := h [] (a :: text) rfl
    rw [searchFrom, searchFrom, hhere]
    congr 1
    funext _
    refine ih fun u v huv => ?_
    have hplace := h (a :: u) v (by rw [huv, List.cons_append])
    rwa [List.length_cons, Nat.add_comm u.length, ← Nat.add_assoc] at hplace

variable {line : List Char} {hit : Hit}

/-- **A search finds nothing** exactly if no stretch of the line belongs to the language. -/
theorem search_eq_none_iff (hfree : p.isFree = true) (hsteady : p.isSteady = true) :
    p.search line = none ↔ ∀ u w v, line = u ++ w ++ v → w ∉ p.language := by
  rw [search, searchFrom_eq_none_iff]
  simp only [hitAt_eq_none_iff, ends_eq_nil_iff hfree hsteady]
  constructor
  · intro h u w v huwv
    exact h u (w ++ v) (by rw [huwv, List.append_assoc]) w v rfl
  · rintro h u _ huv w v rfl
    exact h u w v (by rw [huv, List.append_assoc])

/-- **A search finds something** exactly if some stretch of the line belongs to the language. -/
theorem isSome_search_iff (hfree : p.isFree = true) (hsteady : p.isSteady = true) :
    (p.search line).isSome = true ↔
      ∃ s : Span, s.Inside line ∧ s.slice line ∈ p.language := by
  rw [Option.isSome_iff_ne_none, ne_eq, search_eq_none_iff hfree hsteady, not_forall]
  constructor
  · rintro ⟨u, h⟩
    push Not at h
    obtain ⟨w, v, rfl, hw⟩ := h
    refine ⟨_, Span.inside_between u w v, ?_⟩
    rwa [Span.slice_between]
  · rintro ⟨s, hs, hmem⟩
    obtain ⟨u, v, hline, -⟩ := hs.exists_append
    exact ⟨u, fun h => h _ v hline hmem⟩

/-- **What a search finds** is a reading of a stretch of the line, and no stretch that starts
further left belongs to the language. -/
theorem reads_of_search (hfree : p.isFree = true) (hsteady : p.isSteady = true)
    (h : p.search line = some hit) :
    hit.span.Inside line ∧ Reads p hit.span.start (hit.span.slice line) none hit.captured ∧
      ∀ s : Span, s.Inside line → s.slice line ∈ p.language → hit.span.start ≤ s.start := by
  obtain ⟨u, tail, rfl, hhit, hfirst⟩ := exists_of_searchFrom h
  rw [Nat.zero_add, hitAt_eq] at hhit
  obtain ⟨d, hd, rfl⟩ := Option.map_eq_some_iff.mp hhit
  obtain ⟨w, hw, hpos, hreads⟩ := (mem_ends_iff hfree hsteady).mp (List.mem_of_mem_head? hd)
  obtain rfl : tail = w ++ d.rest := hw
  rw [hpos, ← List.append_assoc, Span.slice_between]
  refine ⟨Span.inside_between u w d.rest, hreads, fun s hs hmem => Nat.le_of_not_lt fun hlt => ?_⟩
  obtain ⟨u', v', hline, hstart⟩ := hs.exists_append
  rw [List.append_assoc, List.append_assoc] at hline
  have hnone := hfirst u' _ hline (hstart ▸ hlt)
  rw [hitAt_eq_none_iff, ends_eq_nil_iff hfree hsteady] at hnone
  exact hnone _ v' rfl (by rwa [List.append_assoc] at hmem)

end Pattern

end Relocation
