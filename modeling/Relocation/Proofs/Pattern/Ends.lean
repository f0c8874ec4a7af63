import Mathlib.Data.List.Basic
import Relocation.Pattern.Sweep

/-!
# The ends of a match

`Pattern.attempt` hands the places it reaches to a continuation, one after another. `Pattern.ends`
lists these places: the cursors at which a match from a given cursor can end, the preferred ones
first.

* `Pattern.attempt_eq_findSome?` — **an attempt is a look through the ends**,
* `Pattern.exists_of_mem_ends` — an end lies ahead, with some characters gone over on the way,
* `Pattern.mem_ends_one`, `mem_ends_run`, `mem_ends_text`, ... — the ends of each kind of pattern,
* `Pattern.filter_ends_frame` — the ends in a longer line, among those in the line itself.
-/

namespace Relocation.Pattern

/-! ## The list of ends -/

/-- The ends of any number of rounds, those of more rounds first. -/
def endsRounds (body : Cursor → List Cursor) : (rounds : List Char) → Cursor → List Cursor
  | [], c => [c]
  | _ :: rounds, c =>
    ((body c).filter fun e => e.pos != c.pos).flatMap (endsRounds body rounds) ++ [c]

/-- The cursors at which a match from a cursor can end, in the order in which they are tried. -/
def ends : Pattern → Cursor → List Cursor
  | empty, c => [c]
  | one s, c => (c.step? s).toList
  | run s, c => c.runs s
  | seq p q, c => (p.ends c).flatMap q.ends
  | alt p q, c => p.ends c ++ q.ends c
  | many p, c => endsRounds p.ends c.rest c
  | capture p, c => (p.ends c).map fun e => e.capture c.pos
  | atStart, c => if c.pos = 0 then [c] else []
  | atEnd, c => if c.isEnd then [c] else []

theorem repeated_eq_findSome? {α : Type} {body : (Cursor → Option α) → Cursor → Option α}
    {list : Cursor → List Cursor}
    (hbody : ∀ (next : Cursor → Option α) (c : Cursor), body next c = (list c).findSome? next)
    (next : Cursor → Option α) (rounds : List Char) (c : Cursor) :
    repeated body next rounds c = (endsRounds list rounds c).findSome? next := by
  induction rounds generalizing c with
  | nil => exact (findSome?_single c next).symm
  | cons _ rounds ih =>
    rw [repeated, endsRounds, List.findSome?_append, findSome?_flatMap, findSome?_filter,
      findSome?_single, hbody]
    have hround : ∀ e : Cursor,
        (if e.pos = c.pos then none else repeated body next rounds e) =
          if (e.pos != c.pos) = true then (endsRounds list rounds e).findSome? next else none := by
      intro e
      by_cases h : e.pos = c.pos <;> simp [h, ih]
    simp only [hround, Option.orElse_eq_orElse, Option.orElse_eq_or]

/-- **An attempt is a look through the ends**: its answer is that of the first end with one. -/
theorem attempt_eq_findSome? {α : Type} (p : Pattern) (next : Cursor → Option α) (c : Cursor) :
    p.attempt next c = (p.ends c).findSome? next := by
  induction p generalizing next c with
  | empty => exact (findSome?_single c next).symm
  | one s =>
    rw [attempt, ends]
    cases c.step? s with
    | none => rfl
    | some d => exact (findSome?_single d next).symm
  | run s => rfl
  | seq p q ihp ihq =>
    rw [attempt, ends, findSome?_flatMap, ihp]
    exact findSome?_congr fun d _ => ihq next d
  | alt p q ihp ihq =>
    simp only [attempt, ends, List.findSome?_append, ihp, ihq, Option.orElse_eq_orElse,
      Option.orElse_eq_or]
  | many p ih => exact repeated_eq_findSome? ih next c.rest c
  | capture p ih =>
    rw [attempt, ends, List.findSome?_map, ih]
    rfl
  | atStart =>
    rw [attempt, ends]
    split <;> simp
  | atEnd =>
    rw [attempt, ends]
    split <;> simp

/-- The match at a place is the first end. -/
theorem hitAt_eq (p : Pattern) (pos : Nat) (rest : List Char) :
    p.hitAt pos rest =
      (p.ends ⟨pos, rest, none⟩).head?.map fun e => ⟨⟨pos, e.pos⟩, e.captured⟩ := by
  rw [hitAt, attempt_eq_findSome?]
  cases p.ends ⟨pos, rest, none⟩ <;> simp

theorem hitAt_eq_none_iff {p : Pattern} {pos : Nat} {rest : List Char} :
    p.hitAt pos rest = none ↔ p.ends ⟨pos, rest, none⟩ = [] := by
  rw [hitAt_eq]
  simp

/-! ## Ends lie ahead -/

theorem mem_runsOnto {s : CharSet} {captured : Option Span} {pos : Nat} {text : List Char}
    {near : List Cursor} {d : Cursor} :
    d ∈ Cursor.runsOnto s captured pos text near ↔ d ∈ near ∨
      ∃ w rest, text = w ++ rest ∧ (∀ a ∈ w, s.contains a) ∧
        d = ⟨pos + w.length, rest, captured⟩ := by
  induction text generalizing pos near with
  | nil =>
    constructor
    · intro h
      rcases List.mem_cons.mp h with rfl | h
      · exact .inr ⟨[], [], rfl, by simp, rfl⟩
      · exact .inl h
    · rintro (h | ⟨w, rest, he, -, rfl⟩)
      · exact List.mem_cons_of_mem _ h
      · obtain ⟨rfl, rfl⟩ := List.append_eq_nil_iff.mp he.symm
        exact List.mem_cons_self
  | cons a text ih =>
    simp only [Cursor.runsOnto]
    split
    · next ha =>
      rw [ih]
      constructor
      · rintro (h | ⟨w, rest, rfl, hw, rfl⟩)
        · rcases List.mem_cons.mp h with rfl | h
          · exact .inr ⟨[], a :: text, rfl, by simp, rfl⟩
          · exact .inl h
        · refine .inr ⟨a :: w, rest, rfl, ?_, by simp [Nat.add_assoc, Nat.add_comm 1]⟩
          simpa [ha] using hw
      · rintro (h | ⟨w, rest, he, hw, rfl⟩)
        · exact .inl (List.mem_cons_of_mem _ h)
        · cases w with
          | nil =>
            obtain rfl : a :: text = rest := he
            exact .inl List.mem_cons_self
          | cons b w =>
            obtain ⟨rfl, rfl⟩ := List.cons.inj he
            refine .inr ⟨w, rest, rfl, fun x hx => hw x (List.mem_cons_of_mem _ hx), ?_⟩
            simp [Nat.add_assoc, Nat.add_comm 1]
    · next ha =>
      constructor
      · intro h
        rcases List.mem_cons.mp h with rfl | h
        · exact .inr ⟨[], a :: text, rfl, by simp, rfl⟩
        · exact .inl h
      · rintro (h | ⟨w, rest, he, hw, rfl⟩)
        · exact List.mem_cons_of_mem _ h
        · cases w with
          | nil =>
            obtain rfl : a :: text = rest := he
            exact List.mem_cons_self
          | cons b w =>
            obtain ⟨rfl, -⟩ := List.cons.inj he
            exact absurd (hw a List.mem_cons_self) ha

variable {p q : Pattern} {s : CharSet} {pos : Nat} {text : List Char} {captured : Option Span}
  {c d e : Cursor}

theorem mem_ends_one :
    d ∈ (one s).ends ⟨pos, text, captured⟩ ↔
      ∃ a rest, text = a :: rest ∧ s.contains a ∧ d = ⟨pos + 1, rest, captured⟩ := by
  cases text with
  | nil => simp [ends, Cursor.step?]
  | cons a rest =>
    simp only [ends, Cursor.step?]
    split
    · next ha => simp [ha]
    · next ha => simp [ha]

theorem mem_ends_run :
    d ∈ (run s).ends ⟨pos, text, captured⟩ ↔
      ∃ w rest, text = w ++ rest ∧ (∀ a ∈ w, s.contains a) ∧
        d = ⟨pos + w.length, rest, captured⟩ := by
  rw [ends, Cursor.runs, mem_runsOnto]
  simp

theorem mem_ends_seq : e ∈ (seq p q).ends c ↔ ∃ d ∈ p.ends c, e ∈ q.ends d :=
  List.mem_flatMap

theorem mem_ends_alt : d ∈ (alt p q).ends c ↔ d ∈ p.ends c ∨ d ∈ q.ends c :=
  List.mem_append

theorem mem_ends_capture :
    e ∈ (capture p).ends c ↔ ∃ d ∈ p.ends c, d.capture c.pos = e :=
  List.mem_map

theorem mem_ends_atStart : d ∈ atStart.ends c ↔ c.pos = 0 ∧ d = c := by
  rw [ends]
  split <;> simp_all

theorem mem_ends_atEnd : d ∈ atEnd.ends c ↔ (c.rest = [] ∨ c.rest = ['\n']) ∧ d = c := by
  rw [ends]
  split <;> simp_all [Cursor.isEnd]

/-- A property of cursors that every moving round of a pattern keeps holds after all rounds. -/
theorem of_mem_endsRounds {body : Cursor → List Cursor} {P : Cursor → Prop}
    (hbody : ∀ c d : Cursor, P c → d ∈ body c → d.pos ≠ c.pos → P d) {rounds : List Char}
    (hc : P c) (h : e ∈ endsRounds body rounds c) : P e := by
  induction rounds generalizing c with
  | nil =>
    obtain rfl := List.mem_singleton.mp h
    exact hc
  | cons _ rounds ih =>
    rcases List.mem_append.mp h with h | h
    · obtain ⟨d, hd, he⟩ := List.mem_flatMap.mp h
      obtain ⟨hd, hmoved⟩ := List.mem_filter.mp hd
      exact ih (hbody c d hc hd (by simpa using hmoved)) he
    · obtain rfl := List.mem_singleton.mp h
      exact hc

/-- An end lies ahead: it is reached by going over some characters. -/
theorem exists_of_mem_ends (h : d ∈ p.ends c) :
    ∃ w, c.rest = w ++ d.rest ∧ d.pos = c.pos + w.length := by
  induction p generalizing c d with
  | empty =>
    obtain rfl := List.mem_singleton.mp h
    exact ⟨[], rfl, rfl⟩
  | one s =>
    obtain ⟨a, rest, hrest, -, rfl⟩ := mem_ends_one.mp h
    exact ⟨[a], hrest, rfl⟩
  | run s =>
    obtain ⟨w, rest, hrest, -, rfl⟩ := mem_ends_run.mp h
    exact ⟨w, hrest, rfl⟩
  | seq p q ihp ihq =>
    obtain ⟨e, he, hd⟩ := mem_ends_seq.mp h
    obtain ⟨w, hw, hpos⟩ := ihp he
    obtain ⟨v, hv, hpos'⟩ := ihq hd
    refine ⟨w ++ v, by rw [hw, hv, List.append_assoc], ?_⟩
    rw [hpos', hpos, List.length_append, Nat.add_assoc]
  | alt p q ihp ihq =>
    rcases mem_ends_alt.mp h with h | h
    · exact ihp h
    · exact ihq h
  | many p ih =>
    refine of_mem_endsRounds (P := fun e => ∃ w, c.rest = w ++ e.rest ∧ e.pos = c.pos + w.length)
      (fun e f he hf _ => ?_) ⟨[], rfl, rfl⟩ h
    obtain ⟨w, hw, hpos⟩ := he
    obtain ⟨v, hv, hpos'⟩ := ih hf
    refine ⟨w ++ v, by rw [hw, hv, List.append_assoc], ?_⟩
    rw [hpos', hpos, List.length_append, Nat.add_assoc]
  | capture p ih =>
    obtain ⟨e, he, rfl⟩ := mem_ends_capture.mp h
    obtain ⟨w, hw, hpos⟩ := ih he
    exact ⟨w, hw, hpos⟩
  | atStart =>
    obtain ⟨-, rfl⟩ : c.pos = 0 ∧ d = c := by simpa [ends] using h
    exact ⟨[], rfl, rfl⟩
  | atEnd =>
    obtain ⟨-, rfl⟩ : c.isEnd = true ∧ d = c := by simpa [ends] using h
    exact ⟨[], rfl, rfl⟩

theorem length_rest_le (h : d ∈ p.ends c) : d.rest.length ≤ c.rest.length := by
  obtain ⟨w, hw, -⟩ := exists_of_mem_ends h
  rw [hw, List.length_append]
  omega

/-- A match that moves the cursor leaves less ahead. -/
theorem length_rest_lt (h : d ∈ p.ends c) (hmoved : d.pos ≠ c.pos) :
    d.rest.length < c.rest.length := by
  obtain ⟨w, hw, hpos⟩ := exists_of_mem_ends h
  rw [hw, List.length_append]
  omega

/-! ## Written patterns -/

theorem mem_ends_append : e ∈ (p ++ q).ends c ↔ ∃ d ∈ p.ends c, e ∈ q.ends d :=
  mem_ends_seq

theorem mem_ends_someOf :
    d ∈ (someOf s).ends ⟨pos, text, captured⟩ ↔
      ∃ w rest, w ≠ [] ∧ text = w ++ rest ∧ (∀ a ∈ w, s.contains a) ∧
        d = ⟨pos + w.length, rest, captured⟩ := by
  rw [someOf, mem_ends_seq]
  constructor
  · rintro ⟨e, he, hd⟩
    obtain ⟨a, rest, rfl, ha, rfl⟩ := mem_ends_one.mp he
    obtain ⟨w, rest, rfl, hw, rfl⟩ := mem_ends_run.mp hd
    refine ⟨a :: w, rest, by simp, rfl, by simpa [ha] using hw, ?_⟩
    simp [Nat.add_assoc, Nat.add_comm 1]
  · rintro ⟨w, rest, hne, rfl, hw, rfl⟩
    obtain ⟨a, w, rfl⟩ := List.exists_cons_of_ne_nil hne
    obtain ⟨ha, hw⟩ := List.forall_mem_cons.mp hw
    refine ⟨⟨pos + 1, w ++ rest, captured⟩, mem_ends_one.mpr ⟨a, _, rfl, ha, rfl⟩, ?_⟩
    refine mem_ends_run.mpr ⟨w, rest, rfl, hw, ?_⟩
    simp [Nat.add_assoc, Nat.add_comm 1]

theorem mem_ends_char {a : Char} :
    d ∈ (char a).ends ⟨pos, text, captured⟩ ↔
      ∃ rest, text = a :: rest ∧ d = ⟨pos + 1, rest, captured⟩ := by
  rw [char, mem_ends_one]
  simp [CharSet.contains_single]

theorem mem_ends_chars {w : List Char} :
    d ∈ (chars w).ends ⟨pos, text, captured⟩ ↔
      ∃ rest, text = w ++ rest ∧ d = ⟨pos + w.length, rest, captured⟩ := by
  induction w generalizing pos text with
  | nil => simp [chars, ends]
  | cons a w ih =>
    cases w with
    | nil => simpa [chars] using mem_ends_char
    | cons b w =>
      rw [chars, mem_ends_seq]
      · constructor
        · rintro ⟨e, he, hd⟩
          obtain ⟨rest, rfl, rfl⟩ := mem_ends_char.mp he
          obtain ⟨rest, rfl, rfl⟩ := ih.mp hd
          exact ⟨rest, rfl, by simp [Nat.add_assoc, Nat.add_comm 1]⟩
        · rintro ⟨rest, rfl, rfl⟩
          refine ⟨_, mem_ends_char.mpr ⟨b :: w ++ rest, rfl, rfl⟩, ih.mpr ⟨rest, rfl, ?_⟩⟩
          simp [Nat.add_assoc, Nat.add_comm 1]
      · simp

theorem mem_ends_text {word : String} :
    d ∈ (Pattern.text word).ends ⟨pos, text, captured⟩ ↔
      ∃ rest, text = word.toList ++ rest ∧ d = ⟨pos + word.toList.length, rest, captured⟩ :=
  mem_ends_chars

theorem mem_ends_oneOf {ps : List Pattern} : d ∈ (oneOf ps).ends c ↔ ∃ p ∈ ps, d ∈ p.ends c := by
  induction ps with
  | nil =>
    obtain ⟨pos, text, captured⟩ := c
    rw [oneOf, mem_ends_one]
    simp [CharSet.contains_ofChars]
  | cons p ps ih =>
    cases ps with
    | nil => simp [oneOf]
    | cons q ps =>
      rw [oneOf, mem_ends_alt, ih]
      · simp
      · simp

theorem mem_ends_opt : d ∈ (opt p).ends c ↔ d ∈ p.ends c ∨ d = c := by
  rw [opt, mem_ends_alt, ends, List.mem_singleton]

end Relocation.Pattern
