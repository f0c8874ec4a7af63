import Relocation.Proofs.Signature.Subsumption
import Relocation.Proofs.Signature.Trimming

/-!
# Calls by a scan

A search for the first style may start at a modifier or in the middle of a word, and may take a
modifier for the name. All the same, what it finds is told by one pass over the line: of the runs
of identifier characters, the name is the first one from whose end a call goes on.

* `IsRun` — a run of identifier characters, as long as it can be,
* `Style.opensCall` — whether a call goes on from the end of its name,
* `Style.firstCall` — the pass over the line,
* `Style.search_braceOrArrow_eq_firstCall` — **the search and the pass find the same name**, and
  the modifiers in front of it do not matter.
-/

namespace Relocation

/-! ## Runs -/

/-- Of two ways to divide a text, the one that divides it further left leaves more. -/
theorem exists_append_of_length_le {x r y t : List Char} (h : x ++ r = y ++ t)
    (hle : x.length ≤ y.length) : ∃ d, y = x ++ d ∧ r = d ++ t := by
  rcases List.append_eq_append_iff.mp h with ⟨d, hy, hr⟩ | ⟨d, hx, ht⟩
  · exact ⟨d, hy, hr⟩
  · have hlength := congrArg List.length hx
    rw [List.length_append] at hlength
    obtain rfl : d = [] := List.length_eq_zero_iff.mp (by omega)
    exact ⟨[], by simpa using hx.symm, ht.symm⟩

/-- What a text starts with ends before a character that it does not have. -/
theorem exists_append_of_notMem {c : Char} {x r y t : List Char} (hx : c ∉ x)
    (h : x ++ r = y ++ c :: t) : ∃ d, y = x ++ d ∧ r = d ++ c :: t := by
  refine exists_append_of_length_le h (Nat.le_of_not_lt fun hlt => hx ?_)
  obtain ⟨d, rfl, hd⟩ := exists_append_of_length_le h.symm (Nat.le_of_lt hlt)
  obtain ⟨b, d, rfl⟩ := List.exists_cons_of_ne_nil (l := d) (by rintro rfl; simp at hlt)
  obtain ⟨rfl, -⟩ := List.cons.inj hd
  simp

/-- A place right after characters of one kind comes right after none of the other kind. -/
theorem eq_nil_of_getLast_append {P : Char → Prop} {before d : List Char} (hd : ∀ c ∈ d, ¬P c)
    (hlast : ∀ c ∈ (before ++ d).getLast?, P c) : d = [] := by
  by_contra hne
  refine hd _ (List.getLast_mem hne) (hlast _ ?_)
  rw [List.getLast?_append_of_ne_nil _ hne, List.getLast?_eq_some_getLast hne]
  rfl

/-- A run of identifier characters in a line that cannot be made longer. -/
structure IsRun (line before run after : List Char) : Prop where
  line_eq : line = before ++ run ++ after
  ne_nil : run ≠ []
  word : ∀ a ∈ run, CharSet.word.contains a = true
  before_last : ∀ a ∈ before.getLast?, CharSet.word.contains a = false
  after_head : ∀ a ∈ after.head?, CharSet.word.contains a = false

/-- Of two runs that start at different places, the first ends before the second starts. -/
theorem IsRun.length_lt {line before run after before' run' after' : List Char}
    (h : IsRun line before run after) (h' : IsRun line before' run' after')
    (hlt : before.length < before'.length) : (before ++ run).length < before'.length := by
  by_contra hle
  have hline : before ++ (run ++ after) = before' ++ (run' ++ after') := by
    rw [← List.append_assoc, ← h.line_eq, h'.line_eq, List.append_assoc]
  -- else the second run starts inside the first one, right after a character of it
  obtain ⟨part, rfl, hrest⟩ := exists_append_of_length_le hline (Nat.le_of_lt hlt)
  simp only [List.length_append] at hlt hle
  have hpart : part <+: run := by
    refine List.prefix_of_prefix_length_le ⟨run' ++ after', hrest.symm⟩ ⟨after, rfl⟩ (by omega)
  have hword : ∀ a ∈ part, ¬CharSet.word.contains a = false :=
    fun a ha => ne_false_of_eq_true (h.word a (hpart.subset ha))
  obtain rfl := eq_nil_of_getLast_append hword h'.before_last
  simp at hlt

/-- Of two runs that start at different places, the second one comes after the first. -/
theorem IsRun.exists_between {line before run after before' run' after' : List Char}
    (h : IsRun line before run after) (h' : IsRun line before' run' after')
    (hlt : before.length < before'.length) :
    ∃ d, before' = before ++ run ++ d ∧ after = d ++ (run' ++ after') := by
  refine exists_append_of_length_le ?_ (Nat.le_of_lt (h.length_lt h' hlt))
  rw [← h.line_eq, h'.line_eq, List.append_assoc]

/-- There is one run at a place. -/
theorem IsRun.unique {line before run after before' run' after' : List Char}
    (h : IsRun line before run after) (h' : IsRun line before' run' after')
    (heq : before.length = before'.length) : before = before' ∧ run = run' ∧ after = after' := by
  have hline : before ++ (run ++ after) = before' ++ (run' ++ after') := by
    rw [← List.append_assoc, ← h.line_eq, h'.line_eq, List.append_assoc]
  obtain ⟨hbefore, hrest⟩ := List.append_inj hline heq
  obtain ⟨hrun, hafter⟩ :=
    Style.append_inj_of_head h.word h'.word h.after_head h'.after_head hrest
  exact ⟨hbefore, hrun, hafter⟩

/-- White space, with something after it that is no word, does not start with a word. -/
theorem contains_head_blank_append {g r : List Char} {c : Char}
    (hg : ∀ a ∈ g, CharSet.blank.contains a = true) (hc : CharSet.word.contains c = false) :
    ∀ a ∈ (g ++ c :: r).head?, CharSet.word.contains a = false := by
  intro a ha
  cases g with
  | nil =>
    cases ha
    exact hc
  | cons b g =>
    cases ha
    exact CharSet.contains_of_apart (s := .blank) (by decide) (hg a List.mem_cons_self)

namespace Style

open Pattern

/-! ## From the end of a name -/

/-- What comes after a parameter list: white space, an opening parenthesis, and everything up to
the first closing one are gone over. -/
def afterParameters? (rest : List Char) : Option (List Char) :=
  match Text.trimStart .blank rest with
  | '(' :: inner => (Text.trimStart (.allBut [')']) inner).tail?
  | _ => none

/-- Whether a text starts with a brace or an arrow. -/
def opensBody : List Char → Bool
  | '\x7b' :: _ => true
  | '=' :: '>' :: _ => true
  | _ => false

/-- Whether a call goes on from the end of its name: by a parameter list and then, after white
space, a brace or an arrow. -/
def opensCall (rest : List Char) : Bool :=
  (afterParameters? rest).any fun tail => opensBody (Text.trimStart .blank tail)

theorem trimStart_eq_iff {s : CharSet} {text r : List Char} :
    Text.trimStart s text = r ↔
      ∃ x, text = x ++ r ∧ (∀ a ∈ x, s.contains a = true) ∧
        ∀ a ∈ r.head?, s.contains a = false := by
  constructor
  · rintro rfl
    obtain ⟨x, htext, hx⟩ := Text.exists_trimStart s text
    refine ⟨x, htext, hx, fun a ha => ?_⟩
    have hstop := List.head?_dropWhile_not s.contains text
    rw [Text.trimStart, Option.mem_def] at ha
    rwa [ha] at hstop
  · rintro ⟨x, rfl, hx, hr⟩
    obtain ⟨y, htext, hy⟩ := Text.exists_trimStart s (x ++ r)
    refine (append_inj_of_head hx hy hr (fun a ha => ?_) htext).2.symm
    have hstop := List.head?_dropWhile_not s.contains (x ++ r)
    rw [Text.trimStart, Option.mem_def] at ha
    rwa [ha] at hstop

theorem afterParameters?_eq_some_iff {rest tail : List Char} :
    afterParameters? rest = some tail ↔ ∃ g q, rest = g ++ '(' :: (q ++ ')' :: tail) ∧
      (∀ a ∈ g, CharSet.blank.contains a = true) ∧ ')' ∉ q := by
  constructor
  · intro h
    rw [afterParameters?] at h
    split at h
    · next inner hopen =>
      obtain ⟨close, hclose⟩ : ∃ close, Text.trimStart (.allBut [')']) inner = close :: tail := by
        cases htrim : Text.trimStart (.allBut [')']) inner with
        | nil => simp [htrim] at h
        | cons close rest =>
          rw [htrim] at h
          exact ⟨close, by rw [← Option.some.inj h]⟩
      obtain ⟨g, rfl, hg, -⟩ := trimStart_eq_iff.mp hopen
      obtain ⟨q, rfl, hq, hparen⟩ := trimStart_eq_iff.mp hclose
      have hparen := hparen close rfl
      rw [← Bool.not_eq_true, CharSet.contains_allBut, not_not, List.mem_singleton] at hparen
      refine ⟨g, q, by rw [hparen], hg, fun hmem => ?_⟩
      exact (CharSet.contains_allBut _ _).mp (hq _ hmem) (List.mem_singleton_self _)
    · cases h
  · rintro ⟨g, q, rfl, hg, hq⟩
    have hopen : Text.trimStart .blank (g ++ '(' :: (q ++ ')' :: tail)) =
        '(' :: (q ++ ')' :: tail) :=
      trimStart_eq_iff.mpr ⟨g, rfl, hg, by simp; decide⟩
    have hclose : Text.trimStart (.allBut [')']) (q ++ ')' :: tail) = ')' :: tail := by
      refine trimStart_eq_iff.mpr ⟨q, rfl, fun a ha => ?_, by simp; decide⟩
      exact (CharSet.contains_allBut _ _).mpr fun h => hq (List.mem_singleton.mp h ▸ ha)
    rw [afterParameters?, hopen]
    simp only [hclose, List.tail?_cons]

/-- A text that starts with a text of a language. -/
def StartsIn (l : Language Char) (text : List Char) : Prop :=
  ∃ z v, text = z ++ v ∧ z ∈ l

theorem mem_language_parameters {w : List Char} :
    w ∈ parameters.language ↔ ∃ q, w = '(' :: (q ++ [')']) ∧ ')' ∉ q := by
  constructor
  · rintro ⟨_, ⟨_, hopen, q, hq, rfl⟩, _, hclose, rfl⟩
    obtain rfl := mem_language_char.mp hopen
    obtain rfl := mem_language_char.mp hclose
    refine ⟨q, by simp, fun hmem => ?_⟩
    exact (CharSet.contains_allBut _ _).mp (hq _ hmem) (List.mem_singleton_self _)
  · rintro ⟨q, rfl, hq⟩
    refine Language.append_mem_mul (a := '(' :: q) (b := [')']) ?_ (mem_language_char.mpr rfl)
    refine Language.append_mem_mul (a := ['(']) (mem_language_char.mpr rfl) fun a ha => ?_
    exact (CharSet.contains_allBut _ _).mpr fun h => hq (List.mem_singleton.mp h ▸ ha)

/-- Parameters can be gone over in one way only. -/
theorem startsIn_parameters_iff {m : Language Char} {rest : List Char} :
    StartsIn (gap.language * (parameters.language * m)) rest ↔
      ∃ tail, afterParameters? rest = some tail ∧ StartsIn m tail := by
  constructor
  · rintro ⟨_, v, rfl, g, hg, _, ⟨w, hw, z, hz, rfl⟩, rfl⟩
    obtain ⟨q, rfl, hq⟩ := mem_language_parameters.mp hw
    exact ⟨z ++ v, afterParameters?_eq_some_iff.mpr ⟨g, q, by simp, hg, hq⟩, z, v, rfl, hz⟩
  · rintro ⟨_, htail, z, v, rfl, hz⟩
    obtain ⟨g, q, rfl, hg, hq⟩ := afterParameters?_eq_some_iff.mp htail
    refine ⟨g ++ ('(' :: (q ++ [')']) ++ z), v, by simp, Language.append_mem_mul hg ?_⟩
    exact Language.append_mem_mul (mem_language_parameters.mpr ⟨q, rfl, hq⟩) hz

/-- White space can be gone over in one way only, if what comes after it does not start with any. -/
theorem startsIn_gap_iff {m : Language Char} {rest : List Char}
    (hm : ∀ z ∈ m, ∃ a ∈ z.head?, CharSet.blank.contains a = false) :
    StartsIn (gap.language * m) rest ↔ StartsIn m (Text.trimStart .blank rest) := by
  constructor
  · rintro ⟨_, v, rfl, g, hg, z, hz, rfl⟩
    refine ⟨z, v, trimStart_eq_iff.mpr ⟨g, by simp, hg, fun a ha => ?_⟩, hz⟩
    obtain ⟨b, hb, hblank⟩ := hm z hz
    rw [List.head?_append, hb, Option.some_or] at ha
    cases ha
    exact hblank
  · rintro ⟨z, v, htrim, hz⟩
    obtain ⟨g, rfl, hg, -⟩ := trimStart_eq_iff.mp htrim
    exact ⟨g ++ z, v, by simp, Language.append_mem_mul hg hz⟩

theorem opensBody_iff {tail : List Char} :
    opensBody tail = true ↔ StartsIn (openBrace.language + (text "=>").language) tail := by
  constructor
  · intro h
    rw [opensBody.eq_def] at h
    split at h
    · next v => exact ⟨_, v, (List.singleton_append).symm, .inl (mem_language_char.mpr rfl)⟩
    · next v => exact ⟨"=>".toList, v, rfl, .inr (mem_language_text.mpr rfl)⟩
    · cases h
  · rintro ⟨z, v, rfl, hz | hz⟩
    · obtain rfl := mem_language_char.mp hz
      rfl
    · obtain rfl := mem_language_text.mp hz
      rfl

/-- What follows the name of a call. -/
def callTail : Language Char :=
  gap.language * (parameters.language *
    (gap.language * (openBrace.language + (text "=>").language)))

theorem opensCall_iff {rest : List Char} : opensCall rest = true ↔ StartsIn callTail rest := by
  have hbody : ∀ z ∈ openBrace.language + (text "=>").language,
      ∃ a ∈ z.head?, CharSet.blank.contains a = false := by
    rintro z (hz | hz)
    · obtain rfl := mem_language_char.mp hz
      exact ⟨_, rfl, by decide⟩
    · obtain rfl := mem_language_text.mp hz
      exact ⟨_, rfl, by decide⟩
  rw [callTail, startsIn_parameters_iff, opensCall]
  simp only [startsIn_gap_iff hbody, ← opensBody_iff]
  cases afterParameters? rest <;> simp

/-- Nothing but white space stands between a name and its parameters. -/
theorem exists_blank_of_opensCall {rest : List Char} (h : opensCall rest = true) :
    ∃ g r, rest = g ++ '(' :: r ∧ ∀ a ∈ g, CharSet.blank.contains a = true := by
  obtain ⟨tail, htail⟩ := Option.isSome_iff_exists.mp (Option.isSome_of_any h)
  obtain ⟨g, q, rfl, hg, -⟩ := afterParameters?_eq_some_iff.mp htail
  exact ⟨g, _, rfl, hg⟩

/-- The name of a call ends where the call goes on. -/
theorem contains_head_of_opensCall {rest : List Char} (h : opensCall rest = true) :
    ∀ a ∈ rest.head?, CharSet.word.contains a = false := by
  obtain ⟨g, r, rfl, hg⟩ := exists_blank_of_opensCall h
  exact contains_head_blank_append hg (by decide)

/-- A call does not go on over another word. -/
theorem opensCall_append_word {x n rest : List Char} (hx : '(' ∉ x) (hne : n ≠ [])
    (hn : ∀ a ∈ n, CharSet.word.contains a = true) : opensCall (x ++ n ++ rest) = false := by
  rw [← Bool.not_eq_true]
  intro hopens
  obtain ⟨g, r, hrest, hg⟩ := exists_blank_of_opensCall hopens
  have hparen : '(' ∉ x ++ n := by
    rw [List.mem_append, not_or]
    exact ⟨hx, fun hmem => absurd (hn _ hmem) (by decide)⟩
  obtain ⟨d, rfl, -⟩ := exists_append_of_notMem hparen hrest
  obtain ⟨a, n, rfl⟩ := List.exists_cons_of_ne_nil hne
  have hblank : CharSet.blank.contains a = false :=
    CharSet.contains_of_apart (s := .word) (by decide) (hn a List.mem_cons_self)
  rw [hg a (by simp)] at hblank
  cases hblank

/-! ## The first call of a line -/

/-- A run from whose end a call goes on, with no such run further left. -/
structure IsFirstCall (line before name after : List Char) : Prop where
  isRun : IsRun line before name after
  opensCall : opensCall after = true
  first : ∀ before' run after', IsRun line before' run after' → before'.length < before.length →
    Style.opensCall after' = false

theorem IsFirstCall.unique {line before name after before' name' after' : List Char}
    (h : IsFirstCall line before name after) (h' : IsFirstCall line before' name' after') :
    before = before' ∧ name = name' ∧ after = after' := by
  refine h.isRun.unique h'.isRun (Nat.le_antisymm (Nat.le_of_not_lt fun hlt => ?_)
    (Nat.le_of_not_lt fun hlt => ?_))
  · have hnot := h.first _ _ _ h'.isRun hlt
    rw [h'.opensCall] at hnot
    cases hnot
  · have hnot := h'.first _ _ _ h.isRun hlt
    rw [h.opensCall] at hnot
    cases hnot

/-- One pass over the characters of a line. While a run is being read, `start` is the place where
it began. -/
def firstCallFrom : (start : Option Nat) → (pos : Nat) → List Char → Option Span
  | _, _, [] => none
  | start, pos, a :: rest =>
    if CharSet.word.contains a then firstCallFrom (start.or (some pos)) (pos + 1) rest
    else
      ((start.filter fun _ => opensCall (a :: rest)).map fun s => ⟨s, pos⟩).or
        (firstCallFrom none (pos + 1) rest)

/-- The name of the first call in a line. -/
def firstCall (line : List Char) : Option Span :=
  firstCallFrom none 0 line

/-- What the pass knows about the characters it has seen: a run has begun at `start`, or none is
being read. -/
def Reading (start : Option Nat) (seen : List Char) : Prop :=
  match start with
  | some s => ∃ before run, seen = before ++ run ∧ s = before.length ∧ run ≠ [] ∧
      (∀ a ∈ run, CharSet.word.contains a = true) ∧
      ∀ a ∈ before.getLast?, CharSet.word.contains a = false
  | none => ∀ a ∈ seen.getLast?, CharSet.word.contains a = false

theorem Reading.word {start : Option Nat} {seen : List Char} {a : Char} (h : Reading start seen)
    (ha : CharSet.word.contains a = true) :
    Reading (start.or (some seen.length)) (seen ++ [a]) := by
  cases start with
  | none => exact ⟨seen, [a], rfl, rfl, by simp, by simpa using ha, h⟩
  | some s =>
    obtain ⟨before, run, rfl, rfl, -, hword, hlast⟩ := h
    refine ⟨before, run ++ [a], by simp, rfl, by simp, ?_, hlast⟩
    exact List.forall_mem_append.mpr ⟨hword, by simpa using ha⟩

theorem Reading.other {seen : List Char} {a : Char} (ha : CharSet.word.contains a = false) :
    Reading none (seen ++ [a]) := by
  simpa [Reading] using ha

/-- What the pass still finds, after it has seen the first part of a line: the first of the calls
whose names do not end before that. -/
def FindsFrom (line : List Char) (pos : Nat) : Option Span → Prop
  | some s => ∃ before name after, IsRun line before name after ∧ opensCall after = true ∧
      s = ⟨before.length, (before ++ name).length⟩ ∧
      ∀ before' run after', IsRun line before' run after' → pos ≤ (before' ++ run).length →
        before'.length < before.length → opensCall after' = false
  | none => ∀ before run after, IsRun line before run after → pos ≤ (before ++ run).length →
      opensCall after = false

/-- If no call has its name end right here, the search goes on one place further. -/
theorem FindsFrom.of_succ {line : List Char} {pos : Nat} {found : Option Span}
    (h : FindsFrom line (pos + 1) found)
    (hhere : ∀ before run after, IsRun line before run after → (before ++ run).length = pos →
      opensCall after = false) : FindsFrom line pos found := by
  cases found with
  | none =>
    intro before run after hrun hpos
    rcases Nat.lt_or_eq_of_le hpos with hlt | heq
    · exact h before run after hrun hlt
    · exact hhere before run after hrun heq.symm
  | some s =>
    obtain ⟨before, name, after, hrun, hopens, hs, hfirst⟩ := h
    refine ⟨before, name, after, hrun, hopens, hs, fun before' run' after' hrun' hpos hlt => ?_⟩
    rcases Nat.lt_or_eq_of_le hpos with hpos | heq
    · exact hfirst before' run' after' hrun' hpos hlt
    · exact hhere before' run' after' hrun' heq.symm

theorem findsFrom_firstCallFrom {start : Option Nat} {seen rest : List Char}
    (h : Reading start seen) :
    FindsFrom (seen ++ rest) seen.length (firstCallFrom start seen.length rest) := by
  -- a run that ends where the seen part ends is followed by the rest
  have hend : ∀ {seen rest before run after : List Char}, IsRun (seen ++ rest) before run after →
      (before ++ run).length = seen.length → before ++ run = seen ∧ after = rest := by
    intro seen rest before run after hrun hlength
    exact List.append_inj hrun.line_eq.symm hlength
  induction rest generalizing start seen with
  | nil =>
    intro before run after hrun hpos
    have hlength := congrArg List.length hrun.line_eq
    simp only [List.length_append, List.length_nil] at hpos hlength
    obtain rfl : after = [] := List.length_eq_zero_iff.mp (by omega)
    rfl
  | cons a rest ih =>
    have hsucc : ∀ {start : Option Nat}, Reading start (seen ++ [a]) →
        FindsFrom (seen ++ a :: rest) (seen.length + 1)
          (firstCallFrom start (seen.length + 1) rest) := by
      intro start hstart
      have hnext := ih hstart
      rwa [List.append_assoc, List.singleton_append, List.length_append] at hnext
    rw [firstCallFrom]
    cases ha : CharSet.word.contains a with
    | true =>
      rw [if_pos rfl]
      refine (hsucc (h.word ha)).of_succ fun before run after hrun hlength => ?_
      -- the run would go on here
      obtain ⟨-, rfl⟩ := hend hrun hlength
      rw [hrun.after_head a rfl] at ha
      cases ha
    | false =>
      rw [if_neg (by simp)]
      cases start with
      | none =>
        refine (hsucc (Reading.other ha)).of_succ fun before run after hrun hlength => ?_
        obtain ⟨rfl, -⟩ := hend hrun hlength
        have hlast : CharSet.word.contains _ = false := h (run.getLast hrun.ne_nil) (by
          rw [List.getLast?_append_of_ne_nil _ hrun.ne_nil,
            List.getLast?_eq_some_getLast hrun.ne_nil]
          rfl)
        rw [hrun.word _ (List.getLast_mem hrun.ne_nil)] at hlast
        cases hlast
      | some s =>
        obtain ⟨before, run, rfl, rfl, hne, hword, hlast⟩ := h
        have hrun : IsRun (before ++ run ++ a :: rest) before run (a :: rest) :=
          ⟨rfl, hne, hword, hlast, by simpa using ha⟩
        cases hopens : opensCall (a :: rest) with
        | true =>
          rw [Option.filter_some, if_pos rfl]
          refine ⟨before, run, a :: rest, hrun, hopens, rfl, ?_⟩
          intro before' run' after' hrun' hpos hlt
          have := hrun'.length_lt hrun hlt
          simp only [List.length_append] at this hpos
          omega
        | false =>
          rw [Option.filter_some, if_neg Bool.false_ne_true]
          refine (hsucc (Reading.other ha)).of_succ fun before' run' after' hrun' hlength => ?_
          obtain ⟨-, rfl⟩ := hend hrun' hlength
          exact hopens

theorem findsFrom_firstCall (line : List Char) : FindsFrom line 0 (firstCall line) := by
  have hreading : Reading none [] := by simp [Reading]
  exact findsFrom_firstCallFrom hreading

/-- The pass finds the first call. -/
theorem firstCall_eq_some_iff {line : List Char} {s : Span} :
    firstCall line = some s ↔ ∃ before name after, IsFirstCall line before name after ∧
      s = ⟨before.length, (before ++ name).length⟩ := by
  have hfinds := findsFrom_firstCall line
  constructor
  · intro h
    rw [h] at hfinds
    obtain ⟨before, name, after, hrun, hopens, hs, hfirst⟩ := hfinds
    exact ⟨before, name, after,
      ⟨hrun, hopens, fun _ _ _ hrun' hlt => hfirst _ _ _ hrun' (Nat.zero_le _) hlt⟩, hs⟩
  · rintro ⟨before, name, after, hcall, rfl⟩
    cases hfound : firstCall line with
    | none =>
      rw [hfound] at hfinds
      have hnot := hfinds before name after hcall.isRun (Nat.zero_le _)
      rw [hcall.opensCall] at hnot
      cases hnot
    | some s =>
      rw [hfound] at hfinds
      obtain ⟨before', name', after', hrun, hopens, rfl, hfirst⟩ := hfinds
      have hcall' : IsFirstCall line before' name' after' :=
        ⟨hrun, hopens, fun _ _ _ hrun' hlt => hfirst _ _ _ hrun' (Nat.zero_le _) hlt⟩
      obtain ⟨rfl, rfl, -⟩ := hcall.unique hcall'
      rfl

theorem firstCall_eq_none_iff {line : List Char} :
    firstCall line = none ↔
      ∀ before run after, IsRun line before run after → opensCall after = false := by
  have hfinds := findsFrom_firstCall line
  constructor
  · intro h before run after hrun
    rw [h] at hfinds
    exact hfinds before run after hrun (Nat.zero_le _)
  · intro h
    cases hfound : firstCall line with
    | none => rfl
    | some s =>
      obtain ⟨before, name, after, hcall, -⟩ := firstCall_eq_some_iff.mp hfound
      have hnot := h _ _ _ hcall.isRun
      rw [hcall.opensCall] at hnot
      cases hnot

/-! ## Patterns that find calls -/

/-- A pattern for a call after something that is not part of it: what comes before the name holds
no parenthesis and does not end inside a word. -/
structure FindsCalls (p : Pattern) : Prop where
  isFree : p.isFree = true
  isSteady : p.isSteady = true
  capturesOnce : p.capturesOnce = true
  lead_avoids : p.lead.avoids (.ofChars ['(']) = true
  lead_shuts : p.lead.shuts .word true = true
  core_eq : p.core = word
  trail_eq : p.trail.language = callTail
  /-- nothing has to come before the name -/
  calls_le : calls ≤ p.language

/-- A name with parameters and then a brace or an arrow, without any modifiers. -/
def call : Pattern :=
  name ++ gap ++ parameters ++ gap ++ .alt openBrace (text "=>")

theorem trail_call : call.trail.language = callTail := by
  have htrail : call.trail.language =
      1 * gap.language * parameters.language * gap.language *
        (openBrace.language + (text "=>").language) := rfl
  rw [htrail, one_mul, callTail, mul_assoc, mul_assoc]

theorem findsCalls_call : FindsCalls call where
  isFree := by decide
  isSteady := by decide
  capturesOnce := by decide
  lead_avoids := by decide
  lead_shuts := by decide
  core_eq := rfl
  trail_eq := trail_call
  calls_le := by
    have hcall : call.language = calls := by
      simp only [call, language_append, mul_assoc]
      rfl
    exact le_of_eq hcall.symm

theorem findsCalls_braceOrArrow : FindsCalls braceOrArrow.pattern where
  isFree := isFree_pattern _
  isSteady := isSteady_pattern _
  capturesOnce := capturesOnce_pattern _
  lead_avoids := by decide
  lead_shuts := shuts_lead _
  core_eq := core_pattern _
  trail_eq := trail_call
  calls_le := Style.calls_le

variable {p : Pattern} {line : List Char}

theorem isFirstCall_of_search (hp : FindsCalls p) {hit : Hit} (h : p.search line = some hit) :
    ∃ before name after, IsFirstCall line before name after ∧
      hit.captured = some ⟨before.length, (before ++ name).length⟩ := by
  obtain ⟨hinside, hreads, hleft⟩ := reads_of_search hp.isFree hp.isSteady h
  obtain ⟨u, v, hline, hstart⟩ := hinside.exists_append
  obtain ⟨x, n, y, hw, hx, hn, hy, hcaptured⟩ :=
    exists_of_reads_of_capturesOnce hp.capturesOnce hreads
  rw [hp.core_eq] at hn
  rw [hp.trail_eq] at hy
  obtain ⟨hne, hword⟩ := mem_language_someOf.mp hn
  rw [hw] at hline
  have hopens : opensCall (y ++ v) = true := opensCall_iff.mpr ⟨y, v, rfl, hy⟩
  -- a call starts nowhere further left
  have hstarts : ∀ {before run after : List Char}, line = before ++ run ++ after → run ≠ [] →
      (∀ a ∈ run, CharSet.word.contains a = true) → opensCall after = true →
      u.length ≤ before.length := by
    intro before run after hline' hne' hword' hafter
    obtain ⟨z, t, rfl, hz⟩ := opensCall_iff.mp hafter
    have hmem : run ++ z ∈ p.language :=
      hp.calls_le (Language.append_mem_mul (mem_language_someOf.mpr ⟨hne', hword'⟩) hz)
    have hsplit : line = before ++ (run ++ z) ++ t := by rw [hline']; simp
    rw [hstart]
    refine hleft ⟨before.length, before.length + (run ++ z).length⟩ ?_ ?_
    · rw [hsplit]
      exact Span.inside_between before (run ++ z) t
    · rw [hsplit, Span.slice_between]
      exact hmem
  have hrun : IsRun line (u ++ x) n (y ++ v) := by
    refine ⟨by rw [hline]; simp, hne, hword, fun a ha => ?_, contains_head_of_opensCall hopens⟩
    · rcases endsOutside_of_shuts hp.lead_shuts hx with ⟨-, rfl⟩ | hends
      · -- with the character before it, the name would be a name further left
        rw [List.append_nil] at ha
        obtain ⟨u', rfl⟩ := List.getLast?_eq_some_iff.mp ha
        cases hcontains : CharSet.word.contains a with
        | false => rfl
        | true =>
          have hsplit : line = u' ++ (a :: n) ++ (y ++ v) := by
            rw [hline]
            simp
          have hle : (u' ++ [a]).length ≤ u'.length :=
            hstarts hsplit (by simp) (List.forall_mem_cons.mpr ⟨hcontains, hword⟩) hopens
          rw [List.length_append, List.length_singleton] at hle
          omega
      · exact (hends.append u).contains_getLast a ha
  refine ⟨u ++ x, n, y ++ v, ⟨hrun, hopens, fun before run after hrun' hlt => ?_⟩, ?_⟩
  · rw [← Bool.not_eq_true]
    intro hopens'
    have hle := hstarts hrun'.line_eq hrun'.ne_nil hrun'.word hopens'
    -- the run lies in what comes before the name, where no parenthesis can come next
    obtain ⟨d, hd, hrest⟩ := hrun'.exists_between hrun hlt
    have hparen : '(' ∉ d := by
      have hle' : u.length ≤ (before ++ run).length := by
        rw [List.length_append]
        omega
      obtain ⟨k, -, rfl⟩ := exists_append_of_length_le hd hle'
      exact fun hmem => notMem_of_avoids hp.lead_avoids hx (List.mem_append_right k hmem)
    rw [hrest, ← List.append_assoc, opensCall_append_word hparen hne hword] at hopens'
    cases hopens'
  · rw [hcaptured, ← hstart]
    simp

theorem opensCall_eq_false_of_search (hp : FindsCalls p) (h : p.search line = none)
    {before run after : List Char} (hrun : IsRun line before run after) :
    opensCall after = false := by
  rw [← Bool.not_eq_true]
  intro hopens
  obtain ⟨z, t, rfl, hz⟩ := opensCall_iff.mp hopens
  refine (search_eq_none_iff hp.isFree hp.isSteady).mp h before (run ++ z) t
    (by rw [hrun.line_eq]; simp) (hp.calls_le ?_)
  exact Language.append_mem_mul (mem_language_someOf.mpr ⟨hrun.ne_nil, hrun.word⟩) hz

/-- What such a pattern captures is what the pass over the line finds. -/
theorem map_captured_search (hp : FindsCalls p) :
    (p.search line).map Hit.captured = (firstCall line).map some := by
  cases h : p.search line with
  | none =>
    rw [firstCall_eq_none_iff.mpr fun _ _ _ hrun => opensCall_eq_false_of_search hp h hrun]
    rfl
  | some hit =>
    obtain ⟨before, name, after, hcall, hcaptured⟩ := isFirstCall_of_search hp h
    rw [firstCall_eq_some_iff.mpr ⟨before, name, after, hcall, rfl⟩, Option.map_some, hcaptured]
    rfl

theorem IsFirstCall.slice {before name after : List Char} (h : IsFirstCall line before name after) :
    (⟨before.length, (before ++ name).length⟩ : Span).slice line = name := by
  rw [h.isRun.line_eq, List.length_append]
  exact Span.slice_between before name after

/-- **The search for the first style and the pass over the line find the same name.** It is the
first run of identifier characters from whose end a call goes on, and nothing is found exactly if
there is no such run. Without the modifiers, the pattern captures the same. -/
theorem search_braceOrArrow_eq_firstCall (line : List Char) :
    (braceOrArrow.pattern.search line).map Hit.captured = (firstCall line).map some ∧
    (∀ name, braceOrArrow.pattern.capturedIn line = some name ↔
      ∃ before after, IsFirstCall line before name after) ∧
    (braceOrArrow.pattern.search line = none ↔
      ∀ before run after, IsRun line before run after → opensCall after = false) ∧
    (call.search line).map Hit.captured = (braceOrArrow.pattern.search line).map Hit.captured := by
  have hsearch : (braceOrArrow.pattern.search line).map Hit.captured = (firstCall line).map some :=
    map_captured_search findsCalls_braceOrArrow
  refine ⟨hsearch, fun name => ?_, ?_, (map_captured_search findsCalls_call).trans hsearch.symm⟩
  · have hname : braceOrArrow.pattern.capturedIn line =
        (firstCall line).map fun s => s.slice line := by
      rw [capturedIn_eq, hsearch]
      cases firstCall line <;> rfl
    rw [hname, Option.map_eq_some_iff]
    constructor
    · rintro ⟨s, hs, rfl⟩
      obtain ⟨before, name, after, hcall, rfl⟩ := firstCall_eq_some_iff.mp hs
      exact ⟨before, after, hcall.slice.symm ▸ hcall⟩
    · rintro ⟨before, after, hcall⟩
      exact ⟨_, firstCall_eq_some_iff.mpr ⟨before, name, after, hcall, rfl⟩, hcall.slice⟩
  · rw [← firstCall_eq_none_iff, ← Option.map_eq_none_iff, hsearch, Option.map_eq_none_iff]

example : firstCall "static async () => \x7b".toList = some ⟨7, 12⟩ := by decide

/-- A modifier in front of a call is passed over, and another one is the name of the call. The
parentheses of a `return` are no call, so its line has none. -/
theorem isFirstCall_static_async :
    (∃ before after,
      IsFirstCall "static async () => \x7b".toList before "async".toList after) ∧
      opensCall " (x);".toList = false := by
  have hsearch : braceOrArrow.pattern.search "return (x);".toList = none := by decide
  have hrun : IsRun "return (x);".toList [] "return".toList " (x);".toList :=
    ⟨rfl, by decide, List.all_eq_true.mp (by decide), by simp, by rintro _ ⟨⟩; decide⟩
  obtain ⟨-, hname, -, -⟩ := search_braceOrArrow_eq_firstCall "static async () => \x7b".toList
  obtain ⟨-, -, hnone, -⟩ := search_braceOrArrow_eq_firstCall "return (x);".toList
  exact ⟨(hname "async".toList).mp (by decide), hnone.mp hsearch _ _ _ hrun⟩

end Style

end Relocation
