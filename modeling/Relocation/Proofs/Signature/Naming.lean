import Relocation.Proofs.Pattern.Reading
import Relocation.Signature.Style

/-!
# The one name of a declaration

A line can be read as a declaration in more than one way: a modifier may pass for a type, a type
for a name, and a repetition may stop early. All the ways that start at one place agree on the
name, for it is the last word before the first parenthesis, or equals sign, that counts.

* `Style.untilSign` — what stands before that sign, angle brackets passed over,
* `Style.NamedBefore` — what makes a stretch of a text the name,
* `Style.captured_unique` — **all readings from one place capture the same name**,
* `Style.isSome_search_iff_and_name_unique` — what a search for a style finds, in terms of
  languages and readings.
-/

namespace Relocation.Style

open Pattern

/-! ## Divided texts -/

/-- A text is divided in one way into characters of a set and a rest that starts outside it. -/
theorem append_inj_of_head {P : Char → Bool} {x y r t : List Char}
    (hx : ∀ c ∈ x, P c = true) (hy : ∀ c ∈ y, P c = true) (hr : ∀ a ∈ r.head?, P a = false)
    (ht : ∀ a ∈ t.head?, P a = false) (h : x ++ r = y ++ t) : x = y ∧ r = t := by
  have hstop : ∀ {z : List Char}, (∀ a ∈ z.head?, P a = false) → z.takeWhile P = [] := by
    intro z hz
    cases z with
    | nil => rfl
    | cons a z => simp [hz a rfl]
  have hsame : x = y := by
    have htake := congrArg (List.takeWhile P) h
    rwa [List.takeWhile_append_of_pos hx, List.takeWhile_append_of_pos hy, hstop hr, hstop ht,
      List.append_nil, List.append_nil] at htake
  subst hsame
  exact ⟨rfl, List.append_cancel_left h⟩

/-- The same from the other end. -/
theorem append_inj_of_getLast {P : Char → Bool} {x y r t : List Char}
    (hr : ∀ c ∈ r, P c = true) (ht : ∀ c ∈ t, P c = true) (hx : ∀ a ∈ x.getLast?, P a = false)
    (hy : ∀ a ∈ y.getLast?, P a = false) (h : x ++ r = y ++ t) : x = y ∧ r = t := by
  have hreverse : r.reverse ++ x.reverse = t.reverse ++ y.reverse := by
    rw [← List.reverse_append, h, List.reverse_append]
  obtain ⟨hrt, hxy⟩ := append_inj_of_head (fun c hc => hr c (List.mem_reverse.mp hc))
    (fun c hc => ht c (List.mem_reverse.mp hc)) (by simpa using hx) (by simpa using hy) hreverse
  exact ⟨List.reverse_inj.mp hxy, List.reverse_inj.mp hrt⟩

/-! ## What comes before a sign -/

/-- What stands before the first occurrence of a sign that no angle brackets enclose. -/
def untilSign (sign : Char) : (inside : Bool) → List Char → List Char
  | _, [] => []
  | true, a :: rest => a :: untilSign sign (a != '>') rest
  | false, a :: rest => if a = sign then [] else a :: untilSign sign (a == '<') rest

/-- A text that can be gone over without meeting such a sign. -/
def Passable (sign : Char) (x : List Char) : Prop :=
  ∀ rest, untilSign sign false (x ++ rest) = x ++ untilSign sign false rest

theorem passable_nil (sign : Char) : Passable sign [] :=
  fun _ => rfl

theorem Passable.append {sign : Char} {x y : List Char} (hx : Passable sign x)
    (hy : Passable sign y) : Passable sign (x ++ y) := by
  intro rest
  rw [List.append_assoc, hx, hy, List.append_assoc]

theorem passable_of_forall {sign : Char} {x : List Char} (h : ∀ a ∈ x, a ≠ sign ∧ a ≠ '<') :
    Passable sign x := by
  intro rest
  induction x with
  | nil => rfl
  | cons a x ih =>
    obtain ⟨⟨hsign, hangle⟩, hx⟩ := List.forall_mem_cons.mp h
    have ha : (a == '<') = false := by simpa using hangle
    simp [untilSign, hsign, ha, ih hx]

theorem passable_angles {sign : Char} {x : List Char} (hsign : '<' ≠ sign) (h : '>' ∉ x) :
    Passable sign ('<' :: x ++ ['>']) := by
  intro rest
  have hinside : untilSign sign true (x ++ '>' :: rest) =
      x ++ '>' :: untilSign sign false rest := by
    induction x with
    | nil => simp [untilSign]
    | cons a x ih =>
      rw [List.mem_cons, not_or] at h
      have ha : (a != '>') = true := by simpa using Ne.symm h.1
      simp [untilSign, ha, ih h.2]
  simpa [untilSign, hsign] using hinside

/-- Texts without the sign and without angle brackets can be gone over. -/
theorem passable_of_avoids {p : Pattern} {sign : Char} {x : List Char}
    (hp : p.avoids (.ofChars [sign, '<']) = true) (h : x ∈ p.language) : Passable sign x := by
  refine passable_of_forall fun a ha => ?_
  have hnot := contains_of_avoids hp h a ha
  rw [Bool.eq_false_iff, ne_eq, CharSet.contains_ofChars] at hnot
  simpa using hnot

theorem passable_typeArguments {x : List Char} (h : x ∈ typeArguments.language) :
    Passable '(' x := by
  obtain ⟨_, ⟨_, hopen, y, hy, rfl⟩, _, hclose, rfl⟩ := h
  obtain rfl := mem_language_char.mp hopen
  obtain rfl := mem_language_char.mp hclose
  refine passable_angles (by decide) fun hmem => ?_
  have := (mem_language_someOf.mp hy).2 '>' hmem
  simp [CharSet.contains_allBut] at this

/-! ## The name -/

/-- The sign that follows the declared name. -/
def sign : Style → Char
  | assignedArrow => '='
  | _ => '('

/-- A text that declares a function under a name: what stands before the name does not end inside a
word, and what follows it is a gap and the first sign that counts. -/
structure NamedBefore (sign : Char) (text before name : List Char) : Prop where
  name_ne_nil : name ≠ []
  name_word : ∀ a ∈ name, CharSet.word.contains a = true
  before_last : before = [] ∨ EndsOutside .word before
  before_passable : Passable sign before
  rest : ∃ gap tail, text = before ++ name ++ gap ++ sign :: tail ∧
    ∀ a ∈ gap, CharSet.blank.contains a = true

/-- The name is the last word before the sign, so there is only one. -/
theorem NamedBefore.unique {style : Style} {text before name before' name' : List Char}
    (h : NamedBefore style.sign text before name)
    (h' : NamedBefore style.sign text before' name') : before = before' ∧ name = name' := by
  obtain ⟨hne, hword, hlast, hpass, gap, tail, htext, hgap⟩ := h
  obtain ⟨hne', hword', hlast', hpass', gap', tail', htext', hgap'⟩ := h'
  have huntil : ∀ {before name gap tail : List Char}, Passable style.sign before →
      (∀ a ∈ name, CharSet.word.contains a = true) →
      (∀ a ∈ gap, CharSet.blank.contains a = true) →
      untilSign style.sign false (before ++ name ++ gap ++ style.sign :: tail) =
        before ++ name ++ gap := by
    intro before name gap tail hbefore hname hgap
    have hname : Passable style.sign name :=
      passable_of_avoids (p := .run .word) (by cases style <;> decide) hname
    have hgap : Passable style.sign gap :=
      passable_of_avoids (p := .run .blank) (by cases style <;> decide) hgap
    rw [((hbefore.append hname).append hgap)]
    simp [untilSign]
  have hhead : before ++ name ++ gap = before' ++ name' ++ gap' := by
    rw [← huntil hpass hword hgap, ← htext, htext', huntil hpass' hword' hgap']
  -- a name ends outside the gap after it
  have hends : ∀ {before name : List Char}, name ≠ [] →
      (∀ a ∈ name, CharSet.word.contains a = true) →
      ∀ a ∈ (before ++ name).getLast?, CharSet.blank.contains a = false := by
    intro before name hne hname a ha
    rw [List.getLast?_append_of_ne_nil _ hne] at ha
    exact CharSet.contains_of_apart (s := .word) (by decide)
      (hname a (List.mem_of_mem_getLast? ha))
  have hstarts : ∀ {before : List Char}, before = [] ∨ EndsOutside .word before →
      ∀ a ∈ before.getLast?, CharSet.word.contains a = false := by
    rintro before (rfl | ⟨x, b, rfl, hb⟩) a ha
    · cases ha
    · rw [List.getLast?_concat] at ha
      cases ha
      exact hb
  have hnames := (append_inj_of_getLast hgap hgap' (hends hne hword) (hends hne' hword') hhead).1
  exact append_inj_of_getLast hword hword' (hstarts hlast) (hstarts hlast') hnames

/-! ## The parts of a style -/

theorem isFree_pattern (style : Style) : style.pattern.isFree = true := by
  cases style <;> decide

theorem isSteady_pattern (style : Style) : style.pattern.isSteady = true := by
  cases style <;> decide

theorem capturesOnce_pattern (style : Style) : style.pattern.capturesOnce = true := by
  cases style <;> decide

theorem core_pattern (style : Style) : style.pattern.core = word := by
  cases style <;> rfl

/-- What comes before a name does not end inside a word. -/
theorem shuts_lead (style : Style) : style.pattern.lead.shuts .word true = true := by
  cases style <;> decide

/-- A language of texts that are a gap and a sign at first. -/
def Signed (sign : Char) (l : Language Char) : Prop :=
  ∀ y ∈ l, ∃ g r, y = g ++ sign :: r ∧ ∀ a ∈ g, CharSet.blank.contains a = true

theorem Signed.mul {sign : Char} {l : Language Char} (h : Signed sign l) (m : Language Char) :
    Signed sign (l * m) := by
  rintro _ ⟨y, hy, z, -, rfl⟩
  obtain ⟨g, r, rfl, hg⟩ := h y hy
  exact ⟨g, r ++ z, by simp, hg⟩

theorem signed_parameters : Signed '(' (Pattern.empty ++ gap ++ parameters).language := by
  rintro _ ⟨_, ⟨_, hnil, g, hg, rfl⟩, _, ⟨_, ⟨_, hopen, x, -, rfl⟩, y, -, rfl⟩, rfl⟩
  obtain rfl := (Language.mem_one _).mp hnil
  obtain rfl := mem_language_char.mp hopen
  exact ⟨g, x ++ y, by simp, hg⟩

theorem signed_equals : Signed '=' (Pattern.empty ++ gap ++ char '=').language := by
  rintro _ ⟨_, ⟨_, hnil, g, hg, rfl⟩, _, hequals, rfl⟩
  obtain rfl := (Language.mem_one _).mp hnil
  obtain rfl := mem_language_char.mp hequals
  exact ⟨g, [], by simp, hg⟩

/-- After the name come a gap and the sign. -/
theorem signed_trail (style : Style) : Signed style.sign style.pattern.trail.language := by
  cases style with
  | braceOrArrow => exact (signed_parameters.mul _).mul _
  | assignedArrow => exact ((((signed_equals.mul _).mul _).mul _).mul _).mul _
  | javaMethod => exact (((signed_parameters.mul _).mul _).mul _).mul _
  | csharpMethod => exact (signed_parameters.mul _).mul _
  | pythonDef => exact (signed_parameters.mul _).mul _
  | cFunction => exact (((signed_parameters.mul _).mul _).mul _).mul _
  | goFunc => exact ((signed_parameters.mul _).mul _).mul _

theorem passable_lead_javaMethod {x : List Char} (h : x ∈ javaMethod.pattern.lead.language) :
    Passable '(' x := by
  obtain ⟨_, ⟨_, ⟨_, ⟨m, hm, g, hg, rfl⟩, t, ht, rfl⟩, b, hb, rfl⟩, _, hnil, rfl⟩ := h
  obtain rfl := (Language.mem_one _).mp hnil
  obtain ⟨_, ⟨u, hu, a, ha, rfl⟩, z, hz, rfl⟩ := ht
  have hopt : ∀ {q : Pattern} {y : List Char}, (∀ y ∈ q.language, Passable '(' y) →
      y ∈ (opt q).language → Passable '(' y := by
    rintro q y hq (hy | hy)
    · exact hq y hy
    · obtain rfl := (Language.mem_one _).mp hy
      exact passable_nil '('
  have hgeneric : Passable '(' g := by
    refine hopt ?_ hg
    rintro _ ⟨y, hy, z, hz, rfl⟩
    exact (passable_typeArguments hy).append (passable_of_avoids (p := space) (by decide) hz)
  have htype : Passable '(' (u ++ a ++ z) :=
    ((passable_of_avoids (p := word) (by decide) hu).append
      (hopt (fun _ => passable_typeArguments) ha)).append
      (passable_of_avoids (p := many (text "[]")) (by decide) hz)
  have hmodifiers : Passable '(' m :=
    passable_of_avoids (p := modifiers javaModifiers) (by decide) hm
  have hspace : Passable '(' b := passable_of_avoids (p := space) (by decide) hb
  exact (((hmodifiers.append hgeneric).append htype).append hspace).append (passable_nil '(')

/-- What comes before a name can be gone over, the receiver of a Go method apart. -/
theorem passable_lead {style : Style} (hstyle : style ≠ goFunc) {x : List Char}
    (h : x ∈ style.pattern.lead.language) : Passable style.sign x := by
  cases style with
  | javaMethod => exact passable_lead_javaMethod h
  | goFunc => exact absurd rfl hstyle
  | _ => exact passable_of_avoids (by decide) h

theorem exists_of_mem_lead_goFunc {x : List Char} (h : x ∈ goFunc.pattern.lead.language) :
    ∃ g o, x = "func".toList ++ (g ++ o) ∧ (∀ a ∈ g, CharSet.blank.contains a = true) ∧
      (o = [] ∨ ∃ y z, o = '(' :: (y ++ ')' :: z) ∧ ')' ∉ y ∧
        ∀ a ∈ z, CharSet.blank.contains a = true) := by
  obtain ⟨_, ⟨_, ⟨_, hfunc, g, hg, rfl⟩, o, ho, rfl⟩, _, hnil, rfl⟩ := h
  obtain rfl := (Language.mem_one _).mp hnil
  obtain rfl := mem_language_text.mp hfunc
  refine ⟨g, o, by simp, (mem_language_someOf.mp hg).2, ?_⟩
  rcases ho with ho | ho
  · obtain ⟨_, ⟨_, ⟨_, hopen, y, hy, rfl⟩, _, hclose, rfl⟩, z, hz, rfl⟩ := ho
    obtain rfl := mem_language_char.mp hopen
    obtain rfl := mem_language_char.mp hclose
    refine .inr ⟨y, z, by simp, fun hmem => ?_, (mem_language_someOf.mp hz).2⟩
    have := (mem_language_someOf.mp hy).2 ')' hmem
    simp [CharSet.contains_allBut] at this
  · exact .inl ((Language.mem_one _).mp ho)

/-- What comes before the name of a Go function is told by the name that follows: a receiver starts
with a parenthesis and ends at the next one. -/
theorem lead_unique_goFunc {x x' r r' : List Char} (h : x ∈ goFunc.pattern.lead.language)
    (h' : x' ∈ goFunc.pattern.lead.language)
    (hr : ∃ a t, r = a :: t ∧ CharSet.word.contains a = true)
    (hr' : ∃ a t, r' = a :: t ∧ CharSet.word.contains a = true) (heq : x ++ r = x' ++ r') :
    x = x' := by
  obtain ⟨g, o, rfl, hg, ho⟩ := exists_of_mem_lead_goFunc h
  obtain ⟨g', o', rfl, hg', ho'⟩ := exists_of_mem_lead_goFunc h'
  obtain ⟨b, t, rfl, hb⟩ := hr
  obtain ⟨b', t', rfl, hb'⟩ := hr'
  have hblank : ∀ {b : Char}, CharSet.word.contains b = true → CharSet.blank.contains b = false :=
    CharSet.contains_of_apart (by decide)
  have hstart : ∀ {o : List Char} {b : Char} {t : List Char}, CharSet.word.contains b = true →
      (o = [] ∨ ∃ y z, o = '(' :: (y ++ ')' :: z) ∧ ')' ∉ y ∧
        ∀ a ∈ z, CharSet.blank.contains a = true) →
      ∀ a ∈ (o ++ b :: t).head?, CharSet.blank.contains a = false := by
    rintro o b t hb (rfl | ⟨y, z, rfl, -, -⟩) a ha
    · cases ha
      exact hblank hb
    · cases ha
      decide
  -- the blanks after the key word end where a parenthesis or the name starts
  obtain ⟨rfl, hrest⟩ := append_inj_of_head hg hg' (hstart hb ho) (hstart hb' ho')
    (by simpa using heq)
  rcases ho with rfl | ⟨y, z, rfl, hy, hz⟩ <;> rcases ho' with rfl | ⟨y', z', rfl, hy', hz'⟩
  · rfl
  · cases (List.cons.inj hrest).1
    exact absurd hb (by decide)
  · cases (List.cons.inj hrest).1
    exact absurd hb' (by decide)
  · have hnot : ∀ {y : List Char}, ')' ∉ y → ∀ a ∈ y, (a != ')') = true := by
      intro y hy a ha
      exact bne_iff_ne.mpr fun h => hy (h ▸ ha)
    obtain ⟨rfl, hafter⟩ := append_inj_of_head (r := ')' :: (z ++ b :: t))
      (t := ')' :: (z' ++ b' :: t')) (hnot hy) (hnot hy') (by simp) (by simp) (by simpa using hrest)
    obtain ⟨rfl, -⟩ := append_inj_of_head (r := b :: t) (t := b' :: t') hz hz'
      (by simpa using hblank hb) (by simpa using hblank hb') (List.cons.inj hafter).2
    rfl

/-! ## Readings of a style -/

variable {style : Style} {pos : Nat} {w w' : List Char} {k k' : Option Span}

/-- Every reading captures a name between what comes before it and the sign after it. -/
theorem exists_name_of_reads (h : Reads style.pattern pos w none k) (v : List Char) :
    ∃ x n g r, w ++ v = x ++ n ++ g ++ style.sign :: r ∧ x ∈ style.pattern.lead.language ∧
      n ≠ [] ∧ (∀ a ∈ n, CharSet.word.contains a = true) ∧
      (∀ a ∈ g, CharSet.blank.contains a = true) ∧
      k = some ⟨pos + x.length, pos + (x ++ n).length⟩ := by
  obtain ⟨x, n, y, rfl, hx, hn, hy, rfl⟩ :=
    exists_of_reads_of_capturesOnce (capturesOnce_pattern style) h
  obtain ⟨g, r, rfl, hg⟩ := signed_trail style y hy
  rw [core_pattern] at hn
  obtain ⟨hne, hword⟩ := mem_language_someOf.mp hn
  exact ⟨x, n, g, r ++ v, by simp, hx, hne, hword, hg, rfl⟩

/-- **All readings from one place capture the same name**, whatever way they divide the text. -/
theorem captured_unique {v v' : List Char} (h : Reads style.pattern pos w none k)
    (h' : Reads style.pattern pos w' none k') (htext : w ++ v = w' ++ v') : k = k' := by
  obtain ⟨x, n, g, r, heq, hx, hne, hword, hg, rfl⟩ := exists_name_of_reads h v
  obtain ⟨x', n', g', r', heq', hx', hne', hword', hg', rfl⟩ := exists_name_of_reads h' v'
  rw [htext, heq'] at heq
  by_cases hstyle : style = goFunc
  · -- past what comes before the name, the name is the first word
    subst hstyle
    have hstart : ∀ {n : List Char} (t : List Char), n ≠ [] →
        (∀ a ∈ n, CharSet.word.contains a = true) →
        ∃ a r, n ++ t = a :: r ∧ CharSet.word.contains a = true := by
      intro n t hne hword
      obtain ⟨a, n, rfl⟩ := List.exists_cons_of_ne_nil hne
      exact ⟨a, n ++ t, rfl, hword a List.mem_cons_self⟩
    simp only [List.append_assoc] at heq
    obtain rfl := lead_unique_goFunc hx hx' (hstart _ hne hword) (hstart _ hne' hword') heq.symm
    have hnamed : NamedBefore goFunc.sign (n ++ (g ++ goFunc.sign :: r)) [] n :=
      ⟨hne, hword, .inl rfl, passable_nil _, g, r, by simp, hg⟩
    have hnamed' : NamedBefore goFunc.sign (n ++ (g ++ goFunc.sign :: r)) [] n' :=
      ⟨hne', hword', .inl rfl, passable_nil _, g', r', by simpa using heq.symm, hg'⟩
    obtain ⟨-, rfl⟩ := hnamed.unique hnamed'
    rfl
  · have hlast : ∀ {x}, x ∈ style.pattern.lead.language → x = [] ∨ EndsOutside .word x := by
      intro x hx
      exact (endsOutside_of_shuts (shuts_lead style) hx).imp And.right id
    obtain ⟨rfl, rfl⟩ := NamedBefore.unique
      ⟨hne, hword, hlast hx, passable_lead hstyle hx, g, r, heq, hg⟩
      ⟨hne', hword', hlast hx', passable_lead hstyle hx', g', r', rfl, hg'⟩
    rfl

theorem captured_eq_of_mem_ends {text : List Char} {d e : Cursor}
    (hd : d ∈ style.pattern.ends ⟨pos, text, none⟩)
    (he : e ∈ style.pattern.ends ⟨pos, text, none⟩) :
    d.captured = e.captured := by
  obtain ⟨w, hw, -, hreads⟩ := exists_reads_of_mem_ends style.isFree_pattern hd
  obtain ⟨w', hw', -, hreads'⟩ := exists_reads_of_mem_ends style.isFree_pattern he
  exact captured_unique hreads hreads' (hw.symm.trans hw')

/-- **What a search for a style finds.** It finds something exactly if some stretch of the line
belongs to the language of the style. The stretch that it finds starts as far left as any of these
and is read with the name that is reported; and whatever stretch with that start is read, and in
whatever way, the name is the same. -/
theorem isSome_search_iff_and_name_unique (style : Style) (line : List Char) :
    ((style.pattern.search line).isSome = true ↔
      ∃ s : Span, s.Inside line ∧ s.slice line ∈ style.pattern.language) ∧
    ∀ hit, style.pattern.search line = some hit →
      hit.span.Inside line ∧
      (∀ s : Span, s.Inside line → s.slice line ∈ style.pattern.language →
        hit.span.start ≤ s.start) ∧
      ∃ name : Span, hit.captured = some name ∧
        Reads style.pattern hit.span.start (hit.span.slice line) none (some name) ∧
        ∀ s : Span, s.Inside line → s.start = hit.span.start → ∀ k,
          Reads style.pattern s.start (s.slice line) none k → k = some name := by
  refine ⟨isSome_search_iff style.isFree_pattern style.isSteady_pattern, fun hit hhit => ?_⟩
  obtain ⟨hinside, hreads, hleft⟩ :=
    reads_of_search style.isFree_pattern style.isSteady_pattern hhit
  obtain ⟨u, v, hline, hstart⟩ := hinside.exists_append
  obtain ⟨x, n, -, -, -, -, -, -, -, hname⟩ := exists_name_of_reads hreads []
  refine ⟨hinside, hleft, _, hname, hname ▸ hreads, fun s hs hsame k hk => ?_⟩
  obtain ⟨u', v', hline', hstart'⟩ := hs.exists_append
  -- both stretches start at the same place of the line
  have htext : s.slice line ++ v' = hit.span.slice line ++ v := by
    have hboth := hline'.symm.trans hline
    rw [List.append_assoc, List.append_assoc] at hboth
    exact (List.append_inj hboth (by omega)).2
  rw [hsame] at hk
  exact (captured_unique hk hreads htext).trans hname

/-- The first word of this line is a type, or a qualifier and a type with nothing in between. The
name is the same in both readings. -/
theorem name_unique_static_assert :
    cFunction.pattern.search "static_assert f(x) \x7b".toList =
        some ⟨⟨0, 20⟩, some ⟨14, 15⟩⟩ ∧
      ∀ k, Reads cFunction.pattern 0 "static_assert f(x) \x7b".toList none k →
        k = some ⟨14, 15⟩ := by
  have hsearch : cFunction.pattern.search "static_assert f(x) \x7b".toList =
      some ⟨⟨0, 20⟩, some ⟨14, 15⟩⟩ := by decide
  obtain ⟨-, h⟩ := isSome_search_iff_and_name_unique cFunction "static_assert f(x) \x7b".toList
  obtain ⟨hinside, -, name, hname, -, hunique⟩ := h _ hsearch
  cases hname
  exact ⟨hsearch, hunique ⟨0, 20⟩ hinside rfl⟩

end Relocation.Style
