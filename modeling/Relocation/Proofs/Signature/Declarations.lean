import Relocation.Proofs.Signature.Parts

/-!
# Declarations of one line

The declarations that the styles are made for, written out, and what is found in a line that holds
one of them. Seven patterns compete for the line, and an earlier one may match a piece of the
parameters, or of what comes after them, and take the name from there.

* `declaredAt_eq_of_first` — the first style that finds something decides,
* `Shelters`, `Style.isFirstCall_of_shelters` — what may stand before a call,
* `Declaration` — a declaration in one line, by its form,
* `Style.declaredAt_of_brace`, `Style.declaredAt_of_finish`, `Style.declaredAt_of_assignedArrow`,
  `Style.declaredAt_of_pythonDef` — **lines of these forms declare their names**, Go functions
  apart.
-/

namespace Relocation

open Pattern
open scoped Computability

/-! ## The first style that finds something -/

/-- The styles that are tried before a style. -/
def Style.earlier (style : Style) : List Style :=
  all.takeWhile fun s => s != style

theorem Style.exists_all_eq (style : Style) :
    ∃ later, all = style.earlier ++ style :: later := by
  cases style <;> exact ⟨_, rfl⟩

section First

variable {style : Style} {line : List Char} {place : Span}

/-- The first style that finds something decides what a line declares. -/
theorem declaredAt_eq_of_first (hearlier : ∀ s ∈ style.earlier, s.pattern.search line = none)
    (h : (style.pattern.search line).bind Hit.captured = some place) :
    declaredAt line = some place := by
  obtain ⟨later, hall⟩ := style.exists_all_eq
  have hnone : style.earlier.findSome? (fun s => (s.pattern.search line).bind Hit.captured) =
      none := by
    refine List.findSome?_eq_none_iff.mpr fun s hs => ?_
    rw [hearlier s hs, Option.bind_none]
  rw [declaredAt, hall, List.findSome?_append, hnone, Option.none_or, List.findSome?_cons, h]

theorem captured_of_declaredAt (hearlier : ∀ s ∈ style.earlier, s.pattern.search line = none)
    (h : declaredAt line = some place) {k : Span}
    (hk : (style.pattern.search line).bind Hit.captured = some k) : k = place := by
  rw [declaredAt_eq_of_first hearlier hk] at h
  exact Option.some.inj h

theorem search_eq_none_of_ne (hearlier : ∀ s ∈ style.earlier, s.pattern.search line = none)
    (h : declaredAt line = some place)
    (hne : (style.pattern.search line).bind Hit.captured ≠ some place) :
    style.pattern.search line = none := by
  cases hsearch : style.pattern.search line with
  | none => rfl
  | some hit =>
    obtain ⟨k, hk⟩ := Style.exists_captured_of_search hsearch
    have hcaptured : (style.pattern.search line).bind Hit.captured = some k := by
      rw [hsearch, Option.bind_some, hk]
    rw [captured_of_declaredAt hearlier h hcaptured] at hcaptured
    exact absurd hcaptured hne

/-- If all styles that find anything find the same, that is what the line declares. -/
theorem declaredAt_eq_of_forall
    (hall : ∀ s : Style, ∀ k, (s.pattern.search line).bind Hit.captured = some k → k = place)
    (h : (style.pattern.search line).bind Hit.captured = some place) :
    declaredAt line = some place := by
  have hsome : (declaredAt line).isSome = true := by
    rw [declaredAt, List.findSome?_isSome_iff]
    exact ⟨style, Style.mem_all style, by rw [h, Option.isSome_some]⟩
  obtain ⟨k, hk⟩ := Option.isSome_iff_exists.mp hsome
  obtain ⟨s, -, hs⟩ := List.exists_of_findSome?_eq_some hk
  rw [hk, hall s k hs]

end First

/-! ## Calls -/

/-- A text in which no parameters start, unless they end in it as well and nothing but white space
comes after them. -/
def Shelters (x : List Char) : Prop :=
  ∀ rest before params after, x ++ rest = before ++ '(' :: (params ++ ')' :: after) →
    ')' ∉ params → before.length < x.length → ∃ g, IsGap g ∧ after = g ++ rest

theorem shelters_of_notMem {x : List Char} (hx : '(' ∉ x) : Shelters x := by
  intro rest before params after h _ hlt
  have hle := length_le_of_notMem hx h
  omega

namespace Style

variable {style : Style} {x n g : List Char}

/-- Parameters that a style looks at do not start before those of the name. -/
theorem Parts.length_le {t before name head params after : List Char} (hstyle : style ≠ goFunc)
    (hx : Shelters x) (hn : IsIdentifier n) (hg : IsGap g)
    (h : Parts style (x ++ n ++ (g ++ '(' :: t)) before name head params after) :
    (x ++ n ++ g).length ≤ (before ++ name ++ head).length := by
  have hwords : ∀ s, IsGap s →
      ∀ a ∈ s ++ (n ++ g), CharSet.word.contains a = true ∨ CharSet.blank.contains a = true := by
    intro s hs a ha
    rcases List.mem_append.mp ha with ha | ha
    · exact .inr (hs a ha)
    · exact (List.mem_append.mp ha).imp (hn.2 a) (hg a)
  have hline : x ++ (n ++ (g ++ '(' :: t)) =
      before ++ name ++ head ++ '(' :: (params ++ ')' :: after) := by
    rw [← h.line_eq, List.append_assoc]
  rcases Nat.lt_or_ge (before ++ name ++ head).length x.length with hlt | hle
  · -- after parameters in front of the name, the name comes next
    obtain ⟨s, hs, rfl⟩ := hx _ _ _ _ hline h.close hlt
    have hfinish := h.finishes
    rw [← List.append_assoc n, ← List.append_assoc s] at hfinish
    exact absurd hfinish (not_finishes_of_paren hstyle (hwords s hs))
  · obtain ⟨d, hd, hrest⟩ := exists_append_of_length_le hline hle
    have hparen : '(' ∉ n ++ g := by
      rw [List.mem_append, not_or]
      exact ⟨hn.notMem (by decide), hg.notMem (by decide)⟩
    rw [← List.append_assoc] at hrest
    have := length_le_of_notMem hparen hrest
    simp only [hd, List.length_append] at this ⊢
    omega

theorem opensCall_iff_startsIn {rest : List Char} :
    opensCall rest = true ↔ StartsIn braceOrArrow.pattern.trail.language rest := by
  rw [findsCalls_braceOrArrow.trail_eq]
  exact opensCall_iff

/-- Behind a text without calls of its own, a call is the first one. -/
theorem isFirstCall_of_shelters {rest : List Char} (hx : Shelters x)
    (hlast : ∀ a ∈ x.getLast?, CharSet.word.contains a = false) (hn : IsIdentifier n)
    (h : opensCall rest = true) : IsFirstCall (x ++ n ++ rest) x n rest := by
  obtain ⟨g, t, rfl, hg⟩ := exists_blank_of_opensCall h
  have hrun : IsRun (x ++ n ++ (g ++ '(' :: t)) x n (g ++ '(' :: t) :=
    ⟨rfl, hn.1, hn.2, hlast, contains_head_blank_append hg (by decide)⟩
  refine ⟨hrun, h, fun before name after hrun' hlt => ?_⟩
  rw [← Bool.not_eq_true]
  intro hopens
  obtain ⟨head, params, after, rfl, hclose, hfinish, hgap, hequals⟩ :=
    exists_parameters (opensCall_iff_startsIn.mp hopens)
  have hlead : EndsIn braceOrArrow.pattern.lead.language before := by
    refine ⟨before, [], (List.append_nil before).symm, ?_⟩
    exact Language.append_mem_mul (Language.nil_mem_kstar _) Language.nil_mem_one
  have hparts : Parts braceOrArrow (x ++ n ++ (g ++ '(' :: t)) before name head params after :=
    ⟨hrun', hlead, hgap, hequals, hclose, hfinish⟩
  have hle := hparts.length_le (by decide) hx hn hg
  -- so the name lies in the gap before the parameters
  obtain ⟨d, rfl, hrest⟩ := hrun'.exists_between hrun hlt
  have hsplit : d ++ n ++ (g ++ '(' :: t) = head ++ '(' :: (params ++ ')' :: after) := by
    rw [hrest, List.append_assoc]
  have hle' : (d ++ n).length ≤ head.length := by
    simp only [List.length_append] at hle ⊢
    omega
  obtain ⟨e, rfl, -⟩ := exists_append_of_length_le hsplit hle'
  obtain ⟨a, n, rfl, ha⟩ := hn.exists_cons
  have hblank : CharSet.blank.contains a = false :=
    CharSet.contains_of_apart (s := .word) (by decide) ha
  rw [hgap (by decide) a (by simp)] at hblank
  cases hblank

end Style

theorem declaredAt_of_isFirstCall {line before name after : List Char}
    (h : Style.IsFirstCall line before name after) :
    declaredAt line = some ⟨before.length, (before ++ name).length⟩ := by
  have hsearch : (Style.braceOrArrow.pattern.search line).map Hit.captured =
      some (some ⟨before.length, (before ++ name).length⟩) := by
    rw [Style.map_captured_search Style.findsCalls_braceOrArrow,
      Style.firstCall_eq_some_iff.mpr ⟨before, name, after, h, rfl⟩, Option.map_some]
  obtain ⟨hit, hhit, hcaptured⟩ := Option.map_eq_some_iff.mp hsearch
  have hcall : (Style.braceOrArrow.pattern.search line).bind Hit.captured =
      some ⟨before.length, (before ++ name).length⟩ := by
    rw [hhit, Option.bind_some, hcaptured]
  exact declaredAt_eq_of_first (List.forall_mem_nil _) hcall

/-! ## Forms -/

/-- Modifiers, each with white space after it. -/
inductive IsModifiers (words : List String) : List Char → Prop
  | one {k : String} {s : List Char} (hk : k ∈ words) (hs : IsSpace s) :
    IsModifiers words (k.toList ++ s)
  | more {k : String} {s rest : List Char} (hk : k ∈ words) (hs : IsSpace s)
    (hrest : IsModifiers words rest) : IsModifiers words (k.toList ++ s ++ rest)

/-- The modifiers that may stand before a name with parameters and a brace. -/
def callModifiers : List String :=
  ["public", "private", "protected", "static", "async"]

/-- A name and parameters, with white space around the parameters. -/
structure IsHeader (n g p g' : List Char) : Prop where
  name : IsIdentifier n
  gap : IsGap g
  close : ')' ∉ p
  gap' : IsGap g'

instance (n g p g' : List Char) : Decidable (IsHeader n g p g') :=
  decidable_of_iff (IsIdentifier n ∧ IsGap g ∧ ')' ∉ p ∧ IsGap g')
    ⟨fun ⟨hn, hg, hp, hg'⟩ => ⟨hn, hg, hp, hg'⟩, fun ⟨hn, hg, hp, hg'⟩ => ⟨hn, hg, hp, hg'⟩⟩

/-- Exception types: words, commas and white space, a word first. -/
def IsExceptionList (e : List Char) : Prop :=
  (∃ a t, e = a :: t ∧ CharSet.word.contains a = true) ∧
    ∀ a ∈ e, CharSet.word.contains a = true ∨ CharSet.blank.contains a = true ∨ a = ','

/-- The qualifier of a C function, with white space after it, or nothing. -/
def IsQualifier (q : List Char) : Prop :=
  q = [] ∨ ∃ k ∈ ["static", "inline", "virtual", "explicit"], ∃ s, IsSpace s ∧ q = k.toList ++ s

/-- What stands between the type and the name of a C function: white space or a star. -/
def IsDivider (d : List Char) : Prop :=
  IsSpace d ∨ ∃ g, IsGap g ∧ d = g ++ ['*']

/-- What comes before the name of a Go function: the key word, and for a method the receiver. -/
inductive IsGoHead : List Char → Prop
  | function {s : List Char} (hs : IsSpace s) : IsGoHead ("func".toList ++ s)
  | method {s v s' : List Char} (hs : IsSpace s) (hne : v ≠ []) (hv : ')' ∉ v) (hs' : IsSpace s') :
    IsGoHead ("func".toList ++ s ++ '(' :: (v ++ ')' :: s'))

/-- A declaration in one line, given by what comes before the name, by the name and by what comes
after it. In some forms, what comes after the parameters may hold no call. -/
inductive Declaration : (lead name rest : List Char) → Prop
  | function {s n g p g' r : List Char} (hs : IsSpace s) (h : IsHeader n g p g') :
    Declaration ("function".toList ++ s) n (g ++ '(' :: (p ++ ')' :: (g' ++ '\x7b' :: r)))
  | method {m n g p g' r : List Char} (hm : IsModifiers callModifiers m) (h : IsHeader n g p g') :
    Declaration m n (g ++ '(' :: (p ++ ')' :: (g' ++ '\x7b' :: r)))
  | assignedArrow {k : String} {s n g g₁ p g' r : List Char} (hk : k ∈ ["const", "let", "var"])
    (hs : IsSpace s) (hg₁ : IsGap g₁) (h : IsHeader n g p g') (hp : '(' ∉ p) (hr : '(' ∉ r) :
    Declaration (k.toList ++ s) n
      (g ++ '=' :: (g₁ ++ '(' :: (p ++ ')' :: (g' ++ '=' :: '>' :: r))))
  | javaMethod {m t s n g p g' s' e g₁ r : List Char} (hm : IsModifiers Style.javaModifiers m)
    (ht : IsIdentifier t) (hs : IsSpace s) (h : IsHeader n g p g') (hs' : IsSpace s')
    (he : IsExceptionList e) (hg₁ : IsGap g₁) (hp : '(' ∉ p) (hr : '(' ∉ r) :
    Declaration (m ++ t ++ s) n
      (g ++ '(' :: (p ++ ')' :: (g' ++ ("throws".toList ++ s' ++ e ++ g₁ ++ '\x7b' :: r))))
  | csharpMethod {m t s n g p g' r : List Char} (hm : IsModifiers Style.csharpModifiers m)
    (ht : IsIdentifier t) (hs : IsSpace s) (h : IsHeader n g p g') :
    Declaration (m ++ t ++ s) n (g ++ '(' :: (p ++ ')' :: (g' ++ '\x7b' :: r)))
  | pythonDef {s n g p g' r : List Char} (hs : IsSpace s) (h : IsHeader n g p g')
    (hbrace : '\x7b' ∉ r) (harrow : ¬"=>".toList <:+: r) :
    Declaration ("def".toList ++ s) n (g ++ '(' :: (p ++ ')' :: (g' ++ ':' :: r)))
  | cFunction {q t d n g p g' r : List Char} (hq : IsQualifier q) (ht : IsIdentifier t)
    (hd : IsDivider d) (h : IsHeader n g p g') :
    Declaration (q ++ t ++ d) n (g ++ '(' :: (p ++ ')' :: (g' ++ '\x7b' :: r)))
  | cConstFunction {q t d n g p g' g₁ r : List Char} (hq : IsQualifier q) (ht : IsIdentifier t)
    (hd : IsDivider d) (h : IsHeader n g p g') (hg₁ : IsGap g₁) (hp : '(' ∉ p) (hr : '(' ∉ r) :
    Declaration (q ++ t ++ d) n
      (g ++ '(' :: (p ++ ')' :: (g' ++ ("const".toList ++ g₁ ++ '\x7b' :: r))))
  | goFunction {x n g p t r : List Char} (hx : IsGoHead x) (h : IsHeader n g p [])
    (hp : '(' ∉ p) (ht : '(' ∉ t) (hr : '(' ∉ r) :
    Declaration x n (g ++ '(' :: (p ++ ')' :: (t ++ '\x7b' :: r)))

namespace Style

variable {style : Style} {words : List String} {m x : List Char}

theorem mem_language_keyword {w : List Char} :
    w ∈ (keyword words).language ↔ ∃ k ∈ words, w = k.toList := by
  simp [keyword, mem_language_oneOf, mem_language_text]

theorem mem_language_space {w : List Char} : w ∈ space.language ↔ IsSpace w :=
  mem_language_someOf

theorem mem_language_word {w : List Char} : w ∈ word.language ↔ IsIdentifier w :=
  mem_language_someOf

theorem mem_language_append_empty {p : Pattern} {w : List Char} :
    w ∈ (p ++ Pattern.empty).language ↔ w ∈ p.language := by
  have hempty : (p ++ Pattern.empty).language = p.language * 1 := rfl
  rw [hempty, mul_one]

theorem mem_language_modifiers (h : IsModifiers words m) : m ∈ (modifiers words).language := by
  have hround : ∀ {k : String} {s : List Char}, k ∈ words → IsSpace s →
      k.toList ++ s ∈ (keyword words ++ space).language := by
    intro k s hk hs
    exact Language.append_mem_mul (mem_language_keyword.mpr ⟨k, hk, rfl⟩)
      (mem_language_space.mpr hs)
  have hmore : (keyword words ++ space).language * (keyword words ++ space).language∗ ≤
      (keyword words ++ space).language∗ := mul_kstar_le_kstar
  induction h with
  | one hk hs =>
    rw [← List.append_nil (_ ++ _)]
    exact Language.append_mem_mul (hround hk hs) (Language.nil_mem_kstar _)
  | more hk hs _ ih => exact Language.append_mem_mul (hround hk hs) (hmore ih)

/-! ### What comes before the name -/

theorem mem_lead_function {s : List Char} (hs : IsSpace s) :
    "function".toList ++ s ∈ braceOrArrow.pattern.lead.language := by
  have hround : (text "function" ++ space).language ≤
      ((text "function" ++ space).language + (keyword callModifiers ++ space).language)∗ :=
    le_sup_left.trans le_kstar
  refine mem_language_append_empty.mpr (hround ?_)
  exact Language.append_mem_mul (mem_language_text.mpr rfl) (mem_language_space.mpr hs)

theorem mem_lead_method (h : IsModifiers callModifiers m) :
    m ∈ braceOrArrow.pattern.lead.language := by
  have hrounds : (modifiers callModifiers).language ≤
      ((text "function" ++ space).language + (keyword callModifiers ++ space).language)∗ :=
    mul_kstar_le_kstar.trans (kstar_mono le_sup_right)
  exact mem_language_append_empty.mpr (hrounds (mem_language_modifiers h))

theorem mem_lead_assignedArrow {k : String} {s : List Char} (hk : k ∈ ["const", "let", "var"])
    (hs : IsSpace s) : k.toList ++ s ∈ assignedArrow.pattern.lead.language := by
  refine mem_language_append_empty.mpr (Language.append_mem_mul ?_ (mem_language_space.mpr hs))
  exact mem_language_keyword.mpr ⟨k, hk, rfl⟩

theorem mem_lead_javaMethod {t s : List Char} (hm : IsModifiers javaModifiers m)
    (ht : IsIdentifier t) (hs : IsSpace s) :
    m ++ t ++ s ∈ javaMethod.pattern.lead.language := by
  have htype : t ∈ (word ++ opt typeArguments ++ many (text "[]")).language := by
    rw [← t.append_nil, ← t.append_nil]
    refine Language.append_mem_mul ?_ (Language.nil_mem_kstar _)
    exact Language.append_mem_mul (mem_language_word.mpr ht) (.inr Language.nil_mem_one)
  have hmodifiers : m ∈ (modifiers javaModifiers ++ opt (typeArguments ++ space)).language := by
    rw [← m.append_nil]
    exact Language.append_mem_mul (mem_language_modifiers hm) (.inr Language.nil_mem_one)
  refine mem_language_append_empty.mpr (Language.append_mem_mul ?_ (mem_language_space.mpr hs))
  exact Language.append_mem_mul hmodifiers htype

theorem mem_lead_csharpMethod {t s : List Char} (hm : IsModifiers csharpModifiers m)
    (ht : IsIdentifier t) (hs : IsSpace s) :
    m ++ t ++ s ∈ csharpMethod.pattern.lead.language := by
  refine mem_language_append_empty.mpr (Language.append_mem_mul ?_ (mem_language_space.mpr hs))
  exact Language.append_mem_mul (mem_language_modifiers hm) (mem_language_word.mpr ht)

theorem mem_lead_pythonDef {s : List Char} (hs : IsSpace s) :
    "def".toList ++ s ∈ pythonDef.pattern.lead.language := by
  refine mem_language_append_empty.mpr (Language.append_mem_mul ?_ (mem_language_space.mpr hs))
  exact mem_language_text.mpr rfl

theorem mem_lead_cFunction {q t d : List Char} (hq : IsQualifier q) (ht : IsIdentifier t)
    (hd : IsDivider d) : q ++ t ++ d ∈ cFunction.pattern.lead.language := by
  have hqualifier :
      q ∈ (opt (keyword ["static", "inline", "virtual", "explicit"]) ++ gap).language := by
    rcases hq with rfl | ⟨k, hk, s, hs, rfl⟩
    · exact Language.append_mem_mul (a := []) (b := []) (.inr Language.nil_mem_one)
        (List.forall_mem_nil _)
    · exact Language.append_mem_mul (.inl (mem_language_keyword.mpr ⟨k, hk, rfl⟩)) hs.2
  have hdivider : d ∈ (Pattern.alt (gap ++ char '*') space).language := by
    rcases hd with hd | ⟨g, hg, rfl⟩
    · exact .inr (mem_language_space.mpr hd)
    · exact .inl (Language.append_mem_mul hg (mem_language_char.mpr rfl))
  refine mem_language_append_empty.mpr (Language.append_mem_mul ?_ hdivider)
  exact Language.append_mem_mul hqualifier (mem_language_word.mpr ht)

theorem mem_lead_goFunc (h : IsGoHead x) : x ∈ goFunc.pattern.lead.language := by
  refine mem_language_append_empty.mpr ?_
  have hfunc : ∀ {s : List Char}, IsSpace s →
      "func".toList ++ s ∈ (text "func" ++ space).language :=
    fun hs => Language.append_mem_mul (mem_language_text.mpr rfl) (mem_language_space.mpr hs)
  cases h with
  | function hs =>
    rw [← List.append_nil (_ ++ _)]
    exact Language.append_mem_mul (hfunc hs) (.inr Language.nil_mem_one)
  | @method s v s' hs hne hv hs' =>
    refine Language.append_mem_mul (hfunc hs) (.inl ?_)
    have hreceiver : '(' :: (v ++ ')' :: s') = ['('] ++ v ++ [')'] ++ s' := by simp
    rw [hreceiver]
    refine Language.append_mem_mul ?_ (mem_language_space.mpr hs')
    refine Language.append_mem_mul ?_ (mem_language_char.mpr rfl)
    refine Language.append_mem_mul (mem_language_char.mpr rfl) (mem_language_someOf.mpr ⟨hne, ?_⟩)
    intro a ha
    exact (CharSet.contains_allBut _ _).mpr fun h => hv (List.mem_singleton.mp h ▸ ha)

/-! ### Lines of each form -/

/-- A name with parameters and a brace is found behind anything without parentheses. -/
theorem declaredAt_of_brace {n g p g' : List Char}
    (havoids : style.pattern.lead.avoids (.ofChars ['(']) = true)
    (hx : x ∈ style.pattern.lead.language) (h : IsHeader n g p g') (r : List Char) :
    declaredAt (x ++ n ++ (g ++ '(' :: (p ++ ')' :: (g' ++ '\x7b' :: r)))) =
      some ⟨x.length, (x ++ n).length⟩ := by
  have hparen : '(' ∉ x := notMem_of_avoids havoids hx
  have hlast : ∀ a ∈ x.getLast?, CharSet.word.contains a = false := by
    intro a ha
    rcases endsOutside_of_shuts style.shuts_lead hx with ⟨-, rfl⟩ | hends
    · cases ha
    · exact hends.contains_getLast a ha
  have hbrace : ['\x7b'] ∈ braceOrArrow.finish.language := .inl (mem_language_char.mpr rfl)
  refine declaredAt_of_isFirstCall
    (isFirstCall_of_shelters (shelters_of_notMem hparen) hlast h.name ?_)
  exact opensCall_iff_startsIn.mpr
    (startsIn_trail (by decide) h.gap h.close (finishes_append h.gap' hbrace r))

/-- In a line with one parameter list, the styles that want something else after it find nothing. -/
theorem declaredAt_of_finish {n g p g' z r : List Char} {c : Char} (hstyle : style ≠ assignedArrow)
    (hearlier : ∀ s ∈ style.earlier, s ≠ goFunc ∧ s.finish.opens (.single c) false = true)
    (hx : x ∈ style.pattern.lead.language) (hparen : '(' ∉ x) (h : IsHeader n g p g')
    (hp : '(' ∉ p) (hz : z ∈ style.finish.language) (hhead : z.head? = some c)
    (hc : CharSet.blank.contains c = false) (hr : '(' ∉ z ++ r) :
    declaredAt (x ++ n ++ (g ++ '(' :: (p ++ ')' :: (g' ++ (z ++ r))))) =
      some ⟨x.length, (x ++ n).length⟩ := by
  have hfound := captured_search_of_startsIn hx h.name
    (startsIn_trail hstyle h.gap h.close (finishes_append h.gap' hz r))
  refine declaredAt_eq_of_first (fun s hs => ?_) hfound
  have hbefore : '(' ∉ x ++ n ++ g := by
    rw [List.mem_append, List.mem_append, not_or, not_or]
    exact ⟨⟨hparen, h.name.notMem (by decide)⟩, h.gap.notMem (by decide)⟩
  obtain ⟨t, rfl⟩ := List.head?_eq_some_iff.mp hhead
  obtain ⟨hgo, hopens⟩ := hearlier s hs
  rw [← List.append_assoc]
  exact search_eq_none_of_finish hbefore hp h.close h.gap' hc hr hgo hopens

theorem contains_exceptionList {a : Char}
    (h : CharSet.word.contains a = true ∨ CharSet.blank.contains a = true ∨ a = ',') :
    pattern.exceptionList.contains a = true := by
  simp only [pattern.exceptionList, CharSet.word, CharSet.blank, CharSet.contains_ofRanges,
    List.any_append, Bool.or_eq_true] at h ⊢
  rcases h with h | h | rfl
  · exact .inl (.inl h)
  · exact .inl (.inr h)
  · exact .inr (by decide)

theorem declaredAt_of_javaMethod {t s n g p g' s' e g₁ r : List Char}
    (hm : IsModifiers javaModifiers m) (ht : IsIdentifier t) (hs : IsSpace s)
    (h : IsHeader n g p g') (hs' : IsSpace s') (he : IsExceptionList e) (hg₁ : IsGap g₁)
    (hp : '(' ∉ p) (hr : '(' ∉ r) :
    declaredAt (m ++ t ++ s ++ n ++
      (g ++ '(' :: (p ++ ')' :: (g' ++ ("throws".toList ++ s' ++ e ++ g₁ ++ '\x7b' :: r))))) =
      some ⟨(m ++ t ++ s).length, (m ++ t ++ s ++ n).length⟩ := by
  have hlist : e ∈ (Pattern.someOf pattern.exceptionList).language := by
    obtain ⟨⟨a, t, rfl, -⟩, he⟩ := he
    exact mem_language_someOf.mpr ⟨by simp, fun a ha => contains_exceptionList (he a ha)⟩
  have hclause : "throws".toList ++ s' ++ e ++ (g₁ ++ ['\x7b']) ∈ javaMethod.finish.language := by
    refine .inl (Language.append_mem_mul (Language.append_mem_mul ?_ hlist) ?_)
    · exact Language.append_mem_mul (mem_language_text.mpr rfl) (mem_language_space.mpr hs')
    · exact Language.append_mem_mul hg₁ (mem_language_char.mpr rfl)
  have hparen : '(' ∉ m ++ t ++ s := by
    have hmodifiers : '(' ∉ m := notMem_of_avoids (by decide) (mem_language_modifiers hm)
    simp only [List.mem_append, not_or]
    exact ⟨⟨hmodifiers, ht.notMem (by decide)⟩, hs.2.notMem (by decide)⟩
  have hlistParen : '(' ∉ e := by
    intro hmem
    rcases he.2 '(' hmem with h | h | h
    · exact absurd h (by decide)
    · exact absurd h (by decide)
    · exact absurd h (by decide)
  have hrest : "throws".toList ++ s' ++ e ++ g₁ ++ '\x7b' :: r =
      "throws".toList ++ s' ++ e ++ (g₁ ++ ['\x7b']) ++ r := by simp
  rw [hrest]
  refine declaredAt_of_finish (c := 't') (by decide) (by decide)
    (mem_lead_javaMethod hm ht hs) hparen h hp hclause rfl (by decide) ?_
  simp only [List.mem_append, List.mem_cons, not_or]
  exact ⟨⟨⟨⟨by decide, hs'.2.notMem (by decide)⟩, hlistParen⟩, hg₁.notMem (by decide), by decide,
    List.not_mem_nil⟩, hr⟩

theorem declaredAt_of_cConstFunction {q t d n g p g' g₁ r : List Char} (hq : IsQualifier q)
    (ht : IsIdentifier t) (hd : IsDivider d) (h : IsHeader n g p g') (hg₁ : IsGap g₁)
    (hp : '(' ∉ p) (hr : '(' ∉ r) :
    declaredAt (q ++ t ++ d ++ n ++
      (g ++ '(' :: (p ++ ')' :: (g' ++ ("const".toList ++ g₁ ++ '\x7b' :: r))))) =
      some ⟨(q ++ t ++ d).length, (q ++ t ++ d ++ n).length⟩ := by
  have hx := mem_lead_cFunction hq ht hd
  have hclause : "const".toList ++ (g₁ ++ ['\x7b']) ∈ cFunction.finish.language := by
    refine .inl (Language.append_mem_mul (mem_language_text.mpr rfl) ?_)
    exact Language.append_mem_mul hg₁ (mem_language_char.mpr rfl)
  have hparen : '(' ∉ q ++ t ++ d := notMem_of_avoids (by decide) hx
  have hrest : "const".toList ++ g₁ ++ '\x7b' :: r =
      "const".toList ++ (g₁ ++ ['\x7b']) ++ r := by simp
  rw [hrest]
  refine declaredAt_of_finish (c := 'c') (by decide) (by decide) hx hparen h hp hclause rfl
    (by decide) ?_
  simp only [List.mem_append, List.mem_cons, not_or]
  exact ⟨⟨by decide, hg₁.notMem (by decide), by decide, List.not_mem_nil⟩, hr⟩

/-- Between its name and its parameters, an assigned arrow function has an equals sign, so the
parameters belong to no call. -/
theorem declaredAt_of_assignedArrow {k : String} {s n g g₁ p g' r : List Char}
    (hk : k ∈ ["const", "let", "var"]) (hs : IsSpace s) (hg₁ : IsGap g₁) (h : IsHeader n g p g')
    (hp : '(' ∉ p) (hr : '(' ∉ r) :
    declaredAt (k.toList ++ s ++ n ++ (g ++ '=' :: (g₁ ++ '(' :: (p ++ ')' ::
      (g' ++ '=' :: '>' :: r))))) = some ⟨(k.toList ++ s).length, (k.toList ++ s ++ n).length⟩ := by
  have hx := mem_lead_assignedArrow hk hs
  refine declaredAt_eq_of_first (List.forall_mem_singleton.mpr ?_)
    (captured_search_of_startsIn hx h.name ?_)
  · rw [Option.eq_none_iff_forall_not_mem]
    intro hit hhit
    obtain ⟨before, name, head, params, after, hparts, -⟩ := exists_parts_of_search hhit
    have hparen : '(' ∉ k.toList ++ s ++ n ++ (g ++ '=' :: g₁) := by
      have hlead : '(' ∉ k.toList ++ s := notMem_of_avoids (by decide) hx
      simp only [List.mem_append, List.mem_cons, not_or] at hlead ⊢
      exact ⟨⟨hlead, h.name.notMem (by decide)⟩, h.gap.notMem (by decide), by decide,
        hg₁.notMem (by decide)⟩
    have hrest : '(' ∉ g' ++ '=' :: '>' :: r := by
      simp only [List.mem_append, List.mem_cons, not_or]
      exact ⟨h.gap'.notMem (by decide), by decide, by decide, hr⟩
    have hline : k.toList ++ s ++ n ++ (g ++ '=' :: (g₁ ++ '(' :: (p ++ ')' ::
        (g' ++ '=' :: '>' :: r)))) = k.toList ++ s ++ n ++ (g ++ '=' :: g₁) ++
        '(' :: (p ++ ')' :: (g' ++ '=' :: '>' :: r)) := by simp
    rw [hline] at hparts
    obtain ⟨hbefore, -⟩ := hparts.eq_of_notMem hparen hp h.close hrest
    -- the name would be the equals sign
    have hsplit : before ++ name ++ head = (k.toList ++ s ++ n ++ g ++ ['=']) ++ g₁ := by
      rw [hbefore]
      simp
    have hname : IsIdentifier name := ⟨hparts.isRun.ne_nil, hparts.isRun.word⟩
    obtain ⟨hlast, -⟩ := append_inj_of_getLast (hparts.head_gap (by decide)) hg₁
      hname.blank_getLast (by simp; decide) hsplit
    have hmem := List.getLast?_append_of_ne_nil before hname.1
    rw [hlast, List.getLast?_concat] at hmem
    have hword := hname.2 '=' (List.mem_of_mem_getLast? hmem.symm)
    exact absurd hword (by decide)
  · rw [language_trail_assignedArrow]
    refine ⟨g ++ (['='] ++ (g₁ ++ ([] ++ ('(' :: (p ++ [')']) ++ (g' ++ "=>".toList))))), r, ?_, ?_⟩
    · simp
    · refine Language.append_mem_mul h.gap (Language.append_mem_mul (mem_language_char.mpr rfl) ?_)
      refine Language.append_mem_mul hg₁ (Language.append_mem_mul (.inr Language.nil_mem_one) ?_)
      refine Language.append_mem_mul (mem_language_parameters.mpr ⟨p, rfl, h.close⟩) ?_
      exact Language.append_mem_mul h.gap' (mem_language_text.mpr rfl)

/-- A finish with a brace or an arrow needs one in the text. -/
theorem brace_or_arrow_of_finishes {after : List Char} (hstyle : style ∈ pythonDef.earlier)
    (h : style.Finishes after) : '\x7b' ∈ after ∨ "=>".toList <:+: after := by
  obtain ⟨_, v, rfl, g, -, z, hz, rfl⟩ := h
  have hbrace : ∀ {w : List Char}, w ∈ openBrace.language →
      '\x7b' ∈ w ∨ "=>".toList <:+: w := by
    intro w hw
    obtain rfl := mem_language_char.mp hw
    exact .inl (by simp)
  have harrow : ∀ {w : List Char}, w ∈ (text "=>").language →
      '\x7b' ∈ w ∨ "=>".toList <:+: w := by
    intro w hw
    obtain rfl := mem_language_text.mp hw
    exact .inr List.infix_rfl
  have hfinish : '\x7b' ∈ z ∨ "=>".toList <:+: z := by
    have hstyle : style ∈ [braceOrArrow, assignedArrow, javaMethod, csharpMethod] := hstyle
    simp only [List.mem_cons, List.not_mem_nil, or_false] at hstyle
    rcases hstyle with rfl | rfl | rfl | rfl
    · rcases hz with hz | hz
      · exact hbrace hz
      · exact harrow hz
    · exact harrow hz
    · rcases hz with ⟨u, -, _, ⟨g', -, w, hw, rfl⟩, rfl⟩ | hz
      · exact (hbrace hw).imp (by simp +contextual) fun h => h.trans ⟨u ++ g', [], by simp⟩
      · exact hbrace hz
    · exact hbrace hz
  exact hfinish.imp (by simp +contextual) fun h => h.trans ⟨g, v, rfl⟩

/-- The styles before it find nothing in a Python function with neither a brace nor an arrow after
the parameters. -/
theorem declaredAt_of_pythonDef {s n g p g' r : List Char} (hs : IsSpace s) (h : IsHeader n g p g')
    (hbrace : '\x7b' ∉ r) (harrow : ¬"=>".toList <:+: r) :
    declaredAt ("def".toList ++ s ++ n ++ (g ++ '(' :: (p ++ ')' :: (g' ++ ':' :: r)))) =
      some ⟨("def".toList ++ s).length, ("def".toList ++ s ++ n).length⟩ := by
  refine declaredAt_eq_of_first (fun style hstyle => ?_)
    (captured_search_of_startsIn (mem_lead_pythonDef hs) h.name ?_)
  · have hclose : ')' ∉ "def".toList ++ s ++ n ++ (g ++ '(' :: p) := by
      simp only [List.mem_append, List.mem_cons, not_or]
      exact ⟨⟨⟨by decide, hs.2.notMem (by decide)⟩, h.name.notMem (by decide)⟩,
        h.gap.notMem (by decide), by decide, h.close⟩
    have hline : "def".toList ++ s ++ n ++ (g ++ '(' :: (p ++ ')' :: (g' ++ ':' :: r))) =
        "def".toList ++ s ++ n ++ (g ++ '(' :: p) ++ ')' :: (g' ++ ':' :: r) := by simp
    rw [hline]
    refine search_eq_none_of_close hclose fun after hafter hfinish => ?_
    rcases brace_or_arrow_of_finishes hstyle hfinish with hmem | hinfix
    · have hmem := hafter.subset hmem
      simp only [List.mem_append, List.mem_cons] at hmem
      rcases hmem with hmem | hmem | hmem
      · exact h.gap'.notMem (by decide) hmem
      · exact absurd hmem (by decide)
      · exact hbrace hmem
    · -- an arrow starts after the colon
      obtain ⟨u, v, huv⟩ := hinfix.trans hafter.isInfix
      have hequals : '=' ∉ g' ++ [':'] := by
        rw [List.mem_append, not_or]
        exact ⟨h.gap'.notMem (by decide), by decide⟩
      have hsplit : g' ++ [':'] ++ r = u ++ '=' :: ('>' :: v) := by
        simpa using huv.symm
      obtain ⟨d, -, rfl⟩ := exists_append_of_notMem hequals hsplit
      exact harrow ⟨d, v, by simp⟩
  · have hcolon : [':'] ∈ pythonDef.finish.language := mem_language_char.mpr rfl
    exact startsIn_trail (by decide) h.gap h.close (finishes_append h.gap' hcolon r)

end Style

end Relocation
