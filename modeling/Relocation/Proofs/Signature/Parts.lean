import Relocation.Proofs.Signature.Lines

/-!
# The parts of a declaration

Every style has the same outline: something in front of the name, the name, parameters in
parentheses, and what a style wants to see after them. So the matches of all styles can be divided
alike, and a style that wants something else after the parameters finds nothing.

* `Style.finish` — what a style wants to see after the parameters,
* `Style.Parts` — a line divided into these parts,
* `Style.exists_parts_of_search` — **what a style finds has these parts**,
* `Style.captured_search_of_startsIn` — **a line with these parts is found**, under its name,
* `Style.search_eq_none_of_finish`, `Style.search_eq_none_of_close` — lines in which a style finds
  nothing.
-/

namespace Relocation

/-! ## White space and identifiers -/

/-- White space, possibly none. -/
def IsGap (text : List Char) : Prop :=
  ∀ a ∈ text, CharSet.blank.contains a = true

/-- White space, at least one character of it. -/
def IsSpace (text : List Char) : Prop :=
  text ≠ [] ∧ IsGap text

/-- A text of identifier characters, at least one. -/
def IsIdentifier (text : List Char) : Prop :=
  text ≠ [] ∧ ∀ a ∈ text, CharSet.word.contains a = true

-- the instances name the pass over the text: a search for one may try all characters instead
instance (text : List Char) : Decidable (IsGap text) :=
  List.decidableBAll (fun a => CharSet.blank.contains a = true) text

instance (text : List Char) : Decidable (IsSpace text) :=
  inferInstanceAs (Decidable (text ≠ [] ∧ IsGap text))

instance (text : List Char) : Decidable (IsIdentifier text) :=
  @instDecidableAnd (text ≠ []) _ inferInstance
    (List.decidableBAll (fun a => CharSet.word.contains a = true) text)

theorem IsGap.notMem {g : List Char} {c : Char} (hg : IsGap g)
    (hc : CharSet.blank.contains c = false) : c ∉ g := by
  intro hmem
  rw [hg c hmem] at hc
  cases hc

theorem IsIdentifier.notMem {n : List Char} {c : Char} (hn : IsIdentifier n)
    (hc : CharSet.word.contains c = false) : c ∉ n := by
  intro hmem
  rw [hn.2 c hmem] at hc
  cases hc

theorem IsIdentifier.exists_cons {n : List Char} (hn : IsIdentifier n) :
    ∃ a t, n = a :: t ∧ CharSet.word.contains a = true := by
  obtain ⟨a, t, rfl⟩ := List.exists_cons_of_ne_nil hn.1
  exact ⟨a, t, rfl, hn.2 a List.mem_cons_self⟩

/-- No white space comes after the last character of an identifier. -/
theorem IsIdentifier.blank_getLast {before n : List Char} (hn : IsIdentifier n) :
    ∀ a ∈ (before ++ n).getLast?, CharSet.blank.contains a = false := by
  intro a ha
  rw [List.getLast?_append_of_ne_nil _ hn.1] at ha
  exact CharSet.contains_of_apart (s := .word) (by decide) (hn.2 a (List.mem_of_mem_getLast? ha))

/-! ## Parentheses -/

section Parentheses

variable {y p rest before params after : List Char}

/-- A text without parentheses ends before the first one of a line. -/
theorem length_le_of_notMem {c : Char} (hy : c ∉ y) (h : y ++ rest = before ++ c :: after) :
    y.length ≤ before.length := by
  obtain ⟨d, rfl, -⟩ := exists_append_of_notMem hy h
  simp

/-- A text is divided in one way at the first place of a character. -/
theorem append_cons_inj {c : Char} (hy : c ∉ y) (hbefore : c ∉ before)
    (h : y ++ c :: rest = before ++ c :: after) : y = before ∧ rest = after := by
  have hnot : ∀ {x : List Char}, c ∉ x → ∀ a ∈ x, (a != c) = true :=
    fun hx a ha => bne_iff_ne.mpr fun heq => hx (heq ▸ ha)
  obtain ⟨hsame, hrest⟩ := Style.append_inj_of_head (r := c :: rest) (t := c :: after)
    (hnot hy) (hnot hbefore) (by simp) (by simp) h
  exact ⟨hsame, (List.cons.inj hrest).2⟩

/-- Where no parenthesis opens any more, the last one that does starts the last parameters. -/
theorem parameters_unique (hp : '(' ∉ p) (hclose : ')' ∉ p) (hrest : '(' ∉ rest)
    (hparams : ')' ∉ params) (hle : y.length ≤ before.length)
    (h : y ++ '(' :: (p ++ ')' :: rest) = before ++ '(' :: (params ++ ')' :: after)) :
    before = y ∧ after = rest := by
  obtain ⟨d, rfl, hd⟩ := exists_append_of_length_le h hle
  cases d with
  | nil =>
    obtain ⟨-, hsame⟩ := append_cons_inj hclose hparams (List.cons.inj hd).2
    exact ⟨List.append_nil y, hsame.symm⟩
  | cons a d =>
    have hmem : '(' ∈ p ++ ')' :: rest := by
      rw [(List.cons.inj hd).2]
      simp
    rcases List.mem_append.mp hmem with hmem | hmem
    · exact absurd hmem hp
    · rcases List.mem_cons.mp hmem with heq | hmem
      · exact absurd heq (by decide)
      · exact absurd hmem hrest

end Parentheses

namespace Style

open Pattern

/-! ## After the parameters -/

/-- What a style wants to see after the parameters and white space. -/
def finish : Style → Pattern
  | braceOrArrow => .alt openBrace (text "=>")
  | assignedArrow => text "=>"
  | javaMethod => .alt (throwsClause ++ (gap ++ openBrace)) openBrace
  | csharpMethod => openBrace
  | pythonDef => char ':'
  | cFunction => .alt (text "const" ++ (gap ++ openBrace)) openBrace
  | goFunc => opt (.run (.allBut ['\x7b'])) ++ openBrace

theorem gap_mul_gap : gap.language * gap.language = gap.language := by
  refine le_antisymm gap_mul_gap_le ?_
  calc gap.language = gap.language * 1 := (mul_one _).symm
    _ ≤ gap.language * gap.language := by
      gcongr
      intro w hw
      obtain rfl := (Language.mem_one w).mp hw
      exact List.forall_mem_nil _

theorem language_outline (p : Pattern) :
    (Pattern.empty ++ gap ++ parameters ++ gap ++ p).language =
      gap.language * (parameters.language * (gap.language * p.language)) := by
  have hempty : Pattern.empty.language = 1 := rfl
  simp only [language_append, hempty, one_mul, mul_assoc]

/-- Where a part between two gaps is left out, one gap is enough. -/
theorem language_outline_opt (p q : Pattern) :
    (Pattern.empty ++ gap ++ parameters ++ gap ++ opt p ++ gap ++ q).language =
      gap.language * (parameters.language *
        (gap.language * (Pattern.alt (p ++ (gap ++ q)) q).language)) := by
  have hopt : (opt p).language = p.language + 1 := rfl
  have halt : (Pattern.alt (p ++ (gap ++ q)) q).language =
      p.language * (gap.language * q.language) + q.language := rfl
  rw [language_append, language_append, language_outline, halt, hopt]
  simp only [mul_assoc, mul_add, add_mul, one_mul]
  rw [← mul_assoc gap.language gap.language q.language, gap_mul_gap]

/-- After a name come a gap, parameters, a gap and the finish. -/
theorem language_trail {style : Style} (h : style ≠ assignedArrow) :
    style.pattern.trail.language =
      gap.language * (parameters.language * (gap.language * style.finish.language)) := by
  cases style with
  | assignedArrow => exact absurd rfl h
  | javaMethod => exact language_outline_opt throwsClause openBrace
  | cFunction => exact language_outline_opt (text "const") openBrace
  | goFunc =>
    have htrail : goFunc.pattern.trail.language =
        (Pattern.empty ++ gap ++ parameters ++ gap ++ opt (.run (.allBut ['\x7b']))).language *
          openBrace.language := rfl
    rw [htrail, language_outline]
    simp only [finish, language_append, mul_assoc]
  | _ => exact language_outline _

theorem language_trail_assignedArrow :
    assignedArrow.pattern.trail.language =
      gap.language * ((char '=').language * (gap.language * ((opt asyncMark).language *
        (parameters.language * (gap.language * assignedArrow.finish.language))))) := by
  have htrail : assignedArrow.pattern.trail.language =
      1 * gap.language * (char '=').language * gap.language * (opt asyncMark).language *
        parameters.language * gap.language * (text "=>").language := rfl
  have hfinish : assignedArrow.finish.language = (text "=>").language := rfl
  rw [htrail, hfinish]
  simp only [one_mul, mul_assoc]

/-- A text that comes after parameters and goes on as a style wants. -/
def Finishes (style : Style) (after : List Char) : Prop :=
  StartsIn (gap.language * style.finish.language) after

variable {style : Style} {line : List Char}

theorem isSteady_finish (style : Style) : style.finish.isSteady = true := by
  cases style <;> decide

theorem opens_finish (h : style ≠ goFunc) : style.finish.opens .blank false = true := by
  cases style with
  | goFunc => exact absurd rfl h
  | _ => decide

/-- A finish is told by its first character. -/
theorem not_finishes_of_opens {g t : List Char} {c : Char} (hstyle : style ≠ goFunc)
    (hg : IsGap g) (hc : CharSet.blank.contains c = false)
    (hfinish : style.finish.opens (.single c) false = true) : ¬style.Finishes (g ++ c :: t) := by
  rintro ⟨_, v, htext, g', hg', z, hz, rfl⟩
  obtain ⟨a, z', rfl, ha⟩ :=
    exists_head_of_opens style.isSteady_finish (opens_finish hstyle) hz
  obtain ⟨b, z'', hcons, hb⟩ := exists_head_of_opens style.isSteady_finish hfinish hz
  obtain ⟨rfl, -⟩ := List.cons.inj hcons
  obtain ⟨-, hsame⟩ := append_inj_of_head (r := c :: t) (t := a :: z' ++ v) hg hg'
    (by simpa using hc) (by simpa using ha) (by simpa using htext)
  obtain ⟨rfl, -⟩ := List.cons.inj hsame
  rw [(CharSet.contains_single c c).mpr rfl] at hb
  cases hb

/-- No style goes on with words and then a parenthesis. -/
theorem not_finishes_of_paren {w t : List Char} (hstyle : style ≠ goFunc)
    (hw : ∀ a ∈ w, CharSet.word.contains a = true ∨ CharSet.blank.contains a = true) :
    ¬style.Finishes (w ++ '(' :: t) := by
  rintro ⟨z, v, htext, hz⟩
  have hz : z ∈ (gap ++ style.finish).language := hz
  have havoids : (gap ++ style.finish).avoids (.ofChars ['(']) = true := by
    cases style with
    | goFunc => exact absurd rfl hstyle
    | _ => decide
  have hshuts : (gap ++ style.finish).shuts
      (.ofRanges (CharSet.word.ranges ++ CharSet.blank.ranges)) false = true := by
    cases style with
    | goFunc => exact absurd rfl hstyle
    | _ => decide
  have hparen : '(' ∉ z := notMem_of_avoids havoids hz
  -- the finish ends before the parenthesis, so it ends with a character of a word or a gap
  obtain ⟨d, rfl, -⟩ := exists_append_of_notMem hparen htext.symm
  rcases endsOutside_of_shuts hshuts hz with ⟨hfalse, -⟩ | ⟨z, a, rfl, ha⟩
  · cases hfalse
  · rw [CharSet.contains_ofRanges, List.any_append, Bool.or_eq_false_iff] at ha
    have hword : CharSet.word.contains a = false := (CharSet.contains_ofRanges _ a).trans ha.1
    have hblank : CharSet.blank.contains a = false := (CharSet.contains_ofRanges _ a).trans ha.2
    rcases hw a (by simp) with hmem | hmem
    · rw [hword] at hmem
      cases hmem
    · rw [hblank] at hmem
      cases hmem

/-! ## Lines divided -/

/-- A text that ends with a text of a language. -/
def EndsIn (l : Language Char) (text : List Char) : Prop :=
  ∃ u z, text = u ++ z ∧ z ∈ l

/-- A line divided into the parts of a declaration. Between the name and the parameters there is
white space, or the assignment of an arrow function. -/
structure Parts (style : Style) (line before name head params after : List Char) : Prop where
  isRun : IsRun line before name (head ++ '(' :: (params ++ ')' :: after))
  lead : EndsIn style.pattern.lead.language before
  head_gap : style ≠ assignedArrow → IsGap head
  head_equals : style = assignedArrow → ∃ g t, head = g ++ '=' :: t ∧ IsGap g
  close : ')' ∉ params
  finishes : style.Finishes after

theorem Parts.line_eq {before name head params after : List Char}
    (h : Parts style line before name head params after) :
    line = before ++ name ++ head ++ '(' :: (params ++ ')' :: after) := by
  rw [h.isRun.line_eq]
  simp

theorem exists_parameters {rest : List Char} (h : StartsIn style.pattern.trail.language rest) :
    ∃ head params after, rest = head ++ '(' :: (params ++ ')' :: after) ∧ ')' ∉ params ∧
      style.Finishes after ∧ (style ≠ assignedArrow → IsGap head) ∧
      (style = assignedArrow → ∃ g t, head = g ++ '=' :: t ∧ IsGap g) := by
  by_cases hstyle : style = assignedArrow
  · subst hstyle
    rw [language_trail_assignedArrow] at h
    obtain ⟨_, v, rfl, g, hg, _, ⟨e, he, _, ⟨g', -, _, ⟨o, -, _, ⟨w, hw, z, hz, rfl⟩, rfl⟩, rfl⟩,
      rfl⟩, rfl⟩ := h
    obtain rfl := mem_language_char.mp he
    obtain ⟨q, rfl, hq⟩ := mem_language_parameters.mp hw
    exact ⟨g ++ '=' :: (g' ++ o), q, z ++ v, by simp, hq, ⟨z, v, rfl, hz⟩,
      fun hne => absurd rfl hne, fun _ => ⟨g, _, rfl, hg⟩⟩
  · rw [language_trail hstyle, startsIn_parameters_iff] at h
    obtain ⟨after, hafter, hfinish⟩ := h
    obtain ⟨g, q, rfl, hg, hq⟩ := afterParameters?_eq_some_iff.mp hafter
    exact ⟨g, q, after, rfl, hq, hfinish, fun _ => hg, fun heq => absurd heq hstyle⟩

/-- **What a style finds** has the parts of a declaration. -/
theorem exists_parts_of_search {hit : Hit} (h : style.pattern.search line = some hit) :
    ∃ before name head params after, Parts style line before name head params after ∧
      hit.captured = some ⟨before.length, (before ++ name).length⟩ := by
  obtain ⟨before, name, rest, hrun, hcaptured⟩ := isRun_of_search h
  obtain ⟨hinside, hreads, -⟩ := reads_of_search style.isFree_pattern style.isSteady_pattern h
  obtain ⟨u, v, hline, hstart⟩ := hinside.exists_append
  obtain ⟨x, n, y, htext, hx, -, hy, hplace⟩ :=
    exists_of_reads_of_capturesOnce style.capturesOnce_pattern hreads
  -- the name of the reading is the run
  rw [hcaptured, ← hstart] at hplace
  simp only [Option.some.injEq, Span.mk.injEq, List.length_append] at hplace
  obtain ⟨hlength, hlength'⟩ := hplace
  rw [htext] at hline
  have hsplit : before ++ (name ++ rest) = (u ++ x) ++ (n ++ (y ++ v)) := by
    rw [← List.append_assoc, ← hrun.line_eq, hline]
    simp
  obtain ⟨hbefore, hrest⟩ := List.append_inj hsplit (by simpa using hlength)
  obtain ⟨-, rfl⟩ := List.append_inj hrest (by omega)
  have htrail : StartsIn style.pattern.trail.language (y ++ v) := ⟨y, v, rfl, hy⟩
  obtain ⟨head, params, after, hsplit, hclose, hfinish, hgap, hequals⟩ := exists_parameters htrail
  rw [hsplit] at hrun
  exact ⟨before, name, head, params, after,
    ⟨hrun, ⟨u, x, hbefore, hx⟩, hgap, hequals, hclose, hfinish⟩, hcaptured⟩

/-- **A line with the parts of a declaration is found**, under its name. -/
theorem captured_search_of_startsIn {x n rest : List Char} (hx : x ∈ style.pattern.lead.language)
    (hn : IsIdentifier n) (hrest : StartsIn style.pattern.trail.language rest) :
    (style.pattern.search (x ++ n ++ rest)).bind Hit.captured =
      some ⟨x.length, (x ++ n).length⟩ := by
  obtain ⟨y, v, rfl, hy⟩ := hrest
  have hcore : n ∈ style.pattern.core.language := by
    rw [core_pattern]
    exact mem_language_someOf.mpr hn
  have hreads := reads_of_capturesOnce style.capturesOnce_pattern hx hcore hy 0 none
  have hmem := mem_ends_of_reads style.isSteady_pattern hreads v
  rw [← List.append_assoc]
  obtain ⟨d, ds, hends⟩ := List.exists_cons_of_ne_nil (List.ne_nil_of_mem hmem)
  have hsame := captured_eq_of_mem_ends (hends ▸ List.mem_cons_self) hmem
  have hhit : style.pattern.hitAt 0 (x ++ n ++ y ++ v) = some ⟨⟨0, d.pos⟩, d.captured⟩ := by
    rw [hitAt_eq, hends]
    rfl
  rw [search, searchFrom_eq_of_hitAt hhit, Option.bind_some, hsame]
  simp

theorem startsIn_trail {g p after : List Char} (hstyle : style ≠ assignedArrow) (hg : IsGap g)
    (hp : ')' ∉ p) (h : style.Finishes after) :
    StartsIn style.pattern.trail.language (g ++ '(' :: (p ++ ')' :: after)) := by
  rw [language_trail hstyle, startsIn_parameters_iff]
  exact ⟨after, afterParameters?_eq_some_iff.mpr ⟨g, p, rfl, hg, hp⟩, h⟩

theorem finishes_append {g z : List Char} (hg : IsGap g) (hz : z ∈ style.finish.language)
    (v : List Char) : style.Finishes (g ++ (z ++ v)) :=
  ⟨g ++ z, v, (List.append_assoc g z v).symm, Language.append_mem_mul hg hz⟩

/-! ## Lines in which a style finds nothing -/

/-- In a line with one parameter list, a style looks at what comes after that. -/
theorem Parts.eq_of_notMem {y p rest before name head params after : List Char} (hy : '(' ∉ y)
    (hp : '(' ∉ p) (hclose : ')' ∉ p) (hrest : '(' ∉ rest)
    (h : Parts style (y ++ '(' :: (p ++ ')' :: rest)) before name head params after) :
    before ++ name ++ head = y ∧ after = rest :=
  parameters_unique hp hclose hrest h.close (length_le_of_notMem hy h.line_eq) h.line_eq

theorem search_eq_none_of_finish {y p g t : List Char} {c : Char} (hy : '(' ∉ y) (hp : '(' ∉ p)
    (hclose : ')' ∉ p) (hg : IsGap g) (hc : CharSet.blank.contains c = false)
    (ht : '(' ∉ c :: t) (hstyle : style ≠ goFunc)
    (hfinish : style.finish.opens (.single c) false = true) :
    style.pattern.search (y ++ '(' :: (p ++ ')' :: (g ++ c :: t))) = none := by
  rw [Option.eq_none_iff_forall_not_mem]
  intro hit hhit
  obtain ⟨before, name, head, params, after, hparts, -⟩ := exists_parts_of_search hhit
  have hrest : '(' ∉ g ++ c :: t := by
    rw [List.mem_append, not_or]
    exact ⟨hg.notMem (by decide), ht⟩
  obtain ⟨-, rfl⟩ := hparts.eq_of_notMem hy hp hclose hrest
  exact not_finishes_of_opens hstyle hg hc hfinish hparts.finishes

/-- A style finds nothing if nothing after the first closing parenthesis is what it wants. -/
theorem search_eq_none_of_close {y rest : List Char} (hy : ')' ∉ y)
    (hrest : ∀ after, after <:+ rest → ¬style.Finishes after) :
    style.pattern.search (y ++ ')' :: rest) = none := by
  rw [Option.eq_none_iff_forall_not_mem]
  intro hit hhit
  obtain ⟨before, name, head, params, after, hparts, -⟩ := exists_parts_of_search hhit
  have hsplit : y ++ ')' :: rest = before ++ name ++ head ++ '(' :: params ++ ')' :: after := by
    rw [hparts.line_eq]
    simp
  obtain ⟨d, -, hd⟩ := exists_append_of_notMem hy hsplit
  refine hrest after ?_ hparts.finishes
  cases d with
  | nil => exact ⟨[], (List.cons.inj hd).2.symm⟩
  | cons a d => exact ⟨d ++ [')'], by simpa using (List.cons.inj hd).2.symm⟩

end Style

end Relocation
