import Relocation.Proofs.Signature.Declarations

/-!
# Recognised declarations

What is found in a line that holds a declaration.

* `GoFunction`, `declaredAt_goFunction_iff` — **the name of a Go function** is found, unless a style
  that is tried before finds a name elsewhere in the line,
* `Signature.extract_declaration_and_goFunction` — **a declaration is found under its name**.
-/

namespace Relocation

open Pattern

/-! ## Go functions -/

/-- A Go function in one line: after the parameters, a brace opens somewhere. -/
structure GoFunction (x n g p rest : List Char) : Prop where
  head : IsGoHead x
  name : IsIdentifier n
  gap : IsGap g
  close : ')' ∉ p
  brace : '\x7b' ∈ rest

section GoFunction

open Style (braceOrArrow assignedArrow javaMethod csharpMethod pythonDef cFunction goFunc)

variable {x n g p rest : List Char}

theorem IsGoHead.exists_cons (h : IsGoHead x) : ∃ t, x = 'f' :: t := by
  cases h with
  | function => exact ⟨_, rfl⟩
  | method => exact ⟨_, rfl⟩

theorem IsGoHead.word_getLast (h : IsGoHead x) :
    ∀ a ∈ x.getLast?, CharSet.word.contains a = false := by
  have hspace : ∀ {s : List Char}, IsSpace s → ∀ before : List Char,
      ∀ a ∈ (before ++ s).getLast?, CharSet.word.contains a = false := by
    intro s hs before a ha
    rw [List.getLast?_append_of_ne_nil _ hs.1] at ha
    exact CharSet.contains_of_apart (s := .blank) (by decide) (hs.2 a (List.mem_of_mem_getLast? ha))
  cases h with
  | function hs => exact hspace hs _
  | @method s v s' hs _ _ hs' =>
    have hsplit : "func".toList ++ s ++ '(' :: (v ++ ')' :: s') =
        "func".toList ++ s ++ '(' :: v ++ [')'] ++ s' := by simp
    rw [hsplit]
    exact hspace hs' _

/-- The receiver ends in front of the name. -/
theorem IsGoHead.shelters (h : IsGoHead x) : Shelters x := by
  cases h with
  | function hs =>
    refine shelters_of_notMem ?_
    rw [List.mem_append, not_or]
    exact ⟨by decide, hs.2.notMem (by decide)⟩
  | @method s v s' hs _ hv hs' =>
    intro rest before params after hline hclose hlt
    have hopen : ')' ∉ "func".toList ++ s ++ '(' :: v := by
      simp only [List.mem_append, List.mem_cons, not_or]
      exact ⟨⟨by decide, hs.2.notMem (by decide)⟩, by decide, hv⟩
    have hsplit : "func".toList ++ s ++ '(' :: v ++ ')' :: (s' ++ rest) =
        before ++ '(' :: (params ++ ')' :: after) := by
      rw [← hline]
      simp
    rcases Nat.le_total before.length ("func".toList ++ s ++ '(' :: v).length with hle | hle
    · -- the parameters are the receiver, or a part of it
      obtain ⟨d, hd, hrest⟩ := exists_append_of_length_le hsplit.symm hle
      have hclose' : ')' ∉ '(' :: params := by
        rw [List.mem_cons, not_or]
        exact ⟨by decide, hclose⟩
      have hopen' : ')' ∉ d := by
        rw [hd] at hopen
        exact fun hmem => hopen (List.mem_append_right before hmem)
      obtain ⟨-, hafter⟩ := append_cons_inj hclose' hopen' (by simpa using hrest)
      exact ⟨s', hs'.2, hafter⟩
    · -- else they would start in the white space after it
      obtain ⟨d, rfl, hrest⟩ := exists_append_of_length_le hsplit hle
      cases d with
      | nil => exact absurd (List.cons.inj hrest).1 (by decide)
      | cons a d =>
        have := length_le_of_notMem (hs'.2.notMem (by decide)) (List.cons.inj hrest).2
        simp only [List.length_append, List.length_cons] at hlt this
        omega

theorem GoFunction.captured (h : GoFunction x n g p rest) :
    (goFunc.pattern.search (x ++ n ++ (g ++ '(' :: (p ++ ')' :: rest)))).bind Hit.captured =
      some ⟨x.length, (x ++ n).length⟩ := by
  obtain ⟨t, r, rfl, ht⟩ := List.eq_append_cons_of_mem h.brace
  have hfinish : t ++ ['\x7b'] ∈ goFunc.finish.language := by
    refine Language.append_mem_mul (.inl fun a ha => ?_) (mem_language_char.mpr rfl)
    exact (CharSet.contains_allBut _ _).mpr fun hmem => ht (List.mem_singleton.mp hmem ▸ ha)
  refine Style.captured_search_of_startsIn (Style.mem_lead_goFunc h.head) h.name ?_
  have hend : t ++ '\x7b' :: r = [] ++ (t ++ ['\x7b'] ++ r) := by simp
  rw [hend]
  exact Style.startsIn_trail (by decide) h.gap h.close
    (Style.finishes_append (List.forall_mem_nil _) hfinish r)

/-- In front of a name, Java and Python want to see something that starts with a key word and that
ends, white space apart, with neither white space nor a closing parenthesis. -/
theorem exists_language_lead_eq {style : Style} (hstyle : style = javaMethod ∨ style = pythonDef) :
    ∃ l : Pattern,
      style.pattern.lead.language = (l ++ Style.space ++ Pattern.empty).language ∧
      l.shuts (.ofRanges ([(')', ')')] ++ CharSet.blank.ranges)) false = true ∧
      ∀ w ∈ l.language, ∃ k ∈ "def" :: Style.javaModifiers, k.toList <+: w := by
  rcases hstyle with rfl | rfl
  · refine ⟨_, rfl, by decide, ?_⟩
    rintro _ ⟨_, ⟨_, ⟨_, ⟨w, hw, s, -, rfl⟩, t, -, rfl⟩, o, -, rfl⟩, r, -, rfl⟩
    obtain ⟨k, hk, rfl⟩ := Style.mem_language_keyword.mp hw
    exact ⟨k, List.mem_cons_of_mem _ hk, s ++ (t ++ (o ++ r)), by simp⟩
  · refine ⟨text "def", rfl, by decide, fun w hw => ⟨"def", List.mem_cons_self, ?_⟩⟩
    rw [mem_language_text.mp hw]

/-- The head of a Go function is nothing of that kind. -/
theorem IsGoHead.not_endsIn {style : Style} (hstyle : style = javaMethod ∨ style = pythonDef)
    (h : IsGoHead x) : ¬Style.EndsIn style.pattern.lead.language x := by
  rintro ⟨u, z, rfl, hz⟩
  obtain ⟨l, hlead, hshuts, hkey⟩ := exists_language_lead_eq hstyle
  rw [hlead, Style.mem_language_append_empty] at hz
  obtain ⟨w, hw, g, hspace, rfl⟩ := hz
  have hg := Style.mem_language_space.mp hspace
  generalize hx : u ++ (w ++ g) = x at h
  cases h with
  | @function s hs =>
    -- a letter of the key word does not occur
    have hletter : ∀ k ∈ "def" :: Style.javaModifiers,
        (k.toList.any fun a => !"func".toList.contains a && !CharSet.blank.contains a) = true := by
      decide
    obtain ⟨k, hk, hprefixed⟩ := hkey w hw
    obtain ⟨a, ha, hother⟩ := List.any_eq_true.mp (hletter k hk)
    simp only [Bool.and_eq_true, Bool.not_eq_true', List.contains_eq_mem,
      decide_eq_false_iff_not] at hother
    obtain ⟨hfunc, hblank⟩ := hother
    have hmem : a ∈ "func".toList ++ s := by
      rw [← hx]
      exact List.mem_append_right u (List.mem_append_left g (hprefixed.subset ha))
    rcases List.mem_append.mp hmem with hmem | hmem
    · exact hfunc hmem
    · exact hs.2.notMem hblank hmem
  | @method s v s' hs _ hv hs' =>
    rcases endsOutside_of_shuts hshuts hw with ⟨hfalse, -⟩ | ⟨w, a, rfl, ha⟩
    · cases hfalse
    · rw [CharSet.contains_ofRanges, List.any_append, Bool.or_eq_false_iff] at ha
      have hblank : CharSet.blank.contains a = false := (CharSet.contains_ofRanges _ a).trans ha.2
      have hsplit : u ++ w ++ [a] ++ g = "func".toList ++ s ++ '(' :: v ++ [')'] ++ s' := by
        rw [List.append_assoc, List.append_assoc, ← List.append_assoc w, hx]
        simp
      have hclose : ∀ b ∈ ("func".toList ++ s ++ '(' :: v ++ [')']).getLast?,
          CharSet.blank.contains b = false := by
        intro b hb
        rw [List.getLast?_concat] at hb
        cases hb
        decide
      obtain ⟨hlast, -⟩ :=
        Style.append_inj_of_getLast hg.2 hs'.2 (by simpa using hblank) hclose hsplit
      obtain ⟨-, hsame⟩ := List.append_inj' hlast rfl
      obtain rfl := List.singleton_inj.mp hsame
      exact absurd ha.1 (by decide)

/-- A style whose declarations look otherwise does not find the name. -/
theorem GoFunction.captured_ne {style : Style}
    (hstyle : style ∈ [assignedArrow, javaMethod, pythonDef]) (h : GoFunction x n g p rest) :
    (style.pattern.search (x ++ n ++ (g ++ '(' :: (p ++ ')' :: rest)))).bind Hit.captured ≠
      some ⟨x.length, (x ++ n).length⟩ := by
  intro hcaptured
  obtain ⟨hit, hhit, hplace⟩ := Option.bind_eq_some_iff.mp hcaptured
  obtain ⟨before, name, head, params, after, hparts, hname⟩ := Style.exists_parts_of_search hhit
  rw [hplace] at hname
  simp only [Option.some.injEq, Span.mk.injEq] at hname
  have hline := hparts.isRun.line_eq
  obtain ⟨hsame, hrest⟩ := List.append_inj hline hname.2
  obtain ⟨rfl, rfl⟩ := List.append_inj hsame hname.1
  simp only [List.mem_cons, List.not_mem_nil, or_false] at hstyle
  rcases hstyle with rfl | hstyle
  · -- an equals sign would come after the name
    obtain ⟨g', t, rfl, hg'⟩ := hparts.head_equals rfl
    have hsplit : g ++ '(' :: (p ++ ')' :: rest) =
        g' ++ '=' :: (t ++ '(' :: (params ++ ')' :: after)) := by
      rw [hrest]
      simp
    obtain ⟨-, hsame⟩ :=
      Style.append_inj_of_head h.gap hg' (by simp; decide) (by simp; decide) hsplit
    exact absurd (List.cons.inj hsame).1 (by decide)
  · exact h.head.not_endsIn hstyle hparts.lead

/-- In a line without calls whose name is not found by three of the styles, no style but the last
one finds another name. -/
theorem captured_eq_of_declaredAt {line : List Char} {place : Span}
    (hbrace : braceOrArrow.pattern.search line = none)
    (hne : ∀ style ∈ [assignedArrow, javaMethod, pythonDef],
      (style.pattern.search line).bind Hit.captured ≠ some place)
    (h : declaredAt line = some place) :
    ∀ style ≠ goFunc, ∀ k, (style.pattern.search line).bind Hit.captured = some k → k = place := by
  have hcsharp := Style.search_csharpMethod hbrace
  have harrow : assignedArrow.pattern.search line = none :=
    search_eq_none_of_ne (by simp [Style.earlier, Style.all, hbrace]) h (hne _ (by decide))
  have hjava : javaMethod.pattern.search line = none :=
    search_eq_none_of_ne (by simp [Style.earlier, Style.all, hbrace, harrow]) h (hne _ (by decide))
  have hpython : pythonDef.pattern.search line = none :=
    search_eq_none_of_ne (by simp [Style.earlier, Style.all, hbrace, harrow, hjava, hcsharp]) h
      (hne _ (by decide))
  intro style hstyle k hk
  cases style with
  | braceOrArrow => simp [hbrace] at hk
  | assignedArrow => simp [harrow] at hk
  | javaMethod => simp [hjava] at hk
  | csharpMethod => simp [hcsharp] at hk
  | pythonDef => simp [hpython] at hk
  | cFunction =>
    refine captured_of_declaredAt ?_ h hk
    simp [Style.earlier, Style.all, hbrace, harrow, hjava, hcsharp, hpython]
  | goFunc => exact absurd rfl hstyle

/-- **The name of a Go function** is what the line declares exactly if a call goes on from it, or if
no style finds a name elsewhere in the line. -/
theorem declaredAt_goFunction_iff (h : GoFunction x n g p rest) :
    declaredAt (x ++ n ++ (g ++ '(' :: (p ++ ')' :: rest))) = some ⟨x.length, (x ++ n).length⟩ ↔
      Style.opensCall (g ++ '(' :: (p ++ ')' :: rest)) = true ∨
        ∀ style ≠ goFunc, ∀ place, (style.pattern.search
          (x ++ n ++ (g ++ '(' :: (p ++ ')' :: rest)))).bind Hit.captured = some place →
          place = ⟨x.length, (x ++ n).length⟩ := by
  constructor
  · intro hdeclared
    cases hbrace : braceOrArrow.pattern.search (x ++ n ++ (g ++ '(' :: (p ++ ')' :: rest))) with
    | some hit =>
      left
      obtain ⟨before, name, after, hcall, hplace⟩ :=
        Style.isFirstCall_of_search Style.findsCalls_braceOrArrow hbrace
      have hcaptured : (braceOrArrow.pattern.search
          (x ++ n ++ (g ++ '(' :: (p ++ ')' :: rest)))).bind Hit.captured =
          some ⟨before.length, (before ++ name).length⟩ := by
        rw [hbrace, Option.bind_some, hplace]
      have hsame := captured_of_declaredAt (List.forall_mem_nil _) hdeclared hcaptured
      simp only [Span.mk.injEq] at hsame
      obtain ⟨-, hrest⟩ := List.append_inj hcall.isRun.line_eq hsame.2.symm
      rw [hrest]
      exact hcall.opensCall
    | none =>
      right
      exact captured_eq_of_declaredAt hbrace (fun style hstyle => h.captured_ne hstyle) hdeclared
  · rintro (hopens | hall)
    · exact declaredAt_of_isFirstCall
        (Style.isFirstCall_of_shelters h.head.shelters h.head.word_getLast h.name hopens)
    · refine declaredAt_eq_of_forall (fun style place hplace => ?_) h.captured
      by_cases hstyle : style = goFunc
      · subst hstyle
        rw [h.captured] at hplace
        exact (Option.some.inj hplace).symm
      · exact hall style hstyle place hplace

/-- If no parenthesis opens after the name but that of the parameters, the name is found. -/
theorem declaredAt_goFunction_of_notMem (h : GoFunction x n g p rest) (hp : '(' ∉ p)
    (hrest : '(' ∉ rest) :
    declaredAt (x ++ n ++ (g ++ '(' :: (p ++ ')' :: rest))) =
      some ⟨x.length, (x ++ n).length⟩ := by
  rw [declaredAt_goFunction_iff h, or_iff_not_imp_left]
  intro hopens style hstyle place hplace
  obtain ⟨hit, hhit, hcaptured⟩ := Option.bind_eq_some_iff.mp hplace
  obtain ⟨before, name, head, params, after, hparts, hname⟩ := Style.exists_parts_of_search hhit
  obtain rfl := Option.some.inj (hcaptured.symm.trans hname)
  have hline : x ++ n ++ g ++ '(' :: (p ++ ')' :: rest) =
      before ++ name ++ head ++ '(' :: (params ++ ')' :: after) := by
    rw [← hparts.line_eq, List.append_assoc _ g]
  obtain ⟨hsame, rfl⟩ := parameters_unique hp h.close hrest hparts.close
    (hparts.length_le hstyle h.head.shelters h.name h.gap) hline
  by_cases harrow : style = assignedArrow
  · -- an arrow after the parameters makes a call
    subst harrow
    obtain ⟨z, v, rfl, g', hg', w, hw, rfl⟩ := hparts.finishes
    have hbrace : w ∈ braceOrArrow.finish.language := .inr hw
    have hfinish := Style.finishes_append hg' hbrace v
    rw [← List.append_assoc] at hfinish
    exact absurd (Style.opensCall_iff_startsIn.mpr
      (Style.startsIn_trail (by decide) h.gap h.close hfinish)) hopens
  · have hidentifier : IsIdentifier name := ⟨hparts.isRun.ne_nil, hparts.isRun.word⟩
    obtain ⟨hsame, -⟩ := Style.append_inj_of_getLast (hparts.head_gap harrow) h.gap
      hidentifier.blank_getLast h.name.blank_getLast hsame
    obtain ⟨rfl, rfl⟩ := Style.append_inj_of_getLast hidentifier.2 h.name.2
      hparts.isRun.before_last h.head.word_getLast hsame
    rfl

end GoFunction

/-! ## All forms -/

section Declaration

variable {x n rest : List Char}

/-- **A declaration is found under its name.** -/
theorem declaredAt_of_declaration (h : Declaration x n rest) :
    declaredAt (x ++ n ++ rest) = some ⟨x.length, (x ++ n).length⟩ := by
  cases h with
  | function hs h => exact Style.declaredAt_of_brace (by decide) (Style.mem_lead_function hs) h _
  | method hm h => exact Style.declaredAt_of_brace (by decide) (Style.mem_lead_method hm) h _
  | assignedArrow hk hs hg₁ h hp hr => exact Style.declaredAt_of_assignedArrow hk hs hg₁ h hp hr
  | javaMethod hm ht hs h hs' he hg₁ hp hr =>
    exact Style.declaredAt_of_javaMethod hm ht hs h hs' he hg₁ hp hr
  | csharpMethod hm ht hs h =>
    exact Style.declaredAt_of_brace (by decide) (Style.mem_lead_csharpMethod hm ht hs) h _
  | pythonDef hs h hbrace harrow => exact Style.declaredAt_of_pythonDef hs h hbrace harrow
  | cFunction hq ht hd h =>
    exact Style.declaredAt_of_brace (by decide) (Style.mem_lead_cFunction hq ht hd) h _
  | cConstFunction hq ht hd h hg₁ hp hr =>
    exact Style.declaredAt_of_cConstFunction hq ht hd h hg₁ hp hr
  | goFunction hx h hp ht hr =>
    refine declaredAt_goFunction_of_notMem ⟨hx, h.name, h.gap, h.close, by simp⟩ hp ?_
    simp only [List.mem_append, List.mem_cons, not_or]
    exact ⟨ht, by decide, hr⟩

/-- Key words and modifiers start with a letter. -/
theorem exists_cons_of_keyword {words : List String} {k : String} (hk : k ∈ words)
    (hwords : ∀ k ∈ words, k.toList.head?.any CharSet.word.contains = true) (r : List Char) :
    ∃ a t, k.toList ++ r = a :: t ∧ CharSet.word.contains a = true := by
  obtain ⟨a, ha, hword⟩ := (Option.any_eq_true _ _).mp (hwords k hk)
  obtain ⟨t, ht⟩ := List.head?_eq_some_iff.mp ha
  exact ⟨a, t ++ r, by rw [ht, List.cons_append], hword⟩

theorem IsModifiers.exists_cons {words : List String} {m : List Char} (h : IsModifiers words m)
    (hwords : ∀ k ∈ words, k.toList.head?.any CharSet.word.contains = true) (r : List Char) :
    ∃ a t, m ++ r = a :: t ∧ CharSet.word.contains a = true := by
  cases h with
  | one hk hs =>
    rw [List.append_assoc]
    exact exists_cons_of_keyword hk hwords _
  | more hk hs _ =>
    rw [List.append_assoc, List.append_assoc]
    exact exists_cons_of_keyword hk hwords _

theorem exists_cons_of_qualifier {q t : List Char} (hq : IsQualifier q) (ht : IsIdentifier t)
    (r : List Char) : ∃ a u, q ++ (t ++ r) = a :: u ∧ CharSet.word.contains a = true := by
  rcases hq with rfl | ⟨k, hk, s, -, rfl⟩
  · obtain ⟨a, t, rfl, ha⟩ := ht.exists_cons
    exact ⟨a, t ++ r, rfl, ha⟩
  · rw [List.append_assoc]
    exact exists_cons_of_keyword hk (by decide) _

/-- A declaration starts with a letter, so it is no comment. -/
theorem Declaration.exists_cons (h : Declaration x n rest) :
    ∃ a t, x ++ n ++ rest = a :: t ∧ CharSet.word.contains a = true := by
  rw [List.append_assoc]
  cases h with
  | function => exact ⟨'f', _, rfl, by decide⟩
  | method hm => exact hm.exists_cons (by decide) _
  | assignedArrow hk =>
    rw [List.append_assoc]
    exact exists_cons_of_keyword hk (by decide) _
  | javaMethod hm | csharpMethod hm =>
    rw [List.append_assoc, List.append_assoc]
    exact hm.exists_cons (by decide) _
  | pythonDef => exact ⟨'d', _, rfl, by decide⟩
  | cFunction hq ht | cConstFunction hq ht =>
    rw [List.append_assoc, List.append_assoc]
    exact exists_cons_of_qualifier hq ht _
  | goFunction hx =>
    obtain ⟨t, rfl⟩ := hx.exists_cons
    exact ⟨'f', _, rfl, by decide⟩

end Declaration

namespace Signature

open Text (trim)

variable {indent line : List Char} {place : Span}

theorem isSkipped_trim_of_word {a : Char} {t : List Char} (ha : CharSet.word.contains a = true) :
    isSkipped (trim .edge (a :: t)) = false := by
  have hedge : CharSet.edge.contains a = false :=
    CharSet.contains_of_apart (s := .word) (by decide) ha
  have htrim : ∃ u, trim .edge (a :: t) = a :: u := by
    refine ⟨Text.trimEnd .edge t, ?_⟩
    rw [trim, Text.trimStart, List.dropWhile_cons_of_neg (by simp [hedge])]
    exact Text.trimEnd_append_cons hedge [] t
  obtain ⟨u, hu⟩ := htrim
  rw [hu, isSkipped_eq_false_iff]
  refine ⟨by simp, fun marker hmarker hstart => ?_⟩
  have hmarkers : ∀ marker ∈ commentMarkers,
      marker.toList.head?.all CharSet.word.contains = false := by decide
  obtain ⟨b, hb, hword⟩ := (Option.all_eq_false _ _).mp (hmarkers marker hmarker)
  obtain ⟨v, hv⟩ := List.head?_eq_some_iff.mp hb
  rw [hv] at hstart
  obtain ⟨rfl, -⟩ := List.cons_prefix_cons.mp hstart
  rw [ha] at hword
  cases hword

/-- A line that starts with a letter, indented or not, has the signature that it declares. -/
theorem extract_of_declaredAt (hindent : IsGap indent) (hnewline : '\n' ∉ indent ++ line)
    (hline : ∃ a t, line = a :: t ∧ CharSet.word.contains a = true)
    (h : declaredAt line = some place) :
    extract (.ofList (indent ++ line)) =
      [⟨.ofList (place.slice line), .ofList (trim .edge line), 1⟩] := by
  obtain ⟨a, t, rfl, ha⟩ := hline
  have htrim : trim .edge (indent ++ a :: t) = trim .edge (a :: t) :=
    Text.trim_append (fun b hb => CharSet.contains_edge_of_blank (hindent b hb)) _
  have hname : declaredName (a :: t) = some (place.slice (a :: t)) := by
    rw [declaredName_eq, h, Option.map_some]
  rw [extract_ofList hnewline, ofLine?_congr 1 htrim,
    ofLine?_eq_some_iff.mpr ⟨isSkipped_trim_of_word ha, _, hname, rfl⟩]
  rfl

/-- **A declaration is found under its name**, and nothing else is found in its line. A Go function
is always found; whatever opens after its parameters, it is found under its own name exactly if a
call goes on from that, or if no style finds a name elsewhere in the line. -/
theorem extract_declaration_and_goFunction :
    (∀ indent x n rest : List Char, IsGap indent → Declaration x n rest →
      '\n' ∉ indent ++ (x ++ n ++ rest) →
      extract (.ofList (indent ++ (x ++ n ++ rest))) =
        [⟨.ofList n, .ofList (trim .edge (x ++ n ++ rest)), 1⟩]) ∧
    ∀ indent x n g p rest line : List Char, IsGap indent → GoFunction x n g p rest →
      line = x ++ n ++ (g ++ '(' :: (p ++ ')' :: rest)) → '\n' ∉ indent ++ line →
      ∃ place : Span,
        extract (.ofList (indent ++ line)) =
          [⟨.ofList (place.slice line), .ofList (trim .edge line), 1⟩] ∧
        (place = ⟨x.length, (x ++ n).length⟩ ↔
          Style.opensCall (g ++ '(' :: (p ++ ')' :: rest)) = true ∨
            ∀ style ≠ Style.goFunc, ∀ other,
              (style.pattern.search line).bind Hit.captured = some other →
              other = ⟨x.length, (x ++ n).length⟩) := by
  refine ⟨fun indent x n rest hindent h hnewline => ?_, ?_⟩
  · rw [extract_of_declaredAt hindent hnewline h.exists_cons (declaredAt_of_declaration h),
      List.length_append, Span.slice_between]
  · rintro indent x n g p rest line hindent h rfl hnewline
    have hsome : (declaredAt (x ++ n ++ (g ++ '(' :: (p ++ ')' :: rest)))).isSome = true := by
      obtain ⟨hit, hhit, -⟩ := Option.bind_eq_some_iff.mp h.captured
      exact isSome_declaredAt_iff.mpr ⟨.goFunc, by rw [hhit, Option.isSome_some]⟩
    obtain ⟨place, hplace⟩ := Option.isSome_iff_exists.mp hsome
    refine ⟨place, extract_of_declaredAt hindent hnewline ?_ hplace, ?_⟩
    · obtain ⟨t, rfl⟩ := h.head.exists_cons
      exact ⟨'f', _, rfl, by decide⟩
    · rw [← declaredAt_goFunction_iff h, hplace, Option.some.injEq]

/-- An indented Python function, and a Go method with a result type. -/
theorem extract_declaration_indented :
    (IsGap "  ".toList ∧ Declaration "def ".toList "f".toList "(x): return x".toList) ∧
      extract "  def f(x): return x" = [⟨"f", "def f(x): return x", 1⟩] ∧
      GoFunction "func (s) ".toList "run".toList [] [] " error \x7b".toList ∧
      ∃ place : Span,
        extract "func (s) run() error \x7b" =
          [⟨.ofList (place.slice "func (s) run() error \x7b".toList),
            "func (s) run() error \x7b", 1⟩] ∧
        (place = ⟨9, 12⟩ ↔ Style.opensCall "() error \x7b".toList = true ∨
          ∀ style ≠ Style.goFunc, ∀ other,
            (style.pattern.search "func (s) run() error \x7b".toList).bind Hit.captured =
              some other → other = ⟨9, 12⟩) := by
  have hindent : IsGap "  ".toList := by decide
  have hpython : Declaration ("def".toList ++ [' ']) ['f']
      ([] ++ '(' :: (['x'] ++ ')' :: ([] ++ ':' :: " return x".toList))) :=
    .pythonDef (by decide) (by decide) (by decide) (by decide)
  have hhead : IsGoHead ("func".toList ++ [' '] ++ '(' :: (['s'] ++ ')' :: [' '])) :=
    .method (by decide) (by decide) (by decide) (by decide)
  have hgo : GoFunction "func (s) ".toList "run".toList [] [] " error \x7b".toList :=
    ⟨hhead, by decide, by decide, by decide, by decide⟩
  have hname : String.ofList ['f'] = "f" := by decide +kernel
  have hline : String.ofList ("  ".toList ++ ("def".toList ++ [' '] ++ ['f'] ++
      ([] ++ '(' :: (['x'] ++ ')' :: ([] ++ ':' :: " return x".toList))))) =
      "  def f(x): return x" := by decide +kernel
  have htrim : String.ofList (trim .edge ("def".toList ++ [' '] ++ ['f'] ++
      ([] ++ '(' :: (['x'] ++ ')' :: ([] ++ ':' :: " return x".toList))))) =
      "def f(x): return x" := by decide +kernel
  have hline' : String.ofList ([] ++ "func (s) run() error \x7b".toList) =
      "func (s) run() error \x7b" := by decide +kernel
  have htrim' : String.ofList (trim .edge "func (s) run() error \x7b".toList) =
      "func (s) run() error \x7b" := by decide +kernel
  obtain ⟨hdeclaration, hfunction⟩ := extract_declaration_and_goFunction
  have hfound := hdeclaration _ _ _ _ hindent hpython (by decide +kernel)
  obtain ⟨place, hextract, hplace⟩ := hfunction [] _ _ _ _ _ "func (s) run() error \x7b".toList
    (List.forall_mem_nil _) hgo (by decide +kernel) (by decide +kernel)
  rw [hline, htrim, hname] at hfound
  rw [hline', htrim'] at hextract
  exact ⟨⟨hindent, hpython⟩, hfound, hgo, place, hextract, hplace⟩

/-- A function literal in the body of a Go function is a call further right, and takes the name. -/
theorem extract_func_literal :
    IsGoHead "func ".toList ∧ IsHeader "run".toList [] [] [] ∧
      "func run() error \x7b go func() \x7b".toList = "func ".toList ++ "run".toList ++
        ([] ++ '(' :: ([] ++ ')' :: (" error ".toList ++ '\x7b' :: " go func() \x7b".toList))) ∧
      extract "func run() error \x7b go func() \x7b" =
        [⟨"func", "func run() error \x7b go func() \x7b", 1⟩] ∧ "func" ≠ "run" := by
  have hhead : IsGoHead ("func".toList ++ [' ']) := .function (by decide)
  exact ⟨hhead, by decide, rfl, by decide +kernel, by decide⟩

end Signature

end Relocation
