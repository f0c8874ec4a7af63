import Relocation.Proofs.Ignore.Pieces

/-!
# Verdicts on the two forms of a path

A directory is asked for twice, by its path and by its path with a slash at the end. A rule can
match one of the two forms only, or the two in different ways, so the verdicts can differ as well.

* `Decides` — the rule that has the last word on a path,
* `ignores_eq_true_iff` — **a verdict is that of the rule that decides**,
* `Rule.search_append_slash` — a rule that matches a path matches it with a slash at the end too,
  unless a line feed ends the path,
* `TakesBack` — rules leave a path out, but not the form with a slash at the end,
* `TakesBack.exists_later` — **how that comes about**: a negation has the last word on the form with
  the slash, and most often it stands further down than the rule that leaves the path out.
-/

namespace Relocation.Ignore

/-! ## The last word -/

/-- A rule has the last word on a path: it is the last one that matches by the path itself, or, if
none does, the last one that matches at all. -/
inductive Decides (rules : List Rule) (path : List Char) (r : Rule) : Prop where
  | entry (before after : List Rule) (split : rules = before ++ r :: after)
    (search : r.search path = some .entry) (later : ∀ r' ∈ after, r'.search path ≠ some .entry)
  | folder (before after : List Rule) (split : rules = before ++ r :: after)
    (search : r.search path = some .folder) (others : ∀ r' ∈ rules, r'.search path ≠ some .entry)
    (later : ∀ r' ∈ after, r'.search path = none)

/-- The last element with a property. -/
theorem find?_reverse_eq_some_iff {α : Type} {p : α → Bool} {l : List α} {a : α} :
    l.reverse.find? p = some a ↔
      p a = true ∧ ∃ before after, l = before ++ a :: after ∧ ∀ b ∈ after, p b = false := by
  rw [List.find?_eq_some_iff_append]
  refine and_congr_right fun _ => ⟨?_, ?_⟩
  · rintro ⟨after, before, hsplit, hafter⟩
    refine ⟨before.reverse, after.reverse, ?_, fun b hb => ?_⟩
    · rw [← List.reverse_inj, hsplit]
      simp
    · simpa using hafter b (List.mem_reverse.mp hb)
  · rintro ⟨before, after, rfl, hafter⟩
    refine ⟨after.reverse, before.reverse, by simp, fun b hb => ?_⟩
    rw [hafter b (List.mem_reverse.mp hb)]
    rfl

section

variable {rules : List Rule} {path : List Char} {r : Rule}

/-- The rule that has the last word, if any. -/
def decider (rules : List Rule) (path : List Char) : Option Rule :=
  rules.reverse.find? (fun r => r.search path == some .entry) <|>
    rules.reverse.find? fun r => (r.search path).isSome

theorem decider_eq_some_iff : decider rules path = some r ↔ Decides rules path r := by
  rw [decider, Option.orElse_eq_orElse, Option.orElse_eq_or, Option.or_eq_some_iff,
    find?_reverse_eq_some_iff, find?_reverse_eq_some_iff, List.find?_eq_none]
  constructor
  · rintro (⟨hr, before, after, hsplit, hafter⟩ | ⟨hnone, hr, before, after, hsplit, hafter⟩)
    · exact .entry before after hsplit (beq_iff_eq.mp hr) fun r' hr' => by simpa using hafter r' hr'
    · have hnone' : ∀ r' ∈ rules, r'.search path ≠ some .entry := by simpa using hnone
      refine .folder before after hsplit ?_ hnone' fun r' hr' => by simpa using hafter r' hr'
      obtain ⟨m, hm⟩ := Option.isSome_iff_exists.mp hr
      cases m with
      | entry => exact absurd hm (hnone' r (by rw [hsplit]; simp))
      | folder => exact hm
  · rintro (⟨before, after, hsplit, hr, hafter⟩ | ⟨before, after, hsplit, hr, hnone, hafter⟩)
    · refine .inl ⟨beq_iff_eq.mpr hr, before, after, hsplit, fun r' hr' => ?_⟩
      simpa using hafter r' hr'
    · refine .inr ⟨by simpa using hnone, by simp [hr], before, after, hsplit, fun r' hr' => ?_⟩
      rw [hafter r' hr']
      rfl

/-- At most one rule decides. -/
theorem Decides.unique {r' : Rule} (h : Decides rules path r) (h' : Decides rules path r') :
    r = r' :=
  Option.some_inj.mp ((decider_eq_some_iff.mpr h).symm.trans (decider_eq_some_iff.mpr h'))

theorem Decides.mem (h : Decides rules path r) : r ∈ rules := by
  obtain ⟨before, after, rfl, -⟩ | ⟨before, after, rfl, -⟩ := h <;> simp

theorem Decides.search_ne_none (h : Decides rules path r) : r.search path ≠ none := by
  obtain ⟨before, after, -, hr, -⟩ | ⟨before, after, -, hr, -⟩ := h <;> simp [hr]

/-- Some rule decides if some rule matches. -/
theorem exists_decides_iff :
    (∃ r, Decides rules path r) ↔ ∃ r ∈ rules, r.search path ≠ none := by
  constructor
  · rintro ⟨r, h⟩
    exact ⟨r, h.mem, h.search_ne_none⟩
  · rintro ⟨r, hmem, hr⟩
    simp only [← decider_eq_some_iff, ← Option.isSome_iff_exists]
    rw [decider, Option.orElse_eq_orElse, Option.orElse_eq_or, Option.isSome_or, Bool.or_eq_true]
    refine .inr (List.find?_isSome.mpr ⟨r, List.mem_reverse.mpr hmem, ?_⟩)
    exact Option.isSome_iff_ne_none.mpr hr

/-- The first of several rules that matches in some way is found among all matches too. -/
theorem map_fst_find?_hits (path : List Char) (p : Match → Bool) (rules : List Rule) :
    ((rules.filterMap fun r => (r.search path).map (r, ·)).find? fun hit => p hit.2).map Prod.fst =
      rules.find? fun r => (r.search path).any p := by
  induction rules with
  | nil => rfl
  | cons r rules ih =>
    rw [List.filterMap_cons, List.find?_cons]
    cases r.search path with
    | none => exact ih
    | some m =>
      rw [Option.map_some, List.find?_cons, Option.any_some]
      cases p m with
      | false => exact ih
      | true => rfl

theorem ignores_eq_any_decider :
    ignores rules path = (decider rules path).any fun r => !r.negated := by
  have hentry := map_fst_find?_hits path (· == .entry) rules.reverse
  have hany := map_fst_find?_hits path (fun _ => true) rules.reverse
  have hkind : (fun r : Rule => (r.search path).any (· == .entry)) =
      fun r => r.search path == some .entry := by
    funext r
    cases r.search path <;> rfl
  have hsome : (fun r : Rule => (r.search path).any fun _ => true) =
      fun r => (r.search path).isSome := by
    funext r
    cases r.search path <;> rfl
  have hhead (hits : List (Rule × Match)) : (hits.find? fun _ => true) = hits.head? := by
    cases hits <;> rfl
  rw [hkind] at hentry
  rw [hsome, hhead] at hany
  rw [ignores, decider, ← hentry, ← hany]
  generalize rules.reverse.filterMap (fun r => (r.search path).map (r, ·)) = hits
  cases hits.find? fun hit => hit.2 == .entry with
  | some hit => rfl
  | none => cases hits.head? <;> rfl

/-- **A verdict is that of the rule that decides.** -/
theorem ignores_eq_true_iff :
    ignores rules path = true ↔ ∃ r, Decides rules path r ∧ r.negated = false := by
  rw [ignores_eq_any_decider, Option.any_eq_true]
  simp [decider_eq_some_iff]

end

/-! ## A slash at the end -/

section

variable {pieces : List Piece} {text path : List Char} {rule : Rule}

/-- Pieces that fit a text fit it with a slash at the end: where the end of the path was matched
before, it is the slash now. A single line feed at the end is passed over by the end of the path,
but does not come before a slash. -/
theorem fits_append_slash (hpieces : .ending ∉ pieces.dropLast) (htext : text.getLast? ≠ some '\n')
    (h : Fits pieces text) : Fits pieces (text ++ ['/']) := by
  induction pieces generalizing text with
  | nil => exact ⟨_, rfl⟩
  | cons piece pieces ih =>
    obtain ⟨rest, htakes, hrest⟩ := fits_cons.mp h
    refine fits_cons.mpr ?_
    by_cases hending : piece = .ending
    · obtain rfl : pieces = [] := by
        refine Classical.byContradiction fun hne => hpieces ?_
        rw [List.dropLast_cons_of_ne_nil hne, hending]
        exact List.mem_cons_self
      subst hending
      rcases htakes with rfl | ⟨rfl, rfl | rfl⟩
      · exact ⟨rest ++ ['/'], .inl rfl, _, rfl⟩
      · exact ⟨[], .inl rfl, _, rfl⟩
      · exact absurd rfl htext
    · refine ⟨rest ++ ['/'], Piece.takes_frame hending htakes ['/'], ih ?_ ?_ hrest⟩
      · intro hmem
        refine hpieces ?_
        rw [List.dropLast_cons_of_ne_nil (List.ne_nil_of_mem (List.mem_of_mem_dropLast hmem))]
        exact List.mem_cons_of_mem _ hmem
      · obtain ⟨w, rfl⟩ := Piece.exists_append_of_takes htakes
        intro hlast
        rw [List.getLast?_append, hlast] at htext
        exact htext rfl

/-- A rule that matches a path matches it with a slash at the end too. -/
theorem Rule.search_append_slash {line : List Char} (hrule : Rule.compile line = .ok (some rule))
    (hpath : path.getLast? ≠ some '\n') (h : rule.search path ≠ none) :
    rule.search (path ++ ['/']) ≠ none := by
  rcases Rule.exists_pieces_of_compile hrule with
    ⟨piece, hpiece, hpattern⟩ | ⟨tail, hpattern, htail⟩
  · have hkind : piece ≠ .start ∧ piece ≠ .ending := by
      simp only [List.mem_cons, List.not_mem_nil, or_false] at hpiece
      rcases hpiece with rfl | rfl | rfl <;> simp
    rw [Rule.search_ne_none_iff_of_single hpattern hkind.1] at h ⊢
    obtain ⟨skipped, before, after, rfl, htakes⟩ := h
    exact ⟨skipped, before ++ ['/'], after ++ ['/'], List.append_assoc ..,
      Piece.takes_frame hkind.2 htakes ['/']⟩
  · rw [Rule.search_ne_none_iff_of_start hpattern htail.start_not_mem] at h ⊢
    exact fits_append_slash htail.ending_not_mem hpath h

/-- The rules of several lines match with a slash at the end what they match without. -/
theorem search_append_slash_of_mem {lines : List (List Char)} {rules : List Rule}
    (hrules : compileAll lines = .ok rules) (hmem : rule ∈ rules)
    (hpath : path.getLast? ≠ some '\n') (h : rule.search path ≠ none) :
    rule.search (path ++ ['/']) ≠ none := by
  rw [(compileAll_eq_ok_iff.mp hrules).2] at hmem
  obtain ⟨line, -, hline⟩ := List.mem_filterMap.mp hmem
  exact Rule.search_append_slash (Rule.ofLine?_eq_some_iff.mp hline) hpath h

end

/-! ## Two verdicts that differ -/

section

variable {rules : List Rule} {path : List Char}

/-- Rules leave a path out, but not its form with a slash at the end. -/
def TakesBack (rules : List Rule) (path : List Char) : Prop :=
  (∃ r, Decides rules path r ∧ r.negated = false) ∧
    ∀ r, Decides rules (path ++ ['/']) r → r.negated = true

theorem takesBack_iff : TakesBack rules path ↔
    ignores rules path = true ∧ ignores rules (path ++ ['/']) = false := by
  rw [TakesBack, ← Bool.not_eq_true, ignores_eq_true_iff, ignores_eq_true_iff, not_exists]
  simp only [not_and, Bool.not_eq_false]

/-- A rule that matches a path on which another one has the last word stands further up, or it
matches by a directory on the way and the other one by the path itself. -/
theorem Decides.exists_split {r r' : Rule} (h : Decides rules path r') (hmem : r ∈ rules)
    (hne : r ≠ r') (hsearch : r.search path ≠ none) :
    (∃ before middle after, rules = before ++ r :: (middle ++ r' :: after)) ∨
      r.search path = some .folder ∧ r'.search path = some .entry := by
  have hup {before after : List Rule} (hsplit : rules = before ++ r' :: after) (hr : r ∉ after) :
      ∃ before middle after, rules = before ++ r :: (middle ++ r' :: after) := by
    rw [hsplit, List.mem_append, List.mem_cons] at hmem
    have hbefore : r ∈ before := by
      rcases hmem with hmem | rfl | hmem
      · exact hmem
      · exact absurd rfl hne
      · exact absurd hmem hr
    obtain ⟨first, middle, rfl⟩ := List.append_of_mem hbefore
    exact ⟨first, middle, after, by rw [hsplit, List.append_assoc, List.cons_append]⟩
  obtain ⟨before, after, hsplit, hr', hlater⟩ | ⟨before, after, hsplit, -, -, hlater⟩ := h
  · by_cases hafter : r ∈ after
    · right
      refine ⟨?_, hr'⟩
      obtain ⟨m, hm⟩ := Option.ne_none_iff_exists'.mp hsearch
      cases m with
      | entry => exact absurd hm (hlater r hafter)
      | folder => exact hm
    · exact .inl (hup hsplit hafter)
  · exact .inl (hup hsplit fun hafter => hsearch (hlater r hafter))

/-- **How a path is taken back.** A negation has the last word on the form with the slash. It stands
further down than the rule that leaves the path out, or it matches the form with the slash by
itself, as `!build/**` matches `build/`, and the other rule only by the directory. -/
theorem TakesBack.exists_later {lines : List (List Char)} (hrules : compileAll lines = .ok rules)
    (hpath : path.getLast? ≠ some '\n') (h : TakesBack rules path) :
    ∃ r r', Decides rules path r ∧ r.negated = false ∧
      Decides rules (path ++ ['/']) r' ∧ r'.negated = true ∧
      ((∃ before middle after, rules = before ++ r :: (middle ++ r' :: after)) ∨
        r.search (path ++ ['/']) = some .folder ∧ r'.search (path ++ ['/']) = some .entry) := by
  obtain ⟨⟨r, hr, hplain⟩, hfolder⟩ := h
  have hsearch : r.search (path ++ ['/']) ≠ none :=
    search_append_slash_of_mem hrules hr.mem hpath hr.search_ne_none
  obtain ⟨r', hr'⟩ := exists_decides_iff.mpr ⟨r, hr.mem, hsearch⟩
  have hnegated := hfolder r' hr'
  have hne : r ≠ r' := by
    rintro rfl
    exact Bool.false_ne_true (hplain.symm.trans hnegated)
  exact ⟨r, r', hr, hplain, hr', hnegated, hr'.exists_split hr.mem hne hsearch⟩

end

end Relocation.Ignore
