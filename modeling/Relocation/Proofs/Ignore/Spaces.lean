import Relocation.Proofs.Ignore.Moving

/-!
# Spaces at the end of a moved line

A line is compiled without the white space at its end, but it is moved with it. Spaces after a slash
at the end make it a slash inside the line, so a line that should hold at every depth is tied to the
directory of its ignore file.

* `IsFirm`, `stripped_append_spaces` — texts that end in a visible character,
* `anchoredIn`, `floatingIn` — the two ways to move a line, with spaces after it,
* `IsLoose` — the lines for which spaces decide between the two ways,
* `Alike` — lines that mean the same,
* `OrdinaryLine.alike_tied_iff` — what it means for an ordinary line to be tied,
* `alike_append_spaces_iff` — **which lines may have spaces after them**.
-/

namespace Relocation.Ignore

/-! ## Texts -/

/-- A text that does not end in white space or a backslash. -/
def IsFirm (text : List Char) : Prop :=
  ∀ c ∈ text.getLast?, c ≠ '\\' ∧ CharSet.blank.contains c = false

instance : DecidablePred IsFirm := fun text =>
  decidable_of_iff (text.getLast?.all fun c => c != '\\' && !CharSet.blank.contains c) <| by
    simp [IsFirm, Option.all_eq_true]

theorem IsFirm.of_suffix {text tail : List Char} (h : IsFirm text) (htail : tail <:+ text) :
    IsFirm tail := by
  obtain ⟨front, rfl⟩ := htail
  intro c hc
  refine h c ?_
  rw [List.getLast?_append, Option.mem_def.mp hc]
  rfl

theorem IsFirm.append_slash {tail : List Char} (h : IsFirm tail) (front : List Char) :
    IsFirm (front ++ '/' :: tail) := by
  intro c hc
  rw [List.getLast?_append_cons, List.getLast?_cons] at hc
  cases hlast : tail.getLast? with
  | none =>
    rw [hlast] at hc
    cases hc
    decide
  | some last =>
    rw [hlast] at hc
    cases hc
    exact h last hlast

/-- There is no backslash before the spaces after a firm text that could keep one of them. -/
theorem IsFirm.not_suffix {text : List Char} (h : IsFirm text) (n : ℕ) :
    ¬['\\', ' '] <:+ text ++ List.replicate n ' ' := by
  have hfirst : ∀ c ∈ text.reverse.head?, c ≠ '\\' ∧ CharSet.blank.contains c = false := by
    rw [List.head?_reverse]
    exact h
  rw [← List.reverse_prefix, List.reverse_append, List.reverse_replicate]
  change ¬[' ', '\\'] <+: _
  generalize text.reverse = back at hfirst ⊢
  cases back with
  | nil => rcases n with _ | _ | n <;> simp [List.replicate_succ]
  | cons c back =>
    obtain ⟨hslash, hblank⟩ := hfirst c rfl
    rcases n with _ | _ | n
    · rw [List.replicate_zero, List.nil_append, List.cons_prefix_cons]
      rintro ⟨rfl, -⟩
      exact absurd hblank (by decide)
    · simpa [List.cons_prefix_cons] using hslash.symm
    · simp [List.replicate_succ, List.cons_prefix_cons]

/-- Spaces after a firm text are stripped, and nothing else. -/
theorem stripped_append_spaces_eq {text : List Char} (h : IsFirm text) (n : ℕ) :
    Rule.stripped (text ++ List.replicate n ' ') = text := by
  rw [Rule.stripped, if_neg (mt List.isSuffixOf_iff_suffix.mp (h.not_suffix n))]
  have hspaces : Text.trimEnd .blank (List.replicate n ' ') = [] := by
    have hblank : CharSet.blank.contains ' ' = true := by decide
    rw [Text.trimEnd, List.reverse_replicate, List.dropWhile_replicate, if_pos hblank]
    rfl
  rcases List.eq_nil_or_concat text with rfl | ⟨before, c, rfl⟩
  · exact hspaces
  · have hblank := (h c (by simp)).2
    rw [List.concat_eq_append, List.append_assoc, List.singleton_append,
      Text.trimEnd_append_cons hblank, hspaces]

theorem stripped_append_spaces {text : List Char} (h : IsFirm text) (n : ℕ) :
    Rule.stripped (text ++ List.replicate n ' ') = Rule.stripped text := by
  have hsame := stripped_append_spaces_eq h 0
  rw [List.replicate_zero, List.append_nil] at hsame
  rw [stripped_append_spaces_eq h, hsame]

theorem trimStart_append_spaces (text : List Char) (n : ℕ) :
    Text.trimStart (.single '/') (text ++ List.replicate n ' ') =
      Text.trimStart (.single '/') text ++ List.replicate n ' ' := by
  have hslash : (CharSet.single '/').contains ' ' = false := by decide
  rw [Text.trimStart, Text.trimStart, List.dropWhile_append, List.dropWhile_replicate]
  split
  · next hempty => simp [List.isEmpty_iff.mp hempty, hslash]
  · rfl

theorem unmarked_append {text : List Char} (hne : text ≠ []) (tail : List Char) :
    Rule.unmarked (text ++ tail) = Rule.unmarked text ++ tail := by
  obtain ⟨c, text, rfl⟩ := List.exists_cons_of_ne_nil hne
  by_cases hmark : c = '!'
  · rw [hmark]
    rfl
  · rw [List.cons_append, Rule.unmarked_cons hmark, Rule.unmarked_cons hmark, List.cons_append]

theorem isMarked_append {text : List Char} (hne : text ≠ []) (tail : List Char) :
    Rule.isMarked (text ++ tail) = Rule.isMarked text := by
  rw [Rule.isMarked, Rule.isMarked, List.head?_append_of_ne_nil _ hne]

theorem unmarked_suffix (text : List Char) : Rule.unmarked text <:+ text := by
  cases text with
  | nil => exact List.suffix_refl []
  | cons c text =>
    by_cases hmark : c = '!'
    · rw [hmark]
      exact List.suffix_cons '!' text
    · rw [Rule.unmarked_cons hmark]

/-! ## Two ways to move a line -/

/-- A line that is tied to the directory. -/
def anchoredIn (base line : List Char) : List Char :=
  (if Rule.isMarked line then ['!'] else []) ++
    '/' :: base ++ '/' :: Text.trimStart (.single '/') (Rule.unmarked line)

/-- A line that holds at every depth below the directory. -/
def floatingIn (base line : List Char) : List Char :=
  (if Rule.isMarked line then ['!'] else []) ++ base ++ ['/', '*', '*', '/'] ++ Rule.unmarked line

/-- A line that is no comment and has slashes at its end and nowhere else. It should hold at every
depth, for directories only. -/
def IsLoose (line : List Char) : Prop :=
  (Text.trimStart .blank line).head? ≠ some '#' ∧ '/' ∈ Rule.unmarked line ∧
    '/' ∉ Text.trimEnd (.single '/') (Rule.unmarked line)

instance : DecidablePred IsLoose :=
  fun line => inferInstanceAs (Decidable ((Text.trimStart .blank line).head? ≠ some '#' ∧
    '/' ∈ Rule.unmarked line ∧ '/' ∉ Text.trimEnd (.single '/') (Rule.unmarked line)))

section

variable {base line : List Char}

theorem rebase_eq_anchoredIn (hbase : base ≠ []) (hblank : Text.trimStart .blank line ≠ [])
    (hcomment : (Text.trimStart .blank line).head? ≠ some '#')
    (hslash : '/' ∈ Text.trimEnd (.single '/') (Rule.unmarked line)) :
    rebase base line = anchoredIn base line := by
  rw [rebase_eq hbase hblank hcomment, if_pos (List.contains_iff_mem.mpr hslash), anchoredIn]
  simp

theorem rebase_eq_floatingIn (hbase : base ≠ []) (hblank : Text.trimStart .blank line ≠ [])
    (hcomment : (Text.trimStart .blank line).head? ≠ some '#')
    (hslash : '/' ∉ Text.trimEnd (.single '/') (Rule.unmarked line)) :
    rebase base line = floatingIn base line := by
  rw [rebase_eq hbase hblank hcomment, if_neg (mt List.contains_iff_mem.mp hslash), floatingIn]
  simp

theorem stripped_anchoredIn_append (hline : IsFirm line) (hne : line ≠ []) (n : ℕ) :
    Rule.stripped (anchoredIn base (line ++ List.replicate n ' ')) =
      Rule.stripped (anchoredIn base line) := by
  have hfirm : IsFirm (anchoredIn base line) :=
    ((hline.of_suffix (unmarked_suffix line)).of_suffix (List.dropWhile_suffix _)).append_slash _
  rw [← stripped_append_spaces hfirm n, anchoredIn, anchoredIn, isMarked_append hne,
    unmarked_append hne, trimStart_append_spaces]
  simp only [List.append_assoc, List.cons_append]

theorem stripped_floatingIn_append (hline : IsFirm line) (hne : line ≠ []) (n : ℕ) :
    Rule.stripped (floatingIn base (line ++ List.replicate n ' ')) =
      Rule.stripped (floatingIn base line) := by
  have hfirm : IsFirm (floatingIn base line) := by
    have hslash := (hline.of_suffix (unmarked_suffix line)).append_slash
      ((if Rule.isMarked line then ['!'] else []) ++ base ++ ['/', '*', '*'])
    rw [floatingIn]
    simpa using hslash
  rw [← stripped_append_spaces hfirm n, floatingIn, floatingIn, isMarked_append hne,
    unmarked_append hne]
  simp only [List.append_assoc]

/-- A firm line that is not empty is not blank, and what comes after it does not make it a comment.
-/
theorem trimStart_blank_append (hline : IsFirm line) (hne : line ≠ []) (tail : List Char) :
    Text.trimStart .blank line ≠ [] ∧ Text.trimStart .blank (line ++ tail) ≠ [] ∧
      (Text.trimStart .blank (line ++ tail)).head? = (Text.trimStart .blank line).head? := by
  have hblank : Text.trimStart .blank line ≠ [] := by
    intro hnil
    have hlast := (hline _ (List.getLast?_eq_some_getLast hne)).2
    rw [List.dropWhile_eq_nil_iff.mp hnil _ (List.getLast_mem hne)] at hlast
    cases hlast
  have htrim : Text.trimStart .blank (line ++ tail) = Text.trimStart .blank line ++ tail := by
    rw [Text.trimStart] at hblank ⊢
    rw [List.dropWhile_append, if_neg (mt List.isEmpty_iff.mp hblank)]
    rfl
  rw [htrim, List.head?_append_of_ne_nil _ hblank]
  exact ⟨hblank, List.append_ne_nil_of_left_ne_nil hblank tail, rfl⟩

/-- A slash of a line with spaces after it stands inside the line. -/
theorem mem_trimEnd_append_spaces (text : List Char) {n : ℕ} (hn : 0 < n) :
    '/' ∈ Text.trimEnd (.single '/') (text ++ List.replicate n ' ') ↔ '/' ∈ text := by
  obtain ⟨n, rfl⟩ := Nat.exists_eq_add_one_of_ne_zero hn.ne'
  have hslash : (CharSet.single '/').contains ' ' = false := by decide
  rw [List.replicate_succ', ← List.append_assoc, Text.trimEnd_append_cons hslash]
  simp [Text.trimEnd, List.mem_replicate]

theorem mem_of_mem_trimEnd {s : CharSet} {text : List Char} {c : Char}
    (h : c ∈ Text.trimEnd s text) : c ∈ text :=
  List.mem_reverse.mp ((List.dropWhile_suffix _).subset (List.mem_reverse.mp h))

variable {n : ℕ}

/-- Spaces after a loose line tie it to the directory. -/
theorem toOption_compile_append_of_isLoose (hbase : base ≠ []) (hline : IsFirm line)
    (hloose : IsLoose line) (hn : 0 < n) :
    (Rule.compile (rebase base (line ++ List.replicate n ' '))).toOption =
      (Rule.compile (anchoredIn base line)).toOption := by
  obtain ⟨hcomment, hslash, -⟩ := hloose
  have hne : line ≠ [] := by
    rintro rfl
    cases hslash
  obtain ⟨-, hblank, hhead⟩ := trimStart_blank_append hline hne (List.replicate n ' ')
  rw [← hhead] at hcomment
  rw [← mem_trimEnd_append_spaces _ hn, ← unmarked_append hne] at hslash
  rw [rebase_eq_anchoredIn hbase hblank hcomment hslash]
  exact Rule.toOption_compile_congr (stripped_anchoredIn_append hline hne n)

/-- Spaces after any other line change nothing. -/
theorem toOption_compile_append (hbase : base ≠ []) (hline : IsFirm line) (hloose : ¬IsLoose line) :
    (Rule.compile (rebase base (line ++ List.replicate n ' '))).toOption =
      (Rule.compile (rebase base line)).toOption := by
  rcases Nat.eq_zero_or_pos n with rfl | hn
  · rw [List.replicate_zero, List.append_nil]
  by_cases hne : line = []
  · have hblank : Text.trimStart .blank (List.replicate n ' ') = [] := by
      rw [Text.trimStart, List.dropWhile_replicate, if_pos (by decide)]
    rw [hne, List.nil_append, rebase_eq_self (.inr (.inl hblank)), rebase_eq_self (.inr (.inl rfl)),
      compile_of_blank hblank]
    rfl
  obtain ⟨hblank, hblank', hhead⟩ := trimStart_blank_append hline hne (List.replicate n ' ')
  refine Rule.toOption_compile_congr ?_
  by_cases hcomment : (Text.trimStart .blank line).head? = some '#'
  · rw [rebase_eq_self (.inr (.inr (hhead.trans hcomment))), rebase_eq_self (.inr (.inr hcomment)),
      stripped_append_spaces hline]
  have hcomment' : (Text.trimStart .blank (line ++ List.replicate n ' ')).head? ≠ some '#' := by
    rwa [hhead]
  have hslash' := mem_trimEnd_append_spaces (Rule.unmarked line) hn
  rw [← unmarked_append hne] at hslash'
  -- the way of a line that is not loose is the same with and without spaces
  by_cases hslash : '/' ∈ Text.trimEnd (.single '/') (Rule.unmarked line)
  · rw [rebase_eq_anchoredIn hbase hblank' hcomment' (hslash'.mpr (mem_of_mem_trimEnd hslash)),
      rebase_eq_anchoredIn hbase hblank hcomment hslash, stripped_anchoredIn_append hline hne]
  · have hnone : '/' ∉ Rule.unmarked line := fun hmem => hloose ⟨hcomment, hmem, hslash⟩
    rw [rebase_eq_floatingIn hbase hblank' hcomment' (mt hslash'.mp hnone),
      rebase_eq_floatingIn hbase hblank hcomment hslash, stripped_floatingIn_append hline hne]

end

/-! ## Lines that mean the same -/

/-- Two lines mean the same: they make rules that have the same mark and match the same paths, or
both make no rule, or both are refused. -/
inductive Alike (line line' : List Char) : Prop
  | rules {rule rule' : Rule} (h : Rule.compile line = .ok (some rule))
      (h' : Rule.compile line' = .ok (some rule')) (negated_eq : rule.negated = rule'.negated)
      (search_iff : ∀ q : RelativePath, rule.search q.text ≠ none ↔ rule'.search q.text ≠ none)
  | noRule (h : Rule.compile line = .ok none) (h' : Rule.compile line' = .ok none)
  | refused {fault fault' : Fault} (h : Rule.compile line = .error fault)
      (h' : Rule.compile line' = .error fault')

namespace Alike

variable {line line' line'' : List Char}

theorem of_toOption (h : (Rule.compile line).toOption = (Rule.compile line').toOption) :
    Alike line line' := by
  cases hline : Rule.compile line with
  | error fault =>
    cases hline' : Rule.compile line' with
    | error fault' => exact refused hline hline'
    | ok rule' =>
      rw [hline, hline'] at h
      cases h
  | ok rule =>
    cases hline' : Rule.compile line' with
    | error fault' =>
      rw [hline, hline'] at h
      cases h
    | ok rule' =>
      rw [hline, hline'] at h
      cases h
      cases rule with
      | none => exact noRule hline hline'
      | some rule => exact rules hline hline' rfl fun _ => Iff.rfl

theorem symm (h : Alike line line') : Alike line' line := by
  cases h with
  | rules h h' hnegated hsearch => exact rules h' h hnegated.symm fun q => (hsearch q).symm
  | noRule h h' => exact noRule h' h
  | refused h h' => exact refused h' h

theorem trans (h : Alike line line') (hmore : Alike line' line'') : Alike line line'' := by
  cases h with
  | rules h h' hnegated hsearch =>
    cases hmore with
    | rules hmiddle h'' hnegated' hsearch' =>
      obtain rfl := Option.some.inj (Except.ok.inj (h'.symm.trans hmiddle))
      exact rules h h'' (hnegated.trans hnegated') fun q => (hsearch q).trans (hsearch' q)
    | noRule hmiddle => cases h'.symm.trans hmiddle
    | refused hmiddle => cases h'.symm.trans hmiddle
  | noRule h h' =>
    cases hmore with
    | rules hmiddle => cases h'.symm.trans hmiddle
    | noRule _ h'' => exact noRule h h''
    | refused hmiddle => cases h'.symm.trans hmiddle
  | refused h h' =>
    cases hmore with
    | rules hmiddle => cases h'.symm.trans hmiddle
    | noRule hmiddle => cases h'.symm.trans hmiddle
    | refused _ h'' => exact refused h h''

end Alike

/-! ## Names that a segment takes -/

/-- A name ends at the first slash, so what ends at some slash is the name or goes on after it. -/
theorem eq_or_exists_of_append_slash {name rest w more : List Char} (hname : '/' ∉ name)
    (h : name ++ '/' :: rest = w ++ '/' :: more) :
    w = name ∧ more = rest ∨ ∃ tail, w = name ++ '/' :: tail ∧ rest = tail ++ '/' :: more := by
  rcases List.append_eq_append_iff.mp h with ⟨tail, rfl, hrest⟩ | ⟨tail, rfl, hmore⟩
  · cases tail with
    | nil => exact .inl ⟨List.append_nil name, (List.cons.inj hrest).2.symm⟩
    | cons c tail =>
      obtain ⟨rfl, rfl⟩ := List.cons.inj hrest
      exact .inr ⟨tail, rfl, rfl⟩
  · cases tail with
    | nil => exact .inl ⟨(List.append_nil w).symm, (List.cons.inj hmore).2⟩
    | cons c tail =>
      obtain ⟨rfl, -⟩ := List.cons.inj hmore
      exact absurd (List.mem_append_right w List.mem_cons_self) hname

/-- What a character of a segment takes is part of a name, whatever comes after it. -/
theorem exists_of_takes_partOf {c : Char} (hc : c ≠ '/') {before after : List Char}
    (h : (partOf c).Takes before after) :
    ∃ w, before = w ++ after ∧ '/' ∉ w ∧ ∀ text, (partOf c).Takes (w ++ text) text := by
  obtain hpart | hpart | hpart :
      partOf c = .anyRun ∨ partOf c = .anyOne ∨ partOf c = .literal c := by
    rw [partOf]
    split
    · exact .inl rfl
    · split
      · exact .inr (.inl rfl)
      · exact .inr (.inr rfl)
  all_goals rw [hpart] at h ⊢
  · obtain ⟨w, hslash, rfl⟩ := h
    exact ⟨w, rfl, hslash, fun text => ⟨w, hslash, rfl⟩⟩
  · obtain ⟨a, ha, rfl⟩ := h
    exact ⟨[a], rfl, by simpa using ha.symm, fun text => ⟨a, ha, rfl⟩⟩
  · obtain rfl : before = c :: after := h
    exact ⟨[c], rfl, by simpa using hc.symm, fun text => rfl⟩

/-- The same for several pieces. By induction on the pieces. -/
theorem exists_of_takes_name {pieces : List Piece}
    (hpieces : ∀ piece ∈ pieces, piece = .anyName ∨ ∃ c ≠ '/', piece = .glob (partOf c))
    {before after : List Char} (h : Takes pieces before after) :
    ∃ w, before = w ++ after ∧ '/' ∉ w ∧ ∀ text, Takes pieces (w ++ text) text := by
  induction pieces generalizing before with
  | nil => exact ⟨[], h, List.not_mem_nil, fun _ => rfl⟩
  | cons piece pieces ih =>
    rw [List.forall_mem_cons] at hpieces
    obtain ⟨middle, hmiddle, hrest⟩ := h
    obtain ⟨w', rfl, hslash', htakes'⟩ := ih hpieces.2 hrest
    obtain ⟨w, rfl, hslash, htakes⟩ : ∃ w, before = w ++ (w' ++ after) ∧ '/' ∉ w ∧
        ∀ text, piece.Takes (w ++ text) text := by
      rcases hpieces.1 with rfl | ⟨c, hc, rfl⟩
      · obtain ⟨w, hne, hslash, rfl⟩ := hmiddle
        exact ⟨w, rfl, hslash, fun text => ⟨w, hne, hslash, rfl⟩⟩
      · exact exists_of_takes_partOf hc hmiddle
    refine ⟨w ++ w', (List.append_assoc ..).symm, by simp [hslash, hslash'], fun text => ?_⟩
    rw [List.append_assoc]
    exact ⟨w' ++ text, htakes _, htakes' text⟩

/-- A text without slashes takes itself: stars and question marks take what they are. -/
theorem takes_self {segment : List Char} (hne : segment ≠ []) (hslash : '/' ∉ segment)
    (text : List Char) : Takes (OrdinaryLine.segmentPieces segment) (segment ++ text) text := by
  rw [OrdinaryLine.segmentPieces]
  split
  · exact ⟨text, ⟨segment, hne, hslash, rfl⟩, rfl⟩
  · next hname =>
    clear hne hname
    induction segment with
    | nil => rfl
    | cons c segment ih =>
      rw [List.mem_cons, not_or] at hslash
      refine ⟨segment ++ text, ?_, ih hslash.2⟩
      change (partOf c).Takes (c :: (segment ++ text)) (segment ++ text)
      rw [partOf]
      split
      · exact ⟨[c], by simpa using hslash.1, rfl⟩
      · split
        · exact ⟨c, Ne.symm hslash.1, rfl⟩
        · rfl

/-! ## Loose ordinary lines -/

namespace OrdinaryLine

variable {l : OrdinaryLine}

/-- The line with a slash in front. -/
def tied (l : OrdinaryLine) : OrdinaryLine :=
  { l with rooted := true }

theorem tied_pieces (l : OrdinaryLine) : l.tied.pieces = rowPieces l.folder l.segments :=
  rfl

/-- A loose line is one segment with a slash after it. -/
theorem exists_segment_of_isLoose (h : IsLoose l.text) :
    l.isFloating = true ∧ l.folder = true ∧ ∃ segment, l.segments = [segment] := by
  obtain ⟨-, hslash, hinside⟩ := h
  rw [unmarked_text] at hslash hinside
  have hfloating : l.isFloating = true := by
    rw [← List.contains_iff_mem, contains_trimEnd_pattern] at hinside
    simpa using hinside
  have hboth := hfloating
  rw [isFloating, Bool.and_eq_true, Bool.not_eq_true', beq_iff_eq, List.length_eq_one_iff] at hboth
  obtain ⟨hrooted, segment, hsegments⟩ := hboth
  refine ⟨hfloating, ?_, segment, hsegments⟩
  have hnot : '/' ∉ segment := l.slash_notMem (hsegments ▸ List.mem_cons_self)
  cases hfolder : l.folder with
  | true => rfl
  | false => simp [pattern, body, hrooted, hfolder, hsegments, hnot] at hslash

/-- Tied to a directory, a line is what it would be with a slash in front. -/
theorem anchoredIn_text (base : PlainFolder) :
    anchoredIn base.text l.text = rebase base.text l.tied.text := by
  have hmoved : l.tied.movedPattern base = '/' :: base.text ++ '/' :: l.body := rfl
  have hmark : l.tied.mark = l.mark := rfl
  rw [rebase_text, hmoved, hmark, anchoredIn, mark_eq, unmarked_text, trimStart_pattern,
    List.append_assoc]

/-- A floating line fits what it fits with a slash in front, at every depth. -/
theorem fits_pieces_of_isFloating (h : l.isFloating = true) {text : List Char} :
    Fits l.pieces text ↔ Fits l.tied.pieces text ∨
      ∃ w rest, w ≠ [] ∧ '\n' ∉ w ∧ text = w ++ '/' :: rest ∧ Fits l.tied.pieces rest := by
  rw [tied_pieces, pieces, if_pos h, List.singleton_append, fits_cons]
  constructor
  · rintro ⟨rest, rfl | ⟨w, hne, hw, rfl⟩, hfits⟩
    · exact .inl hfits
    · exact .inr ⟨w, rest, hne, hw, rfl, hfits⟩
  · rintro (hfits | ⟨w, rest, hne, hw, rfl, hfits⟩)
    · exact ⟨text, .inl rfl, hfits⟩
    · exact ⟨rest, .inr ⟨w, hne, hw, rfl⟩, hfits⟩

section

variable {segment : List Char}

/-- A segment with a slash after it fits a path that goes through a directory the segment takes, and
no other directory is asked for. -/
theorem fits_tied_iff (hsegments : l.segments = [segment]) (hfolder : l.folder = true)
    {name rest : List Char} (hname : '/' ∉ name) :
    Fits l.tied.pieces (name ++ '/' :: rest) ↔ Takes (segmentPieces segment) name [] := by
  have hpieces : l.tied.pieces = segmentPieces segment ++ [.folderSlash] := by
    rw [tied_pieces, hsegments, hfolder]
    rfl
  have hparts : ∀ piece ∈ segmentPieces segment,
      piece = .anyName ∨ ∃ c ≠ '/', piece = .glob (partOf c) := by
    intro piece hmem
    rcases of_mem_segmentPieces hmem with rfl | ⟨c, hc, rfl⟩
    · exact .inl rfl
    · refine .inr ⟨c, fun hslash => ?_, rfl⟩
      exact l.slash_notMem (hsegments ▸ List.mem_cons_self) (hslash ▸ hc)
  rw [hpieces, fits_append]
  constructor
  · rintro ⟨_, htakes, after, middle, hslash, -⟩
    obtain rfl : _ = '/' :: middle := hslash
    obtain ⟨w, heq, hw, hall⟩ := exists_of_takes_name hparts htakes
    rcases eq_or_exists_of_append_slash hname heq with ⟨rfl, -⟩ | ⟨tail, rfl, -⟩
    · simpa using hall []
    · simp at hw
  · intro htakes
    obtain ⟨w, heq, -, hall⟩ := exists_of_takes_name hparts htakes
    rw [List.append_nil] at heq
    exact ⟨_, heq ▸ hall ('/' :: rest), rest, rest, rfl, rfl⟩

/-- A loose line fits a directory exactly if its segment takes the name. -/
theorem fits_folder_iff (hfloating : l.isFloating = true) (hsegments : l.segments = [segment])
    (hfolder : l.folder = true) {name : List Char} (hname : '/' ∉ name) :
    Fits l.pieces (name ++ ['/']) ↔ Takes (segmentPieces segment) name [] := by
  rw [← fits_tied_iff hsegments hfolder hname, fits_pieces_of_isFloating hfloating]
  constructor
  · rintro (h | ⟨w, rest, -, -, heq, hfits⟩)
    · exact h
    · -- nothing is left after the only slash
      rcases eq_or_exists_of_append_slash hname heq with ⟨-, rfl⟩ | ⟨tail, -, htail⟩
      · exact absurd hfits l.tied.not_fits_nil
      · simp at htail
  · exact .inl

end

end OrdinaryLine

/-! ## Paths below a directory -/

namespace RelativePath

/-- A path of one directory. -/
def ofFolder (name : String) (h : IsName name) : RelativePath :=
  ⟨[name], true, List.cons_ne_nil name [], by simpa using h⟩

theorem ofFolder_text (name : String) (h : IsName name) :
    (ofFolder name h).text = name.toList ++ ['/'] := by
  simp [ofFolder, text, Path.toList_joined]

/-- A path as seen from further up. -/
def below (base : PlainFolder) (q : RelativePath) : RelativePath where
  names := base.names ++ q.names
  folder := q.folder
  names_ne_nil := List.append_ne_nil_of_left_ne_nil base.names_ne_nil _
  isName := List.forall_mem_append.mpr ⟨base.isName, q.isName⟩

theorem below_text (base : PlainFolder) (q : RelativePath) :
    (q.below base).text = base.text ++ '/' :: q.text := by
  obtain ⟨name, names, hbase⟩ := List.exists_cons_of_ne_nil base.names_ne_nil
  obtain ⟨first, rest, hq⟩ := List.exists_cons_of_ne_nil q.names_ne_nil
  simp only [text, below, PlainFolder.text, hbase, hq, List.cons_append, Path.toList_joined_cons,
    List.map_append, List.map_cons, List.flatMap_append, List.flatMap_cons, List.append_assoc]

/-- What is left of a path after a directory is a path, unless the path is the directory. -/
theorem eq_nil_or_exists_below {base : PlainFolder} {q : RelativePath} {rest : List Char}
    (h : q.text = base.text ++ '/' :: rest) : rest = [] ∨ ∃ q' : RelativePath, rest = q'.text := by
  have hgoes : (Path.joined q.names).toList = (Path.joined base.names).toList ++ '/' :: rest ∨
      (Path.joined q.names).toList ++ ['/'] = (Path.joined base.names).toList ++ '/' :: rest := by
    rw [text, PlainFolder.text] at h
    cases hfolder : q.folder with
    | false => exact .inl (by simpa [hfolder] using h)
    | true => exact .inr (by simpa [hfolder] using h)
  have hnames : base.names <+: q.names :=
    Path.prefix_of_joined base.names_ne_nil q.names_ne_nil base.isName q.isName hgoes
  obtain ⟨names, hnames⟩ := hnames
  cases hempty : names with
  | nil =>
    left
    rw [hempty, List.append_nil] at hnames
    rw [text, ← hnames] at h
    have hend := List.append_cancel_left h
    split at hend
    · exact (List.cons.inj hend).2.symm
    · cases hend
  | cons next more =>
    have hne : names ≠ [] := hempty ▸ List.cons_ne_nil next more
    have hnames' : ∀ name ∈ names, IsName name := fun name hmem =>
      q.isName name (hnames ▸ List.mem_append_right _ hmem)
    have hsame : q = below base ⟨names, q.folder, hne, hnames'⟩ := by
      cases q
      cases hnames
      rfl
    rw [hsame, below_text] at h
    exact .inr ⟨_, (List.cons.inj (List.append_cancel_left h)).2.symm⟩

end RelativePath

namespace OrdinaryLine

/-- Two ordinary lines with the same mark mean the same below a directory if they fit the same
paths. -/
theorem alike_rebase_iff (base : PlainFolder) (l l' : OrdinaryLine) (h : l.negated = l'.negated) :
    Alike (rebase base.text l.text) (rebase base.text l'.text) ↔
      ∀ q : RelativePath, Fits l.pieces q.text ↔ Fits l'.pieces q.text := by
  obtain ⟨rule, hrule, hnegated, hsearch, hbelow⟩ := l.exists_moved_of_path base
  obtain ⟨rule', hrule', hnegated', hsearch', hbelow'⟩ := l'.exists_moved_of_path base
  constructor
  · intro halike q
    cases halike with
    | rules hsame hsame' _ hiff =>
      cases hrule.symm.trans hsame
      cases hrule'.symm.trans hsame'
      rw [← hsearch, ← hsearch', ← RelativePath.below_text]
      exact hiff (q.below base)
    | noRule hnone => cases hrule.symm.trans hnone
    | refused hfault => cases hrule.symm.trans hfault
  · intro hfits
    refine .rules hrule hrule' (hnegated.trans (h.trans hnegated'.symm)) fun q => ?_
    have hsame {rest : List Char} (hne : rest ≠ []) (hq : q.text = base.text ++ '/' :: rest) :
        rule.search q.text ≠ none ↔ rule'.search q.text ≠ none := by
      obtain ⟨q', rfl⟩ := (RelativePath.eq_nil_or_exists_below hq).resolve_left hne
      rw [hq, hsearch, hsearch']
      exact hfits q'
    constructor
    · intro hmatch
      obtain ⟨rest, hne, hq⟩ := hbelow _ hmatch
      exact (hsame hne hq).mp hmatch
    · intro hmatch
      obtain ⟨rest, hne, hq⟩ := hbelow' _ hmatch
      exact (hsame hne hq).mpr hmatch

/-- **What it means for a line to be tied.** A loose ordinary line that is tied to its directory
means the same as before only if it leaves out, or takes in again, every directory there is. -/
theorem alike_tied_iff (base : PlainFolder) {l : OrdinaryLine} (hloose : IsLoose l.text) :
    ∃ rule, Rule.compile l.text = .ok (some rule) ∧
      (Alike (rebase base.text l.text) (rebase base.text l.tied.text) ↔
        ∀ name, IsName name → '\n' ∉ name.toList → rule.search (name.toList ++ ['/']) ≠ none) := by
  obtain ⟨hfloating, hfolder, segment, hsegments⟩ := exists_segment_of_isLoose hloose
  obtain ⟨rule, hrule, -, hpath⟩ := l.exists_rule_of_path
  refine ⟨rule, hrule, ?_⟩
  have hmem : segment ∈ l.segments := hsegments ▸ List.mem_cons_self
  have hne := (l.ordinary segment hmem).1
  have hslash := l.slash_notMem hmem
  have hsearch {name : String} (hname : IsName name) :
      rule.search (name.toList ++ ['/']) ≠ none ↔ Takes (segmentPieces segment) name.toList [] := by
    rw [← fits_folder_iff hfloating hsegments hfolder hname.2,
      ← RelativePath.ofFolder_text name hname, hpath]
    simp [hfolder]
  rw [alike_rebase_iff base l l.tied rfl]
  constructor
  · intro hall name hname hfeed
    -- a directory that the segment takes, inside one that it need not take
    let q : RelativePath := ⟨[name, String.ofList segment], true, List.cons_ne_nil _ _, by
      simpa [IsName, hslash, hne] using hname⟩
    have hq : q.text = name.toList ++ '/' :: (segment ++ ['/']) := by
      simp [q, RelativePath.text, Path.toList_joined]
    have hinner : Fits l.tied.pieces (segment ++ ['/']) := by
      rw [fits_tied_iff hsegments hfolder hslash]
      simpa using takes_self hne hslash []
    have hfits : Fits l.pieces q.text := by
      refine (fits_pieces_of_isFloating hfloating).mpr
        (.inr ⟨name.toList, _, ?_, hfeed, hq, hinner⟩)
      simpa using hname.1
    rw [hsearch hname, ← fits_tied_iff hsegments hfolder hname.2, ← hq]
    exact (hall q).mp hfits
  · intro hall q
    rw [fits_pieces_of_isFloating hfloating]
    refine ⟨?_, .inl⟩
    rintro (h | ⟨w, rest, -, hfeed, hq, -⟩)
    · exact h
    · obtain ⟨first, after, htext, hne, hfirst, rfl | ⟨more, rfl⟩⟩ := q.exists_first
      · rw [htext, List.append_nil] at hq
        simp [hq] at hfirst
      · -- the first name of the path is part of what is skipped, so it has no line feeds
        have hfeed' : '\n' ∉ first := by
          rw [htext] at hq
          rcases eq_or_exists_of_append_slash hfirst hq with ⟨rfl, -⟩ | ⟨tail, rfl, -⟩
          · exact hfeed
          · exact fun hmem => hfeed (List.mem_append_left _ hmem)
        have hname : IsName (String.ofList first) := by simpa [IsName] using ⟨hne, hfirst⟩
        have htakes := (hsearch hname).mp (hall _ hname (by simpa using hfeed'))
        rw [String.toList_ofList] at htakes
        rw [htext]
        exact (fits_tied_iff hsegments hfolder hfirst).mpr htakes

end OrdinaryLine

/-! ## Which lines may have spaces after them -/

/-- **Spaces at the end of a line.** Below a plain directory, spaces after a firm line change
nothing, unless the line is loose: then they tie it to the directory. It means the same as before
only if the line means the same when it is tied, which for an ordinary line is that it matches every
directory. -/
theorem alike_append_spaces_iff (base : PlainFolder) {line : List Char} (hline : IsFirm line)
    (n : ℕ) :
    (Alike (rebase base.text line) (rebase base.text (line ++ List.replicate n ' ')) ↔
      n = 0 ∨ ¬IsLoose line ∨ Alike (rebase base.text line) (anchoredIn base.text line)) ∧
    (Rule.compile (rebase base.text (line ++ List.replicate n ' '))).toOption =
      (Rule.compile (if IsLoose line ∧ 0 < n then anchoredIn base.text line
        else rebase base.text line)).toOption ∧
    ∀ l : OrdinaryLine, l.text = line → IsLoose line →
      ∃ rule, Rule.compile line = .ok (some rule) ∧
        (Alike (rebase base.text line) (anchoredIn base.text line) ↔
          ∀ name, IsName name → '\n' ∉ name.toList →
            rule.search (name.toList ++ ['/']) ≠ none) := by
  have hspaced : (Rule.compile (rebase base.text (line ++ List.replicate n ' '))).toOption =
      (Rule.compile (if IsLoose line ∧ 0 < n then anchoredIn base.text line
        else rebase base.text line)).toOption := by
    split
    · next h => exact toOption_compile_append_of_isLoose base.text_ne_nil hline h.1 h.2
    · next h =>
      rcases Nat.eq_zero_or_pos n with rfl | hn
      · rw [List.replicate_zero, List.append_nil]
      · exact toOption_compile_append base.text_ne_nil hline fun hloose => h ⟨hloose, hn⟩
  refine ⟨?_, hspaced, ?_⟩
  · have halike := Alike.of_toOption hspaced
    by_cases h : IsLoose line ∧ 0 < n
    · rw [if_pos h] at halike
      simp only [h.1, h.2.ne', not_true_eq_false, false_or]
      exact ⟨fun hsame => hsame.trans halike, fun htied => htied.trans halike.symm⟩
    · rw [if_neg h] at halike
      refine ⟨fun _ => ?_, fun _ => halike.symm⟩
      rcases Nat.eq_zero_or_pos n with rfl | hn
      · exact .inl rfl
      · exact .inr (.inl fun hloose => h ⟨hloose, hn⟩)
  · rintro l rfl hloose
    rw [OrdinaryLine.anchoredIn_text]
    exact OrdinaryLine.alike_tied_iff base hloose

/-- Below `sub`, spaces after `*.log` change nothing. A space after `*/` ties the line to the
directory, where it means the same as before. -/
theorem alike_append_spaces_log : IsFirm "*.log".toList ∧
    Alike (rebase "sub".toList "*.log".toList) (rebase "sub".toList "*.log  ".toList) ∧
    IsFirm "*/".toList ∧ IsLoose "*/".toList ∧
    Alike (rebase "sub".toList "*/".toList) (rebase "sub".toList "*/ ".toList) := by
  let base : PlainFolder := ⟨["sub"], by decide, by decide⟩
  have hfirm : IsFirm "*.log".toList ∧ IsFirm "*/".toList := by decide
  have hlog := (alike_append_spaces_iff base hfirm.1 2).1.mpr (.inr (.inl (by decide)))
  refine ⟨hfirm.1, hlog, hfirm.2, by decide, ?_⟩
  obtain ⟨hstar, -, hloose⟩ := alike_append_spaces_iff base hfirm.2 1
  let l : OrdinaryLine := ⟨false, false, [['*']], true, by decide, by decide⟩
  obtain ⟨rule, hrule, htied⟩ := hloose l rfl (by decide)
  obtain ⟨rule', hrule', -, -, hsearch⟩ := l.exists_rule
  cases hrule.symm.trans hrule'
  refine hstar.mpr (.inr (.inr (htied.mpr fun name _ _ => ?_)))
  rw [hsearch ⟨rfl, rfl⟩]
  simp [l]

/-- Below `sub`, a space after `build/` changes the meaning: directories further down are no longer
matched. -/
theorem not_alike_build_space : IsFirm "build/".toList ∧
    ¬Alike (rebase "sub".toList "build/".toList) (rebase "sub".toList "build/ ".toList) := by
  refine ⟨by decide, fun halike => ?_⟩
  let q : RelativePath := ⟨["sub", "x", "build"], true, by decide, by decide⟩
  cases halike with
  | rules h h' _ hsearch =>
    cases h
    cases h'
    exact (hsearch q).mp (by decide +kernel) (by decide +kernel)
  | noRule h => cases h
  | refused h => cases h

end Relocation.Ignore
