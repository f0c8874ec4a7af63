import Relocation.Proofs.Ignore.Ordinary

/-!
# Moving ordinary lines

An ordinary line that is moved up from a plain directory is compiled to a rule that spells the
directory and goes on as before, be the line tied to the directory or floating below it.

* `PlainFolder` — directories,
* `OrdinaryLine.rebase_text` — how an ordinary line is moved,
* `OrdinaryLine.exists_moved` — **what a moved line is compiled to**: the directory, a slash, and
  the same as before,
* `OrdinaryLine.exists_moved_of_path` — the same for paths below the directory,
* `moved_search_iff` — **a move keeps the meaning**, but for one kind of name.
-/

namespace Relocation.Ignore

/-! ## Plain directories -/

/-- A directory whose names have only ordinary characters and no wild cards. -/
structure PlainFolder where
  names : List String
  names_ne_nil : names ≠ []
  plain : ∀ name ∈ names, name ≠ "" ∧
    name.toList.all (fun c => isOrdinary c && c != '*' && c != '?') = true

/-- The names of a directory, joined by slashes. -/
def PlainFolder.text (base : PlainFolder) : List Char :=
  (Path.joined base.names).toList

namespace PlainFolder

variable (base : PlainFolder)

theorem isOrdinary_of_mem {name : String} (h : name ∈ base.names) {c : Char}
    (hc : c ∈ name.toList) :
    isOrdinary c = true ∧ c ≠ '*' ∧ c ≠ '?' := by
  have hplain := List.all_eq_true.mp (base.plain name h).2 c hc
  simpa [and_assoc] using hplain

theorem isName : ∀ name ∈ base.names, IsName name := fun name hname =>
  ⟨(base.plain name hname).1, fun hslash =>
    (isOrdinary_iff.mp (base.isOrdinary_of_mem hname hslash).1).2.1 rfl⟩

theorem text_ne_nil : base.text ≠ [] :=
  joined_ne_nil base.names_ne_nil base.isName

theorem text_eq : base.text = ['/'].intercalate (base.names.map String.toList) :=
  Path.toList_joined _

theorem of_mem_text {c : Char} (h : c ∈ base.text) : c = '/' ∨ isOrdinary c = true := by
  rw [text_eq] at h
  rcases mem_intercalate h with h | ⟨_, hname, hc⟩
  · exact .inl h
  · obtain ⟨name, hmem, rfl⟩ := List.mem_map.mp hname
    exact .inr (base.isOrdinary_of_mem hmem hc).1

theorem isPlain_names : ∀ name ∈ base.names.map String.toList, isPlain name = true := by
  intro _ hname
  obtain ⟨name, hmem, rfl⟩ := List.mem_map.mp hname
  refine List.all_eq_true.mpr fun c hc => ?_
  obtain ⟨hordinary, hstar, hone⟩ := base.isOrdinary_of_mem hmem hc
  have hordinary := isOrdinary_iff.mp hordinary
  simp [hstar, hone, hordinary.2.2.1, hordinary.2.2.2.1]

/-- The pieces of a text that stands for itself. -/
def spelled (text : List Char) : List Piece :=
  text.map fun c => if c = '/' then .slash else .glob (.literal c)

theorem takes_spelled {text before after : List Char} :
    Takes (spelled text) before after ↔ before = text ++ after := by
  induction text generalizing before with
  | nil => rfl
  | cons c text ih =>
    have htakes : Takes (spelled (c :: text)) before after ↔
        ∃ middle, before = c :: middle ∧ Takes (spelled text) middle after := by
      refine exists_congr fun middle => and_congr_left fun _ => ?_
      dsimp only
      split
      · next hslash => rw [hslash]; rfl
      · rfl
    rw [htakes]
    constructor
    · rintro ⟨middle, rfl, hmiddle⟩
      rw [ih.mp hmiddle, List.cons_append]
    · rintro rfl
      exact ⟨_, rfl, ih.mpr rfl⟩

/-- Plain names are spelled, with the slashes between them and what comes after. -/
theorem piecesFrom_names {folder : Bool} {names tail : List (List Char)} {more : List Piece}
    (hne : names ≠ []) (hplain : ∀ name ∈ names, isPlain name = true ∧ '/' ∉ name)
    (htail : tail ≠ []) (hmore : Rule.piecesFrom folder false true tail = .ok more)
    (first slash : Bool) : Rule.piecesFrom folder first slash (names ++ tail) =
      .ok ((if first then [.start] else []) ++ ((if slash then [.slash] else []) ++
        (spelled (['/'].intercalate names) ++ more))) := by
  induction names generalizing first slash with
  | nil => exact absurd rfl hne
  | cons name rest ih =>
    rw [List.forall_mem_cons] at hplain
    have hname : Rule.segmentPieces name = .ok (spelled name) := by
      rw [segmentPieces_of_isPlain hplain.1.1]
      refine congrArg Except.ok (List.map_congr_left fun c hc => ?_)
      rw [if_neg fun hslash : c = '/' => hplain.1.2 (hslash ▸ hc)]
    have hend : (rest ++ tail).isEmpty = false := by
      simp [htail]
    rw [List.cons_append, Rule.piecesFrom_cons_eq_ok_iff (ne_anyDepth_of_isPlain hplain.1.1), hend]
    cases rest with
    | nil => exact ⟨_, _, hname, hmore, by simp⟩
    | cons next rest =>
      refine ⟨_, _, hname, ih (List.cons_ne_nil next rest) hplain.2 false true, ?_⟩
      simp [spelled]

end PlainFolder

/-! ## Moved lines -/

namespace OrdinaryLine

variable (l : OrdinaryLine) (base : PlainFolder)

/-- The pattern of a line that was moved. -/
def movedPattern : List Char :=
  if l.isFloating then base.text ++ ['/', '*', '*', '/'] ++ l.body
  else '/' :: base.text ++ '/' :: l.body

/-- Joined segments end in a character of a segment. -/
theorem exists_intercalate_concat {segments : List (List Char)} (hne : segments ≠ [])
    (h : ∀ segment ∈ segments, segment ≠ []) :
    ∃ before c, ['/'].intercalate segments = before ++ [c] ∧
      ∃ segment ∈ segments, c ∈ segment := by
  induction segments with
  | nil => exact absurd rfl hne
  | cons segment rest ih =>
    rw [List.forall_mem_cons] at h
    cases rest with
    | nil =>
      refine ⟨segment.dropLast, segment.getLast h.1, ?_, segment, List.mem_cons_self,
        List.getLast_mem h.1⟩
      rw [List.intercalate_singleton, List.dropLast_concat_getLast]
    | cons next rest =>
      obtain ⟨before, c, hbefore, segment', hmem, hc⟩ := ih (List.cons_ne_nil next rest) h.2
      refine ⟨segment ++ ['/'] ++ before, c, ?_, segment', List.mem_cons_of_mem _ hmem, hc⟩
      rw [List.intercalate_cons_cons, hbefore, ← List.append_assoc]

/-- A line is anchored by a slash that does not stand at its end. -/
theorem contains_trimEnd_pattern :
    (Text.trimEnd (.single '/') l.pattern).contains '/' = !l.isFloating := by
  obtain ⟨before, c, hjoined, segment, hsegment, hc⟩ :=
    exists_intercalate_concat l.segments_ne_nil fun segment hsegment =>
      (l.ordinary segment hsegment).1
  have hkeep : (CharSet.single '/').contains c = false :=
    contains_slash_of_ne fun hslash => l.slash_notMem hsegment (hslash ▸ hc)
  have htrim : Text.trimEnd (.single '/') l.pattern =
      (if l.rooted then ['/'] else []) ++ ['/'].intercalate l.segments := by
    rw [pattern, body, hjoined, List.append_assoc, ← List.append_assoc, List.singleton_append,
      Text.trimEnd_append_cons hkeep]
    cases l.folder <;> simp [Text.trimEnd, CharSet.contains_single]
  rw [htrim, isFloating, Bool.eq_iff_iff, List.contains_iff_mem]
  cases l.rooted with
  | true => simp
  | false =>
    cases hsegments : l.segments with
    | nil => exact absurd hsegments l.segments_ne_nil
    | cons first rest =>
      cases rest with
      | nil =>
        have hfirst : '/' ∉ first := l.slash_notMem (hsegments ▸ List.mem_cons_self)
        simp [hfirst]
      | cons next rest => simp

theorem trimStart_pattern : Text.trimStart (.single '/') l.pattern = l.body := by
  obtain ⟨segment, rest, hsegments⟩ := List.exists_cons_of_ne_nil l.segments_ne_nil
  have hsegment : segment ∈ l.segments := hsegments ▸ List.mem_cons_self
  obtain ⟨c, name, rfl⟩ := List.exists_cons_of_ne_nil (l.ordinary segment hsegment).1
  have hkeep : (CharSet.single '/').contains c = false :=
    contains_slash_of_ne fun hslash => l.slash_notMem hsegment (hslash ▸ List.mem_cons_self)
  obtain ⟨more, hbody⟩ : ∃ more, l.body = c :: more := by
    rw [body, hsegments]
    cases rest <;> simp
  rw [pattern, hbody, Text.trimStart]
  cases l.rooted with
  | true =>
    have hdrop : (CharSet.single '/').contains '/' = true := by decide
    rw [if_pos rfl, List.singleton_append, List.dropWhile_cons_of_pos hdrop,
      List.dropWhile_cons_of_neg (by simp [hkeep])]
  | false =>
    rw [if_neg Bool.false_ne_true, List.nil_append, List.dropWhile_cons_of_neg (by simp [hkeep])]

theorem unmarked_text : Rule.unmarked l.text = l.pattern := by
  rw [text, mark]
  cases l.negated with
  | true => rfl
  | false =>
    refine unmarked_of_notMem fun hmem => ?_
    rcases l.of_mem_pattern hmem with h | h
    · exact absurd h (by decide)
    · exact (isOrdinary_iff.mp h).2.2.2.2.1 rfl

/-- The first character of a line is no white space and starts no comment. -/
theorem exists_text_cons :
    ∃ c more, l.text = c :: more ∧ CharSet.blank.contains c = false ∧ c ≠ '#' ∧
      (c == '!') = l.negated := by
  have hne : l.pattern ≠ [] := by
    obtain ⟨c, hc, -⟩ := l.exists_mem_body
    exact List.ne_nil_of_mem (List.mem_append_right _ hc)
  obtain ⟨c, more, hpattern⟩ := List.exists_cons_of_ne_nil hne
  have hordinary := l.of_mem_pattern (hpattern ▸ List.mem_cons_self)
  rw [text, mark, hpattern]
  cases l.negated with
  | true => exact ⟨'!', c :: more, rfl, by decide, by decide, rfl⟩
  | false =>
    refine ⟨c, more, rfl, ?_⟩
    rcases hordinary with rfl | h
    · decide
    · have h := isOrdinary_iff.mp h
      exact ⟨h.1, h.2.2.2.2.2, beq_eq_false_iff_ne.mpr h.2.2.2.2.1⟩

theorem mark_eq : (if Rule.isMarked l.text then ['!'] else []) = l.mark := by
  obtain ⟨c, more, htext, -, -, hmarked⟩ := l.exists_text_cons
  rw [Rule.isMarked, htext, List.head?_cons, Option.some_beq_some, hmarked]
  rfl

/-- How an ordinary line is moved. -/
theorem rebase_text : rebase base.text l.text = l.mark ++ l.movedPattern base := by
  obtain ⟨c, more, htext, hblank, hcomment, -⟩ := l.exists_text_cons
  have htrim : Text.trimStart .blank l.text = l.text := by
    rw [htext, Text.trimStart, List.dropWhile_cons_of_neg (by simp [hblank])]
  have hstays : Text.trimStart .blank l.text ≠ [] ∧
      (Text.trimStart .blank l.text).head? ≠ some '#' := by
    rw [htrim, htext]
    exact ⟨List.cons_ne_nil c more, by simpa using hcomment⟩
  rw [rebase_eq base.text_ne_nil hstays.1 hstays.2, mark_eq, unmarked_text,
    contains_trimEnd_pattern, trimStart_pattern, movedPattern]
  cases hfloating : l.isFloating with
  | false => rfl
  | true =>
    rw [isFloating, Bool.and_eq_true, Bool.not_eq_true'] at hfloating
    simp [pattern, hfloating.1]

/-- The segments of a moved line are the names of the directory and those of the line. -/
theorem merged_opened_anchored_movedPattern :
    Rule.merged (Rule.opened (Rule.anchored ((l.movedPattern base).splitOn '/'))) =
      base.names.map String.toList ++ (l.depth ++ l.row) := by
  have hanchored : Rule.anchored ((l.movedPattern base).splitOn '/') =
      base.names.map String.toList ++ (l.depth ++ l.body.splitOn '/') := by
    rw [movedPattern, depth]
    cases l.isFloating with
    | false => exact anchored_splitOn base.names_ne_nil base.isName (.inl rfl)
    | true =>
      have hsplit : (['*', '*'] ++ '/' :: l.body).splitOn '/' =
          [Rule.anyDepth] ++ l.body.splitOn '/' := by
        rw [List.splitOn_append_cons_self]
        rfl
      rw [if_pos rfl, if_pos rfl, ← hsplit,
        ← anchored_splitOn base.names_ne_nil base.isName (.inr ⟨rfl, l.body, rfl⟩)]
      simp [PlainFolder.text]
  have hbody := List.splitOn_ne_nil '/' l.body
  rw [hanchored, Rule.opened_append _ (List.append_ne_nil_of_right_ne_nil _ hbody),
    Rule.opened_append _ hbody, opened_splitOn_body,
    Rule.merged_append fun name hname => ne_anyDepth_of_isPlain (base.isPlain_names name hname),
    merged_depth_row]

/-- What comes after the directory in a moved line. -/
def tailPieces : List Piece :=
  (if l.isFloating then [.anySubfolders] else []) ++ .slash :: rowPieces l.folder l.segments

theorem piecesFrom_depth_row :
    Rule.piecesFrom l.folder false true (l.depth ++ l.row) = .ok l.tailPieces := by
  have hrow := l.piecesFrom_row_self false true
  rw [depth, tailPieces]
  cases l.isFloating with
  | false => exact hrow
  | true =>
    rw [if_pos rfl, if_pos rfl, List.singleton_append, Rule.piecesFrom, if_pos rfl,
      if_neg Bool.false_ne_true, List.isEmpty_eq_false_iff.mpr l.row_ne_nil, hrow]
    rfl

/-- What comes after the directory takes a slash, and then what the line itself takes. -/
theorem fits_tailPieces {text : List Char} :
    Fits l.tailPieces text ↔ ∃ q, text = '/' :: q ∧ Fits l.pieces q := by
  rw [tailPieces, pieces]
  cases l.isFloating with
  | false => exact fits_slash
  | true =>
    simp only [if_true, List.singleton_append, fits_cons, Piece.Takes]
    constructor
    · rintro ⟨_, rfl | ⟨w, hne, hw, rfl⟩, rest, rfl, hrest⟩
      · exact ⟨rest, rfl, rest, .inl rfl, hrest⟩
      · exact ⟨w ++ '/' :: rest, rfl, rest, .inr ⟨w, hne, hw, rfl⟩, hrest⟩
    · rintro ⟨q, rfl, rest, rfl | ⟨w, hne, hw, rfl⟩, hrest⟩
      · exact ⟨_, .inl rfl, q, rfl, hrest⟩
      · exact ⟨'/' :: rest, .inr ⟨w, hne, hw, rfl⟩, rest, rfl, hrest⟩

theorem of_mem_movedPattern {c : Char} (h : c ∈ l.movedPattern base) :
    c = '/' ∨ isOrdinary c = true := by
  have hdepth : c ∈ ['/', '*', '*', '/'] → c = '/' ∨ isOrdinary c = true := by
    intro hmem
    simp only [List.mem_cons, List.not_mem_nil, or_false] at hmem
    rcases hmem with rfl | rfl | rfl | rfl <;> decide
  rw [movedPattern] at h
  split at h
  · simp only [List.mem_append] at h
    rcases h with (h | h) | h
    · exact base.of_mem_text h
    · exact hdepth h
    · exact l.of_mem_body h
  · simp only [List.cons_append, List.mem_cons, List.mem_append] at h
    rcases h with h | h | h | h
    · exact .inl h
    · exact base.of_mem_text h
    · exact .inl h
    · exact l.of_mem_body h

theorem exists_mem_movedPattern : ∃ c ∈ l.movedPattern base, c ≠ '/' := by
  obtain ⟨c, hc, hslash⟩ := l.exists_mem_body
  refine ⟨c, ?_, hslash⟩
  rw [movedPattern]
  split <;> simp [hc]

theorem getLast?_splitOn_movedPattern :
    (((l.movedPattern base).splitOn '/').getLast? == some []) = l.folder := by
  rw [movedPattern]
  split
  · have hsame : base.text ++ ['/', '*', '*', '/'] ++ l.body =
        base.text ++ ['/', '*', '*'] ++ '/' :: l.body := by simp
    rw [hsame, getLast?_splitOn_append]
  · exact l.getLast?_splitOn_append ('/' :: base.text)

/-- The pieces of a moved line spell the directory. -/
theorem piecesOf_moved :
    Rule.piecesOf l.folder (base.names.map String.toList ++ (l.depth ++ l.row)) =
      .ok (.start :: (PlainFolder.spelled base.text ++ l.tailPieces)) := by
  have hnames : ∀ name ∈ base.names.map String.toList, isPlain name = true ∧ '/' ∉ name := by
    intro text htext
    refine ⟨base.isPlain_names text htext, ?_⟩
    obtain ⟨name, hmem, rfl⟩ := List.mem_map.mp htext
    exact (base.isName name hmem).2
  have hfrom := PlainFolder.piecesFrom_names (by simpa using base.names_ne_nil) hnames
    (List.append_ne_nil_of_right_ne_nil _ l.row_ne_nil) l.piecesFrom_depth_row true false
  rw [base.text_eq]
  obtain ⟨name, names, hbase⟩ := List.exists_cons_of_ne_nil base.names_ne_nil
  rw [hbase, List.map_cons] at hnames hfrom ⊢
  rw [List.cons_append] at hfrom ⊢
  rw [Rule.piecesOf_cons (ne_anyDepth_of_isPlain (hnames _ List.mem_cons_self).1), hfrom]
  rfl

theorem isInner_of_mem_moved {piece : Piece}
    (h : piece ∈ PlainFolder.spelled base.text ++ l.tailPieces) : IsInner piece := by
  rw [tailPieces, List.mem_append, List.mem_append, List.mem_cons] at h
  rcases h with h | h | rfl | h
  · obtain ⟨c, -, rfl⟩ := List.mem_map.mp h
    split
    · exact ⟨by simp, by simp⟩
    · refine ⟨by simp, fun part hpart => ?_⟩
      cases hpart
      rfl
  · split at h
    · rw [List.mem_singleton.mp h]
      exact ⟨by simp, by simp⟩
    · cases h
  · exact ⟨by simp, by simp⟩
  · exact isInner_of_mem_rowPieces h

/-- **What a moved line is compiled to.** The rule matches the directory, a slash, and what the
pieces of the line fit. -/
theorem exists_moved : ∃ moved, Rule.compile (rebase base.text l.text) = .ok (some moved) ∧
    moved.negated = l.negated ∧
    ∀ path, moved.search path ≠ none ↔ ∃ q, path = base.text ++ '/' :: q ∧ Fits l.pieces q := by
  have hinner : ∀ piece ∈ PlainFolder.spelled base.text ++ l.tailPieces, IsInner piece :=
    fun _ => l.isInner_of_mem_moved base
  have hcompile : Rule.compile (rebase base.text l.text) = .ok (some
      ⟨l.negated, patternOf (.start :: (PlainFolder.spelled base.text ++ l.tailPieces))⟩) := by
    have hpieces := l.piecesOf_moved base
    rw [← l.getLast?_splitOn_movedPattern base] at hpieces
    rw [rebase_text]
    refine l.compile_mark_append (fun c => l.of_mem_movedPattern base)
      (l.exists_mem_movedPattern base) (l.merged_opened_anchored_movedPattern base) ?_ hpieces
      (reversed?_start hinner)
    exact List.append_ne_nil_of_right_ne_nil _ (List.append_ne_nil_of_right_ne_nil _ l.row_ne_nil)
  refine ⟨_, hcompile, rfl, fun path => ?_⟩
  rw [Rule.search_ne_none_iff_of_start rfl fun hmem => (hinner _ hmem).ne_start rfl, fits_append]
  simp only [PlainFolder.takes_spelled, fits_tailPieces]
  constructor
  · rintro ⟨_, hpath, q, rfl, hq⟩
    exact ⟨q, hpath, hq⟩
  · rintro ⟨q, hpath, hq⟩
    exact ⟨_, hpath, q, rfl, hq⟩

end OrdinaryLine

/-! ## What a move keeps -/

/-- A moved line matches a path below the directory if the line fits it as seen from there. -/
theorem OrdinaryLine.exists_moved_of_path (l : OrdinaryLine) (base : PlainFolder) :
    ∃ moved, Rule.compile (rebase base.text l.text) = .ok (some moved) ∧
      moved.negated = l.negated ∧
      (∀ text, moved.search (base.text ++ '/' :: text) ≠ none ↔ Fits l.pieces text) ∧
      ∀ path, moved.search path ≠ none → ∃ rest, rest ≠ [] ∧ path = base.text ++ '/' :: rest := by
  obtain ⟨moved, hmoved, hnegated, hsearch⟩ := l.exists_moved base
  refine ⟨moved, hmoved, hnegated, fun text => ?_, fun path hpath => ?_⟩
  · rw [hsearch]
    constructor
    · rintro ⟨text', heq, hfits⟩
      rwa [(List.cons.inj (List.append_cancel_left heq)).2]
    · exact fun hfits => ⟨_, rfl, hfits⟩
  · obtain ⟨rest, rfl, hfits⟩ := (hsearch path).mp hpath
    refine ⟨rest, ?_, rfl⟩
    rintro rfl
    exact l.not_fits_nil hfits

/-- **A move keeps the meaning.** An ordinary line and the line moved up from a plain directory both
make rules, with the same mark. The moved one matches a path below the directory exactly if the line
itself matches the path as seen from there, and nothing that is not below the directory. One kind of
name is apart: a star alone, without slashes, does not match a name of line feeds only, while it
does once it is moved. -/
theorem moved_search_iff (base : PlainFolder) (l : OrdinaryLine) :
    ∃ rule moved, Rule.compile l.text = .ok (some rule) ∧
      Rule.compile (rebase base.text l.text) = .ok (some moved) ∧
      rule.negated = l.negated ∧ moved.negated = l.negated ∧
      (∀ q : RelativePath, moved.search (base.text ++ '/' :: q.text) ≠ none ↔
        rule.search q.text ≠ none ∨ l.IsAnyName ∧ l.folder = false ∧ ∀ c ∈ q.text, c = '\n') ∧
      ∀ path, moved.search path ≠ none → ∃ rest, rest ≠ [] ∧ path = base.text ++ '/' :: rest := by
  obtain ⟨rule, hrule, hnegated, hpath⟩ := l.exists_rule_of_path
  obtain ⟨moved, hmoved, hnegated', hsearch, hbelow⟩ := l.exists_moved_of_path base
  exact ⟨rule, moved, hrule, hmoved, hnegated, hnegated',
    fun q => (hsearch q.text).trans (hpath q), hbelow⟩

/-- The kind of name apart: below `sub`, a star matches a name that is a line feed once it is moved,
and not before. -/
theorem search_star_line_feed : ∃ (base : PlainFolder) (l : OrdinaryLine) (q : RelativePath),
    base.text = "sub".toList ∧ l.text = "*".toList ∧ q.text = "\n".toList ∧
      ∃ rule moved, Rule.compile l.text = .ok (some rule) ∧
        Rule.compile (rebase base.text l.text) = .ok (some moved) ∧
        moved.search (base.text ++ '/' :: q.text) ≠ none ∧ rule.search q.text = none :=
  ⟨⟨["sub"], by decide, by decide⟩, ⟨false, false, [['*']], false, by decide, by decide⟩,
    ⟨["\n"], false, by decide, by decide⟩, rfl, rfl, rfl, _, _, rfl, rfl, by decide +kernel,
    by decide +kernel⟩

end Relocation.Ignore
