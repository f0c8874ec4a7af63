import Relocation.Proofs.Ignore.Pieces

/-!
# Ordinary lines

An ordinary line is made of an optional mark of a negation, an optional slash, segments with wild
cards, and an optional slash. All of it comes through compilation and can be told by what pieces
take from a path.

* `OrdinaryLine`, `RelativePath` — lines and paths,
* `OrdinaryLine.pieces` — what a line is made of,
* `OrdinaryLine.exists_rule` — **what an ordinary line is compiled to**,
* `OrdinaryLine.exists_rule_of_path` — the same for paths as the walk asks for them.
-/

namespace Relocation.Ignore

/-! ## Texts -/

/-- A character that has no meaning in a line, wild cards apart. White space has one at the end of a
line, and the marks of negations and comments at its start. -/
def isOrdinary (c : Char) : Bool :=
  !CharSet.blank.contains c && !(['/', '[', '\\', '!', '#'].contains c)

example : "AZaz09_-.*?".toList.all isOrdinary = true := by decide

theorem isOrdinary_iff {c : Char} : isOrdinary c = true ↔ CharSet.blank.contains c = false ∧
    c ≠ '/' ∧ c ≠ '[' ∧ c ≠ '\\' ∧ c ≠ '!' ∧ c ≠ '#' := by
  simp [isOrdinary]

/-- The characters of joined texts are those of the texts and the one that joins them. -/
theorem mem_intercalate {names : List (List Char)} {c : Char} (h : c ∈ ['/'].intercalate names) :
    c = '/' ∨ ∃ name ∈ names, c ∈ name := by
  induction names with
  | nil => cases h
  | cons name names ih =>
    cases names with
    | nil =>
      rw [List.intercalate_singleton] at h
      exact .inr ⟨name, List.mem_cons_self, h⟩
    | cons next names =>
      rw [List.intercalate_cons_cons, List.append_assoc, List.mem_append, List.singleton_append,
        List.mem_cons] at h
      rcases h with h | h | h
      · exact .inr ⟨name, List.mem_cons_self, h⟩
      · exact .inl h
      · rcases ih h with h | ⟨name', hname', h⟩
        · exact .inl h
        · exact .inr ⟨name', List.mem_cons_of_mem _ hname', h⟩

/-- A text that has no white space at all is not stripped. -/
theorem stripped_of_forall {line : List Char} (h : ∀ c ∈ line, CharSet.blank.contains c = false) :
    Rule.stripped line = line := by
  rw [Rule.stripped]
  split
  · rfl
  · rcases List.eq_nil_or_concat line with rfl | ⟨before, c, rfl⟩
    · rfl
    · rw [List.concat_eq_append] at h ⊢
      exact Text.trimEnd_append_cons (h c (by simp)) before []

theorem unmarked_of_notMem {text : List Char} (h : '!' ∉ text) : Rule.unmarked text = text := by
  cases text with
  | nil => rfl
  | cons c text => exact Rule.unmarked_cons (fun hc => h (hc ▸ List.mem_cons_self)) text

theorem contains_slash_of_ne {c : Char} (h : c ≠ '/') :
    (CharSet.single '/').contains c = false := by
  rw [← Bool.not_eq_true, CharSet.contains_single]
  exact h

/-! ## Lines and paths -/

/-- An ordinary line. Its segments are not empty, and no two stars in them are neighbours. -/
structure OrdinaryLine where
  negated : Bool
  /-- whether there is a slash in front -/
  rooted : Bool
  segments : List (List Char)
  /-- whether there is a slash at the end -/
  folder : Bool
  segments_ne_nil : segments ≠ []
  ordinary : ∀ segment ∈ segments, segment ≠ [] ∧ segment.all isOrdinary = true ∧
    ¬['*', '*'] <:+: segment

/-- A path below some directory, with or without a slash at its end. -/
structure RelativePath where
  names : List String
  /-- whether there is a slash at the end -/
  folder : Bool
  names_ne_nil : names ≠ []
  isName : ∀ name ∈ names, IsName name

/-- The text of a path. -/
def RelativePath.text (q : RelativePath) : List Char :=
  (Path.joined q.names).toList ++ if q.folder then ['/'] else []

namespace OrdinaryLine

variable (l : OrdinaryLine)

/-- The mark of a negation, if the line has it. -/
def mark : List Char :=
  if l.negated then ['!'] else []

/-- The segments of a line with the slash at its end. -/
def body : List Char :=
  ['/'].intercalate l.segments ++ if l.folder then ['/'] else []

/-- The pattern of a line, which is all but the mark. -/
def pattern : List Char :=
  (if l.rooted then ['/'] else []) ++ l.body

/-- The text of a line. -/
def text : List Char :=
  l.mark ++ l.pattern

/-- Whether a line holds at every depth: it is one segment, without a slash in front. -/
def isFloating : Bool :=
  !l.rooted && l.segments.length == 1

/-- The segments of a compiled line from its first name on. -/
def row : List (List Char) :=
  l.segments ++ if l.folder then [Rule.anyDepth] else []

/-- The pieces of a segment. -/
def segmentPieces (segment : List Char) : List Piece :=
  if segment = Rule.anyName then [.anyName] else segment.map fun c => .glob (partOf c)

/-- The pieces of several segments, with the slashes between them and what stands at the end. -/
def rowPieces (folder : Bool) : List (List Char) → List Piece
  | [] => []
  | [segment] => segmentPieces segment ++ [if folder then .folderSlash else .ending]
  | segment :: rest => segmentPieces segment ++ .slash :: rowPieces folder rest

/-- The pieces of a line. -/
def pieces : List Piece :=
  (if l.isFloating then [.anyFolders] else []) ++ rowPieces l.folder l.segments

/-- A line that is nothing but a star stands for any name at every depth. -/
def IsAnyName : Prop :=
  l.rooted = false ∧ l.segments = [Rule.anyName]

/-! ### The characters of a line -/

theorem isOrdinary_of_mem {segment : List Char} (h : segment ∈ l.segments) {c : Char}
    (hc : c ∈ segment) : isOrdinary c = true :=
  List.all_eq_true.mp (l.ordinary segment h).2.1 c hc

theorem slash_notMem {segment : List Char} (h : segment ∈ l.segments) : '/' ∉ segment :=
  fun hslash => (isOrdinary_iff.mp (l.isOrdinary_of_mem h hslash)).2.1 rfl

theorem of_mem_body {c : Char} (h : c ∈ l.body) : c = '/' ∨ isOrdinary c = true := by
  rw [body, List.mem_append] at h
  rcases h with h | h
  · rcases mem_intercalate h with h | ⟨segment, hsegment, hc⟩
    · exact .inl h
    · exact .inr (l.isOrdinary_of_mem hsegment hc)
  · cases hfolder : l.folder with
    | false => simp [hfolder] at h
    | true => exact .inl (by simpa [hfolder] using h)

theorem of_mem_pattern {c : Char} (h : c ∈ l.pattern) : c = '/' ∨ isOrdinary c = true := by
  rw [pattern, List.mem_append] at h
  rcases h with h | h
  · cases hrooted : l.rooted with
    | false => simp [hrooted] at h
    | true => exact .inl (by simpa [hrooted] using h)
  · exact l.of_mem_body h

theorem exists_mem_body : ∃ c ∈ l.body, c ≠ '/' := by
  obtain ⟨segment, rest, hsegments⟩ := List.exists_cons_of_ne_nil l.segments_ne_nil
  have hsegment : segment ∈ l.segments := hsegments ▸ List.mem_cons_self
  obtain ⟨c, hc⟩ := List.exists_mem_of_ne_nil _ (l.ordinary segment hsegment).1
  refine ⟨c, ?_, fun hslash => l.slash_notMem hsegment (hslash ▸ hc)⟩
  rw [body, hsegments]
  cases rest with
  | nil => simp [hc]
  | cons next rest => simp [hc]

theorem splitOn_body : l.body.splitOn '/' = l.segments ++ if l.folder then [[]] else [] := by
  have hsplit : (['/'].intercalate l.segments).splitOn '/' = l.segments :=
    List.splitOn_intercalate '/' (fun _ => l.slash_notMem) l.segments_ne_nil
  rw [body]
  cases l.folder with
  | false => simpa using hsplit
  | true =>
    rw [if_pos rfl, if_pos rfl, List.splitOn_append_cons_self, hsplit]
    rfl

/-! ### The segments of a line -/

theorem ne_anyDepth {segment : List Char} (h : segment ∈ l.segments) : segment ≠ Rule.anyDepth := by
  rintro rfl
  exact (l.ordinary _ h).2.2 List.infix_rfl

theorem row_ne_nil : l.row ≠ [] := by
  simp [row, l.segments_ne_nil]

theorem opened_splitOn_body : Rule.opened (l.body.splitOn '/') = l.row := by
  rw [splitOn_body, row]
  cases l.folder with
  | false =>
    simp only [Bool.false_eq_true, if_false, List.append_nil]
    rw [Rule.opened, if_neg]
    intro hlast
    exact (l.ordinary [] (List.mem_of_getLast? hlast)).1 rfl
  | true =>
    rw [if_pos rfl, if_pos rfl, Rule.opened_append _ (List.cons_ne_nil [] [])]
    rfl

theorem merged_row : Rule.merged l.row = l.row := by
  rw [row, Rule.merged_append fun segment => l.ne_anyDepth]
  cases l.folder <;> rfl

/-- The depth of a floating line comes before its segments. -/
def depth : List (List Char) :=
  if l.isFloating then [Rule.anyDepth] else []

theorem merged_depth_row : Rule.merged (l.depth ++ l.row) = l.depth ++ l.row := by
  rw [depth]
  cases l.isFloating with
  | false => exact l.merged_row
  | true =>
    obtain ⟨segment, rest, hsegments⟩ := List.exists_cons_of_ne_nil l.segments_ne_nil
    have hne := l.ne_anyDepth (hsegments ▸ List.mem_cons_self)
    have hrow := l.merged_row
    rw [row, hsegments] at hrow ⊢
    rw [if_pos rfl, List.singleton_append, List.cons_append, Rule.merged,
      if_neg fun hboth => hne hboth.2, ← List.cons_append, hrow]

/-- One segment alone may stand at any depth, also with a slash after it. -/
theorem anchored_append {segments tail : List (List Char)} (hne : segments ≠ [])
    (h : ∀ segment ∈ segments, segment ≠ [] ∧ segment ≠ Rule.anyDepth)
    (htail : tail = [] ∨ tail = [[]]) : Rule.anchored (segments ++ tail) =
      (if segments.length == 1 then [Rule.anyDepth] else []) ++ (segments ++ tail) := by
  obtain ⟨segment, rest, rfl⟩ := List.exists_cons_of_ne_nil hne
  rw [List.forall_mem_cons] at h
  obtain ⟨c, name, rfl⟩ := List.exists_cons_of_ne_nil h.1.1
  cases rest with
  | nil => rcases htail with rfl | rfl <;> simp [Rule.anchored, h.1.2]
  | cons next rest =>
    obtain ⟨c', name', rfl⟩ := List.exists_cons_of_ne_nil (h.2 next List.mem_cons_self).1
    cases rest <;> rcases htail with rfl | rfl <;> simp [Rule.anchored]

theorem anchored_pattern :
    Rule.anchored (l.pattern.splitOn '/') = l.depth ++ l.body.splitOn '/' := by
  rw [pattern, depth, isFloating]
  cases l.rooted with
  | true =>
    rw [if_pos rfl, List.singleton_append, ← List.nil_append ('/' :: l.body),
      List.splitOn_append_cons_self]
    rfl
  | false =>
    have htail : (if l.folder then [[]] else []) = ([] : List (List Char)) ∨
        (if l.folder then [[]] else []) = [([] : List Char)] := by
      cases l.folder <;> simp
    simp only [Bool.false_eq_true, if_false, List.nil_append, Bool.not_false, Bool.true_and]
    rw [splitOn_body]
    exact anchored_append l.segments_ne_nil
      (fun segment hsegment => ⟨(l.ordinary segment hsegment).1, l.ne_anyDepth hsegment⟩) htail

/-! ### The pieces of a line -/

theorem segmentPieces_eq {segment : List Char} (h : segment ∈ l.segments) :
    Rule.segmentPieces segment = .ok (segmentPieces segment) := by
  have hordinary := fun c (hc : c ∈ segment) => isOrdinary_iff.mp (l.isOrdinary_of_mem h hc)
  by_cases hname : segment = Rule.anyName
  · rw [Rule.segmentPieces, segmentPieces, if_pos hname, if_pos hname]
  · rw [segmentPieces, if_neg hname]
    exact segmentPieces_of_notMem hname (fun hmem => (hordinary _ hmem).2.2.1 rfl)
      fun hmem => (hordinary _ hmem).2.2.2.1 rfl

/-- By induction on the segments, the last of which has what stands at the end. -/
theorem piecesFrom_row {folder : Bool} {segments : List (List Char)} (hne : segments ≠ [])
    (h : ∀ segment ∈ segments, segment ≠ Rule.anyDepth ∧
      Rule.segmentPieces segment = .ok (segmentPieces segment)) (first slash : Bool) :
    Rule.piecesFrom folder first slash (segments ++ if folder then [Rule.anyDepth] else []) =
      .ok ((if first then [.start] else []) ++ ((if slash then [.slash] else []) ++
        rowPieces folder segments)) := by
  induction segments generalizing first slash with
  | nil => exact absurd rfl hne
  | cons segment rest ih =>
    rw [List.forall_mem_cons] at h
    rw [List.cons_append, Rule.piecesFrom_cons_eq_ok_iff h.1.1]
    cases rest with
    | nil =>
      cases folder with
      | false => exact ⟨_, [], h.1.2, rfl, by simp [rowPieces]⟩
      | true => exact ⟨_, [.folderSlash], h.1.2, rfl, by simp [rowPieces]⟩
    | cons next rest =>
      exact ⟨_, _, h.1.2, ih (List.cons_ne_nil next rest) h.2 false true, by simp [rowPieces]⟩

theorem piecesFrom_row_self (first slash : Bool) : Rule.piecesFrom l.folder first slash l.row =
    .ok ((if first then [.start] else []) ++ ((if slash then [.slash] else []) ++
      rowPieces l.folder l.segments)) :=
  piecesFrom_row l.segments_ne_nil
    (fun _ hsegment => ⟨l.ne_anyDepth hsegment, l.segmentPieces_eq hsegment⟩) first slash

/-- A piece that can stand inside a row: it is not the start of the path, and no reversed range. -/
structure IsInner (piece : Piece) : Prop where
  ne_start : piece ≠ .start
  reversed? : ∀ part, piece = .glob part → part.reversed? = none

theorem reversed?_eq_none {before : List Char} {pieces : List Piece}
    (h : ∀ piece ∈ pieces, IsInner piece) : reversed? before pieces = none := by
  induction pieces generalizing before with
  | nil => rfl
  | cons piece pieces ih =>
    rw [List.forall_mem_cons] at h
    have hrest : reversed? (before ++ piece.written) pieces = none := ih h.2
    cases piece with
    | glob part => simp only [Ignore.reversed?, h.1.reversed? part rfl, hrest]
    | _ => simp only [Ignore.reversed?, hrest]

theorem reversed?_start {pieces : List Piece} (h : ∀ piece ∈ pieces, IsInner piece) :
    reversed? [] (.start :: pieces) = none := by
  change reversed? Piece.start.written pieces = none
  exact reversed?_eq_none h

theorem reversed?_partOf (c : Char) : (partOf c).reversed? = none := by
  rw [partOf]
  split
  · rfl
  · split <;> rfl

theorem of_mem_segmentPieces {segment : List Char} {piece : Piece}
    (h : piece ∈ segmentPieces segment) :
    piece = .anyName ∨ ∃ c ∈ segment, piece = .glob (partOf c) := by
  rw [segmentPieces] at h
  split at h
  · exact .inl (List.mem_singleton.mp h)
  · obtain ⟨c, hc, rfl⟩ := List.mem_map.mp h
    exact .inr ⟨c, hc, rfl⟩

theorem isInner_of_mem_rowPieces {folder : Bool} {segments : List (List Char)} {piece : Piece}
    (h : piece ∈ rowPieces folder segments) : IsInner piece := by
  induction segments with
  | nil => cases h
  | cons segment rest ih =>
    have hsegment (hmem : piece ∈ segmentPieces segment) : IsInner piece := by
      rcases of_mem_segmentPieces hmem with rfl | ⟨c, -, rfl⟩
      · exact ⟨by simp, by simp⟩
      · refine ⟨by simp, fun part hpart => ?_⟩
        cases hpart
        exact reversed?_partOf c
    cases rest with
    | nil =>
      rcases List.mem_append.mp h with hmem | hmem
      · exact hsegment hmem
      · obtain rfl := List.mem_singleton.mp hmem
        cases folder <;> exact ⟨by simp, by simp⟩
    | cons next rest =>
      rcases List.mem_append.mp h with hmem | hmem
      · exact hsegment hmem
      · rcases List.mem_cons.mp hmem with rfl | hmem
        · exact ⟨by simp, by simp⟩
        · exact ih hmem

theorem isInner_of_mem_pieces {piece : Piece} (h : piece ∈ l.pieces) : IsInner piece := by
  rw [pieces, List.mem_append] at h
  rcases h with h | h
  · split at h
    · rw [List.mem_singleton.mp h]
      exact ⟨by simp, by simp⟩
    · cases h
  · exact isInner_of_mem_rowPieces h

/-! ### What a line takes -/

/-- A segment takes something: one of its characters is no star. -/
theorem ne_nil_of_takes_map {segment before after : List Char} (h : ∃ c ∈ segment, c ≠ '*')
    (htakes : Takes (segment.map fun c => .glob (partOf c)) before after) : before ≠ [] := by
  induction segment generalizing before with
  | nil =>
    obtain ⟨c, hc, -⟩ := h
    cases hc
  | cons c segment ih =>
    obtain ⟨middle, hmiddle, hrest⟩ := htakes
    by_cases hstar : c = '*'
    · obtain ⟨c', hmem, hne⟩ := h
      have hmem := (List.mem_cons.mp hmem).resolve_left fun heq => hne (heq.trans hstar)
      obtain ⟨w, rfl⟩ := Piece.exists_append_of_takes hmiddle
      exact List.append_ne_nil_of_right_ne_nil w (ih ⟨c', hmem, hne⟩ hrest)
    · change (partOf c).Takes before middle at hmiddle
      rw [partOf, if_neg hstar] at hmiddle
      split at hmiddle
      · obtain ⟨a, -, rfl⟩ := hmiddle
        exact List.cons_ne_nil a middle
      · obtain rfl : before = c :: middle := hmiddle
        exact List.cons_ne_nil c middle

theorem exists_ne_star {segment : List Char} (h : segment ∈ l.segments)
    (hname : segment ≠ Rule.anyName) : ∃ c ∈ segment, c ≠ '*' := by
  refine Classical.byContradiction fun hnot => ?_
  have hstars : ∀ c ∈ segment, c = '*' := fun c hc =>
    Classical.byContradiction fun hne => hnot ⟨c, hc, hne⟩
  obtain ⟨hne, -, hchain⟩ := l.ordinary segment h
  match segment, hne, hname, hstars, hchain with
  | [c], _, hname, hstars, _ =>
    exact hname (congrArg (· :: []) (hstars c List.mem_cons_self))
  | c :: c' :: rest, _, _, hstars, hchain =>
    rw [hstars c List.mem_cons_self,
      hstars c' (List.mem_cons_of_mem _ List.mem_cons_self)] at hchain
    exact hchain (List.prefix_append ['*', '*'] rest).isInfix

/-- A line fits no empty path. -/
theorem not_fits_row_nil : ¬Fits (rowPieces l.folder l.segments) [] := by
  obtain ⟨segment, rest, hsegments⟩ := List.exists_cons_of_ne_nil l.segments_ne_nil
  have hmem : segment ∈ l.segments := hsegments ▸ List.mem_cons_self
  obtain ⟨more, hmore⟩ : ∃ more,
      rowPieces l.folder (segment :: rest) = segmentPieces segment ++ more := by
    cases rest with
    | nil => exact ⟨_, rfl⟩
    | cons next rest => exact ⟨_, rfl⟩
  rw [hsegments, hmore, fits_append]
  rintro ⟨after, htakes, -⟩
  by_cases hname : segment = Rule.anyName
  · rw [segmentPieces, if_pos hname] at htakes
    obtain ⟨middle, ⟨w, hne, -, hsplit⟩, -⟩ := htakes
    exact hne (List.append_eq_nil_iff.mp hsplit.symm).1
  · rw [segmentPieces, if_neg hname] at htakes
    exact ne_nil_of_takes_map (l.exists_ne_star hmem hname) htakes rfl

theorem not_fits_nil : ¬Fits l.pieces [] := by
  rw [pieces]
  cases l.isFloating with
  | false => exact l.not_fits_row_nil
  | true =>
    rw [if_pos rfl, List.singleton_append, fits_cons]
    rintro ⟨rest, hrest | ⟨w, -, -, hw⟩, hfits⟩
    · exact l.not_fits_row_nil (hrest ▸ hfits)
    · exact absurd hw.symm (by simp)

/-! ### Compiling a line -/

/-- A line that is a mark and ordinary segments is compiled to its pieces. -/
theorem compile_mark_append {rest : List Char} (hrest : ∀ c ∈ rest, c = '/' ∨ isOrdinary c = true)
    (hname : ∃ c ∈ rest, c ≠ '/') {names : List (List Char)} {pieces : List Piece}
    (hsegments : Rule.merged (Rule.opened (Rule.anchored (rest.splitOn '/'))) = names)
    (hne : names ≠ [])
    (hpieces : Rule.piecesOf ((rest.splitOn '/').getLast? == some []) names = .ok pieces)
    (hreversed : reversed? [] pieces = none) :
    Rule.compile (l.mark ++ rest) = .ok (some ⟨l.negated, patternOf pieces⟩) := by
  have hordinary : ∀ c ∈ rest, CharSet.blank.contains c = false ∧ c ≠ '!' ∧ c ≠ '#' := by
    intro c hc
    rcases hrest c hc with rfl | h
    · decide
    · have h := isOrdinary_iff.mp h
      exact ⟨h.1, h.2.2.2.2⟩
  have hstripped : Rule.stripped (l.mark ++ rest) = l.mark ++ rest := by
    refine stripped_of_forall fun c hc => ?_
    rcases List.mem_append.mp hc with hc | hc
    · rw [mark] at hc
      split at hc
      · rw [List.mem_singleton.mp hc]
        decide
      · cases hc
    · exact (hordinary c hc).1
  obtain ⟨hunmarked, hmarked, hidle⟩ : Rule.unmarked (l.mark ++ rest) = rest ∧
      Rule.isMarked (l.mark ++ rest) = l.negated ∧ Rule.isIdle (l.mark ++ rest) = false := by
    obtain ⟨c, hc, hslash⟩ := hname
    obtain ⟨first, more, rfl⟩ := List.exists_cons_of_ne_nil (List.ne_nil_of_mem hc)
    have hfirst := (hordinary first List.mem_cons_self).2
    rw [mark]
    cases l.negated with
    | true => simp [Rule.unmarked, Rule.isMarked, Rule.isIdle]
    | false =>
      refine ⟨unmarked_of_notMem fun hmem => (hordinary _ hmem).2.1 rfl, ?_, ?_⟩
      · simpa [Rule.isMarked] using hfirst.1
      · simp only [Rule.isIdle, Bool.false_eq_true, if_false, List.nil_append, List.isEmpty_cons,
          List.head?_cons, Bool.false_or, Bool.or_eq_false_iff, beq_eq_false_iff_ne, ne_eq,
          Option.some.injEq]
        refine ⟨hfirst.2, fun heq => hslash ?_⟩
        rw [heq] at hc
        exact List.mem_singleton.mp hc
  refine Rule.compile_eq_some_iff.mpr ?_
  rw [hstripped, Rule.segments, Rule.isForFolders, hunmarked, hmarked, hsegments]
  exact ⟨hidle, hne, pieces, hpieces, hreversed, rfl⟩

theorem getLast?_splitOn_body : ((l.body.splitOn '/').getLast? == some []) = l.folder := by
  rw [splitOn_body]
  cases l.folder with
  | true => simp
  | false =>
    rw [if_neg Bool.false_ne_true, List.append_nil, beq_eq_false_iff_ne]
    exact fun hlast => (l.ordinary [] (List.mem_of_getLast? hlast)).1 rfl

theorem getLast?_splitOn_append (before : List Char) :
    (((before ++ '/' :: l.body).splitOn '/').getLast? == some []) = l.folder := by
  rw [List.splitOn_append_cons_self, List.getLast?_append_of_ne_nil _ (List.splitOn_ne_nil '/' _),
    getLast?_splitOn_body]

/-- The pieces of a line begin with the start of the path, unless the line is nothing but a star. -/
theorem piecesOf_depth_row (h : ¬l.IsAnyName) :
    Rule.piecesOf l.folder (l.depth ++ l.row) = .ok (.start :: l.pieces) := by
  obtain ⟨segment, rest, hsegments⟩ := List.exists_cons_of_ne_nil l.segments_ne_nil
  have hne := l.ne_anyDepth (hsegments ▸ List.mem_cons_self)
  rw [depth, pieces]
  cases hfloating : l.isFloating with
  | false =>
    have hrow := l.piecesFrom_row_self true false
    rw [row, hsegments, List.cons_append] at hrow
    rw [if_neg Bool.false_ne_true, if_neg Bool.false_ne_true, row, hsegments, List.nil_append,
      List.cons_append, Rule.piecesOf_cons hne, hrow]
    rfl
  | true =>
    have hname : segment ≠ Rule.anyName := by
      rintro rfl
      simp only [isFloating, hsegments, Bool.and_eq_true, Bool.not_eq_true', beq_iff_eq,
        List.length_cons, Nat.add_eq_right, List.length_eq_zero_iff] at hfloating
      exact h ⟨hfloating.1, by rw [hsegments, hfloating.2]⟩
    have hrow := l.piecesFrom_row_self false false
    have hfirst : Rule.piecesFrom l.folder true false (Rule.anyDepth :: l.row) =
        .ok (.start :: .anyFolders :: rowPieces l.folder l.segments) := by
      rw [Rule.piecesFrom, if_pos rfl, if_pos rfl, hrow]
      rfl
    rw [if_pos rfl, if_pos rfl, List.singleton_append, List.singleton_append, Rule.piecesOf, if_neg,
      if_neg, if_neg, hfirst]
    · rw [row, hsegments]
      simp [hname]
    · rw [row, hsegments]
      simp [hname]
    · simp [l.row_ne_nil]

/-- A star alone is one character, or with a slash after it the slash of a directory. -/
theorem piecesOf_of_isAnyName (h : l.IsAnyName) :
    Rule.piecesOf l.folder (l.depth ++ l.row) =
      .ok [if l.folder then .folderSlash else .anyChar] := by
  rw [depth, row, isFloating, h.1, h.2]
  cases l.folder <;> rfl

/-- **What an ordinary line is compiled to.** The rule matches what the pieces of the line fit. A
star alone matches all that is not made of line feeds, and with a slash after it all that has a
slash. -/
theorem exists_rule : ∃ rule, Rule.compile l.text = .ok (some rule) ∧ rule.negated = l.negated ∧
    (¬l.IsAnyName → ∀ path, rule.search path ≠ none ↔ Fits l.pieces path) ∧
    (l.IsAnyName → ∀ path, rule.search path ≠ none ↔
      if l.folder then '/' ∈ path else ∃ c ∈ path, c ≠ '\n') := by
  have hname : ∃ c ∈ l.pattern, c ≠ '/' := by
    obtain ⟨c, hc, hslash⟩ := l.exists_mem_body
    exact ⟨c, List.mem_append_right _ hc, hslash⟩
  have hsegments : Rule.merged (Rule.opened (Rule.anchored (l.pattern.splitOn '/'))) =
      l.depth ++ l.row := by
    rw [anchored_pattern, Rule.opened_append _ (List.splitOn_ne_nil '/' _), opened_splitOn_body,
      merged_depth_row]
  have hfolder : ((l.pattern.splitOn '/').getLast? == some []) = l.folder := by
    rw [pattern]
    cases l.rooted with
    | true => exact l.getLast?_splitOn_append []
    | false => exact l.getLast?_splitOn_body
  have hne : l.depth ++ l.row ≠ [] := List.append_ne_nil_of_right_ne_nil _ l.row_ne_nil
  have hcompile {pieces : List Piece}
      (hpieces : Rule.piecesOf l.folder (l.depth ++ l.row) = .ok pieces)
      (hreversed : reversed? [] pieces = none) :
      Rule.compile l.text = .ok (some ⟨l.negated, patternOf pieces⟩) := by
    rw [← hfolder] at hpieces
    exact l.compile_mark_append (fun c => l.of_mem_pattern) hname hsegments hne hpieces hreversed
  by_cases hany : l.IsAnyName
  · refine ⟨_, hcompile (l.piecesOf_of_isAnyName hany) (by cases l.folder <;> rfl), rfl,
      fun hnot => absurd hany hnot, fun _ path => ?_⟩
    have hstart : (if l.folder then Piece.folderSlash else .anyChar) ≠ .start := by
      cases l.folder <;> simp
    rw [Rule.search_ne_none_iff_of_single rfl hstart]
    cases l.folder with
    | true => simp [Piece.Takes, List.mem_iff_append]
    | false =>
      simp only [Bool.false_eq_true, if_false, Piece.Takes]
      constructor
      · rintro ⟨skipped, before, after, rfl, c, hc, rfl⟩
        exact ⟨c, by simp, hc⟩
      · rintro ⟨c, hmem, hc⟩
        obtain ⟨skipped, after, rfl⟩ := List.append_of_mem hmem
        exact ⟨skipped, _, after, rfl, c, hc, rfl⟩
  · have hinner : ∀ piece ∈ l.pieces, IsInner piece := fun _ => l.isInner_of_mem_pieces
    refine ⟨_, hcompile (l.piecesOf_depth_row hany) (reversed?_start hinner), rfl, fun _ path => ?_,
      fun hyes => absurd hyes hany⟩
    exact Rule.search_ne_none_iff_of_start rfl fun hmem => (hinner _ hmem).ne_start rfl

end OrdinaryLine

/-! ## Paths -/

/-- A path starts with a name, after which it ends or goes on with a slash. -/
theorem RelativePath.exists_first (q : RelativePath) : ∃ first rest, q.text = first ++ rest ∧
    first ≠ [] ∧ '/' ∉ first ∧ (rest = [] ∨ ∃ more, rest = '/' :: more) := by
  obtain ⟨name, names, hnames⟩ := List.exists_cons_of_ne_nil q.names_ne_nil
  obtain ⟨hne, hslash⟩ := q.isName name (hnames ▸ List.mem_cons_self)
  refine ⟨name.toList,
    (names.map String.toList).flatMap ('/' :: ·) ++ if q.folder then ['/'] else [],
    ?_, by simpa using hne, hslash, ?_⟩
  · rw [text, hnames, Path.toList_joined_cons, List.append_assoc]
  · cases names with
    | nil => cases q.folder <;> simp
    | cons next names => exact .inr ⟨_, rfl⟩

/-- A line that is nothing but a star fits the first name of a path, and with a slash after it the
slash of this name. -/
theorem OrdinaryLine.fits_pieces_of_isAnyName {l : OrdinaryLine} (h : l.IsAnyName)
    (q : RelativePath) : Fits l.pieces q.text ↔ (l.folder = true → '/' ∈ q.text) := by
  have hpieces : l.pieces =
      [.anyFolders, .anyName, if l.folder then .folderSlash else .ending] := by
    rw [pieces, isFloating, h.1, h.2]
    rfl
  obtain ⟨first, rest, htext, hne, hslash, hrest⟩ := q.exists_first
  rw [hpieces]
  constructor
  · rintro hfits hfolder
    rw [if_pos hfolder] at hfits
    obtain ⟨after, before, hbefore, middle, hmiddle, last, hlast, -⟩ := hfits
    obtain ⟨w, hw⟩ := Piece.exists_append_of_takes hbefore
    obtain ⟨w', hw'⟩ := Piece.exists_append_of_takes hmiddle
    obtain rfl : middle = '/' :: last := hlast
    rw [hw, hw']
    simp
  · intro hfolder
    refine ⟨_, q.text, .inl rfl, rest, ⟨first, hne, hslash, htext⟩, rest.drop 1, ?_, rfl⟩
    rcases hrest with rfl | ⟨more, rfl⟩
    · rw [if_neg fun hyes => hslash (by simpa [htext] using hfolder hyes)]
      exact .inr ⟨rfl, .inl rfl⟩
    · split
      · rfl
      · exact .inl rfl

/-- A line fits the paths that its rule matches. One kind of name is apart: a star alone, without
slashes, fits a name of line feeds only, which its rule does not match. -/
theorem OrdinaryLine.exists_rule_of_path (l : OrdinaryLine) :
    ∃ rule, Rule.compile l.text = .ok (some rule) ∧ rule.negated = l.negated ∧
      ∀ q : RelativePath, Fits l.pieces q.text ↔
        rule.search q.text ≠ none ∨ l.IsAnyName ∧ l.folder = false ∧ ∀ c ∈ q.text, c = '\n' := by
  obtain ⟨rule, hrule, hnegated, hother, hany⟩ := l.exists_rule
  refine ⟨rule, hrule, hnegated, fun q => ?_⟩
  by_cases hname : l.IsAnyName
  · rw [hany hname, fits_pieces_of_isAnyName hname]
    cases l.folder with
    | true => simp
    | false =>
      simp only [Bool.false_eq_true, false_imp_iff, if_false, hname, true_and, true_iff]
      by_cases hfeeds : ∀ c ∈ q.text, c = '\n'
      · exact .inr hfeeds
      · simp only [not_forall] at hfeeds
        obtain ⟨c, hc, hne⟩ := hfeeds
        exact .inl ⟨c, hc, hne⟩
  · rw [hother hname]
    exact ⟨.inl, fun h => h.resolve_right fun hfeeds => hname hfeeds.1⟩

end Relocation.Ignore
