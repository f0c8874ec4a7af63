import Relocation.Proofs.Ignore.Containment
import Relocation.Proofs.Pattern.Reading

/-!
# What pieces take from a path

The pattern of a rule is a row of pieces. To match a path is to give every piece its part of the
path, one after another, so a match can be told by what is left of the path before and after each
piece, without cursors and captures.

* `Glob.Part.Takes`, `Piece.Takes`, `Takes` — what is left before and after,
* `exists_mem_ends_iff` — **matching is taking**,
* `Rule.search_ne_none_iff_of_start`, `Rule.search_ne_none_iff_of_single` — whether a rule matches a
  path, for the two kinds of rows that lines are compiled to,
* `Rule.piecesOf_cases`, `Rule.exists_pieces_of_compile` — which kind a line is compiled to.
-/

namespace Relocation

/-! ## Taking -/

/-- A part of a glob takes something from the front of a text and leaves the rest. -/
def Glob.Part.Takes : Glob.Part → (before after : List Char) → Prop
  | literal c, before, after => before = c :: after
  | anyRun, before, after => ∃ w, '/' ∉ w ∧ before = w ++ after
  | anyOne, before, after => ∃ c, c ≠ '/' ∧ before = c :: after
  | bracket negated members, before, after =>
    ∃ c, CharSet.contains ⟨negated, Glob.ranges members⟩ c = true ∧ before = c :: after

namespace Ignore

/-- A piece takes something from the front of what is left of a path and leaves the rest. The start
of the path is where it should be. -/
def Piece.Takes : Piece → (before after : List Char) → Prop
  | start, before, after => before = after
  | anyFolders, before, after =>
    before = after ∨ ∃ w, w ≠ [] ∧ '\n' ∉ w ∧ before = w ++ '/' :: after
  | anySubfolders, before, after =>
    before = after ∨ ∃ w, w ≠ [] ∧ '\n' ∉ w ∧ before = '/' :: (w ++ after)
  | slash, before, after => before = '/' :: after
  | folderSlash, before, after => before = '/' :: after
  | ending, before, after =>
    before = '/' :: after ∨ before = after ∧ (after = [] ∨ after = ['\n'])
  | anyName, before, after => ∃ w, w ≠ [] ∧ '/' ∉ w ∧ before = w ++ after
  | anyChar, before, after => ∃ c, c ≠ '\n' ∧ before = c :: after
  | glob part, before, after => part.Takes before after

/-- Several pieces take something, one after another. -/
def Takes : List Piece → (before after : List Char) → Prop
  | [], before, after => before = after
  | piece :: pieces, before, after =>
    ∃ middle, piece.Takes before middle ∧ Takes pieces middle after

/-- Some pieces fit the front of a text. -/
def Fits (pieces : List Piece) (text : List Char) : Prop :=
  ∃ after, Takes pieces text after

section

variable {piece : Piece} {pieces more : List Piece} {before after text : List Char}

theorem takes_append : Takes (pieces ++ more) before after ↔
    ∃ middle, Takes pieces before middle ∧ Takes more middle after := by
  induction pieces generalizing before with
  | nil => simp [Takes]
  | cons piece pieces ih =>
    simp only [List.cons_append, Takes, ih]
    constructor
    · rintro ⟨m, hm, n, hn, hmore⟩
      exact ⟨n, ⟨m, hm, hn⟩, hmore⟩
    · rintro ⟨n, ⟨m, hm, hn⟩, hmore⟩
      exact ⟨m, hm, n, hn, hmore⟩

theorem fits_cons :
    Fits (piece :: pieces) text ↔ ∃ rest, piece.Takes text rest ∧ Fits pieces rest := by
  constructor
  · rintro ⟨after, rest, hrest, hafter⟩
    exact ⟨rest, hrest, after, hafter⟩
  · rintro ⟨rest, hrest, after, hafter⟩
    exact ⟨after, rest, hrest, hafter⟩

theorem fits_append :
    Fits (pieces ++ more) text ↔ ∃ rest, Takes pieces text rest ∧ Fits more rest := by
  simp only [Fits, takes_append]
  constructor
  · rintro ⟨after, rest, hrest, hafter⟩
    exact ⟨rest, hrest, after, hafter⟩
  · rintro ⟨rest, hrest, after, hafter⟩
    exact ⟨after, rest, hrest, hafter⟩

theorem fits_slash : Fits (.slash :: pieces) text ↔ ∃ rest, text = '/' :: rest ∧ Fits pieces rest :=
  fits_cons

/-! ## What is taken -/

theorem Part.exists_append_of_takes {part : Glob.Part} (h : part.Takes before after) :
    ∃ w, before = w ++ after := by
  cases part with
  | literal a => exact ⟨[a], h⟩
  | anyRun =>
    obtain ⟨w, -, rfl⟩ := h
    exact ⟨w, rfl⟩
  | anyOne =>
    obtain ⟨a, -, rfl⟩ := h
    exact ⟨[a], rfl⟩
  | bracket negated members =>
    obtain ⟨a, -, rfl⟩ := h
    exact ⟨[a], rfl⟩

/-- What is left is at the end of what was there. -/
theorem Piece.exists_append_of_takes (h : piece.Takes before after) : ∃ w, before = w ++ after := by
  cases piece with
  | start => exact ⟨[], h⟩
  | anyFolders =>
    obtain rfl | ⟨w, -, -, rfl⟩ := h
    · exact ⟨[], rfl⟩
    · exact ⟨w ++ ['/'], by simp⟩
  | anySubfolders =>
    obtain rfl | ⟨w, -, -, rfl⟩ := h
    · exact ⟨[], rfl⟩
    · exact ⟨'/' :: w, rfl⟩
  | slash => exact ⟨['/'], h⟩
  | folderSlash => exact ⟨['/'], h⟩
  | ending =>
    obtain rfl | ⟨rfl, -⟩ := h
    · exact ⟨['/'], rfl⟩
    · exact ⟨[], rfl⟩
  | anyName =>
    obtain ⟨w, -, -, rfl⟩ := h
    exact ⟨w, rfl⟩
  | anyChar =>
    obtain ⟨a, -, rfl⟩ := h
    exact ⟨[a], rfl⟩
  | glob part => exact Part.exists_append_of_takes h

theorem Part.takes_frame {part : Glob.Part} (h : part.Takes before after) (text : List Char) :
    part.Takes (before ++ text) (after ++ text) := by
  cases part with
  | literal a =>
    obtain rfl : before = a :: after := h
    rfl
  | anyRun =>
    obtain ⟨w, hw, rfl⟩ := h
    exact ⟨w, hw, List.append_assoc ..⟩
  | anyOne =>
    obtain ⟨a, ha, rfl⟩ := h
    exact ⟨a, ha, rfl⟩
  | bracket negated members =>
    obtain ⟨a, ha, rfl⟩ := h
    exact ⟨a, ha, rfl⟩

/-- Only the end of the path minds what follows. -/
theorem Piece.takes_frame (hending : piece ≠ .ending) (h : piece.Takes before after)
    (text : List Char) : piece.Takes (before ++ text) (after ++ text) := by
  cases piece with
  | start => exact congrArg (· ++ text) h
  | anyFolders =>
    obtain rfl | ⟨w, hne, hw, rfl⟩ := h
    · exact .inl rfl
    · exact .inr ⟨w, hne, hw, by simp⟩
  | anySubfolders =>
    obtain rfl | ⟨w, hne, hw, rfl⟩ := h
    · exact .inl rfl
    · exact .inr ⟨w, hne, hw, by simp⟩
  | slash => exact congrArg (· ++ text) h
  | folderSlash => exact congrArg (· ++ text) h
  | ending => exact absurd rfl hending
  | anyName =>
    obtain ⟨w, hne, hw, rfl⟩ := h
    exact ⟨w, hne, hw, List.append_assoc ..⟩
  | anyChar =>
    obtain ⟨a, ha, rfl⟩ := h
    exact ⟨a, ha, rfl⟩
  | glob part => exact Part.takes_frame h text

/-! ## Matching is taking -/

theorem Part.exists_mem_ends_iff {part : Glob.Part} {c : Cursor} :
    (∃ e ∈ part.pattern.ends c, e.rest = after) ↔ part.Takes c.rest after := by
  obtain ⟨pos, text, captured⟩ := c
  cases part with
  | literal a =>
    simp only [Glob.Part.pattern, Pattern.mem_ends_char, Glob.Part.Takes]
    constructor
    · rintro ⟨e, ⟨rest, rfl, rfl⟩, rfl⟩
      rfl
    · rintro rfl
      exact ⟨_, ⟨after, rfl, rfl⟩, rfl⟩
  | anyRun =>
    simp only [Glob.Part.pattern, Pattern.mem_ends_run, Glob.Part.Takes, Glob.notSlash,
      CharSet.contains_allBut, List.mem_singleton]
    constructor
    · rintro ⟨e, ⟨w, rest, rfl, hw, rfl⟩, rfl⟩
      exact ⟨w, fun hmem => hw _ hmem rfl, rfl⟩
    · rintro ⟨w, hw, rfl⟩
      exact ⟨_, ⟨w, after, rfl, fun a ha heq => hw (heq ▸ ha), rfl⟩, rfl⟩
  | anyOne =>
    simp only [Glob.Part.pattern, Pattern.mem_ends_one, Glob.Part.Takes, Glob.notSlash,
      CharSet.contains_allBut, List.mem_singleton]
    constructor
    · rintro ⟨e, ⟨a, rest, rfl, ha, rfl⟩, rfl⟩
      exact ⟨a, ha, rfl⟩
    · rintro ⟨a, ha, rfl⟩
      exact ⟨_, ⟨a, after, rfl, ha, rfl⟩, rfl⟩
  | bracket negated members =>
    simp only [Glob.Part.pattern, Pattern.mem_ends_one, Glob.Part.Takes]
    constructor
    · rintro ⟨e, ⟨a, rest, rfl, ha, rfl⟩, rfl⟩
      exact ⟨a, ha, rfl⟩
    · rintro ⟨a, ha, rfl⟩
      exact ⟨_, ⟨a, after, rfl, ha, rfl⟩, rfl⟩

/-- Where a match of a piece can end is where it leaves something. -/
theorem Piece.exists_mem_ends_iff (hstart : piece ≠ .start) {c : Cursor} :
    (∃ e ∈ piece.pattern.ends c, e.rest = after) ↔ piece.Takes c.rest after := by
  cases piece with
  | start => exact absurd rfl hstart
  | anyFolders =>
    obtain ⟨pos, text, captured⟩ := c
    simp only [Piece.pattern, Pattern.mem_ends_opt, Pattern.mem_ends_append,
      Pattern.mem_ends_someOf, Piece.notLineFeed, CharSet.contains_allBut, List.mem_singleton,
      Piece.Takes]
    constructor
    · rintro ⟨e, ⟨d, ⟨w, rest, hne, rfl, hw, rfl⟩, he⟩ | rfl, rfl⟩
      · obtain ⟨rest, rfl, rfl⟩ := Pattern.mem_ends_char.mp he
        exact .inr ⟨w, hne, fun hmem => hw _ hmem rfl, rfl⟩
      · exact .inl rfl
    · rintro (rfl | ⟨w, hne, hw, rfl⟩)
      · exact ⟨_, .inr rfl, rfl⟩
      · have hrun : ∀ a ∈ w, a ≠ '\n' := fun a ha heq => hw (heq ▸ ha)
        exact ⟨_, .inl ⟨_, ⟨w, '/' :: after, hne, rfl, hrun, rfl⟩,
          Pattern.mem_ends_char.mpr ⟨after, rfl, rfl⟩⟩, rfl⟩
  | anySubfolders =>
    obtain ⟨pos, text, captured⟩ := c
    simp only [Piece.pattern, Pattern.mem_ends_opt, Pattern.mem_ends_append,
      Pattern.mem_ends_char, Piece.Takes]
    constructor
    · rintro ⟨e, ⟨d, ⟨rest, rfl, rfl⟩, he⟩ | rfl, rfl⟩
      · obtain ⟨w, rest, hne, rfl, hw, rfl⟩ := Pattern.mem_ends_someOf.mp he
        simp only [Piece.notLineFeed, CharSet.contains_allBut, List.mem_singleton] at hw
        exact .inr ⟨w, hne, fun hmem => hw _ hmem rfl, rfl⟩
      · exact .inl rfl
    · rintro (rfl | ⟨w, hne, hw, rfl⟩)
      · exact ⟨_, .inr rfl, rfl⟩
      · have hrun : ∀ a ∈ w, Piece.notLineFeed.contains a = true := by
          intro a ha
          rw [Piece.notLineFeed, CharSet.contains_allBut, List.mem_singleton]
          exact fun heq => hw (heq ▸ ha)
        exact ⟨_, .inl ⟨_, ⟨w ++ after, rfl, rfl⟩,
          Pattern.mem_ends_someOf.mpr ⟨w, after, hne, rfl, hrun, rfl⟩⟩, rfl⟩
  | slash =>
    change (∃ e ∈ (Glob.Part.literal '/').pattern.ends c, e.rest = after) ↔ _
    exact Part.exists_mem_ends_iff
  | folderSlash =>
    obtain ⟨pos, text, captured⟩ := c
    simp only [Piece.pattern, Pattern.mem_ends_capture, Pattern.mem_ends_char, Piece.Takes]
    constructor
    · rintro ⟨e, ⟨d, ⟨rest, rfl, rfl⟩, rfl⟩, rfl⟩
      rfl
    · rintro rfl
      exact ⟨_, ⟨_, ⟨after, rfl, rfl⟩, rfl⟩, rfl⟩
  | ending =>
    obtain ⟨pos, text, captured⟩ := c
    simp only [Piece.pattern, Pattern.mem_ends_alt, Pattern.mem_ends_capture,
      Pattern.mem_ends_char, Pattern.mem_ends_atEnd, Piece.Takes]
    constructor
    · rintro ⟨e, ⟨d, ⟨rest, rfl, rfl⟩, rfl⟩ | ⟨hend, rfl⟩, rfl⟩
      · exact .inl rfl
      · exact .inr ⟨rfl, hend⟩
    · rintro (rfl | ⟨rfl, hend⟩)
      · exact ⟨_, .inl ⟨_, ⟨after, rfl, rfl⟩, rfl⟩, rfl⟩
      · exact ⟨_, .inr ⟨hend, rfl⟩, rfl⟩
  | anyName =>
    obtain ⟨pos, text, captured⟩ := c
    simp only [Piece.pattern, Pattern.mem_ends_someOf, Glob.notSlash, CharSet.contains_allBut,
      List.mem_singleton, Piece.Takes]
    constructor
    · rintro ⟨e, ⟨w, rest, hne, rfl, hw, rfl⟩, rfl⟩
      exact ⟨w, hne, fun hmem => hw _ hmem rfl, rfl⟩
    · rintro ⟨w, hne, hw, rfl⟩
      exact ⟨_, ⟨w, after, hne, rfl, fun a ha heq => hw (heq ▸ ha), rfl⟩, rfl⟩
  | anyChar =>
    obtain ⟨pos, text, captured⟩ := c
    simp only [Piece.pattern, Pattern.mem_ends_one, Piece.notLineFeed, CharSet.contains_allBut,
      List.mem_singleton, Piece.Takes]
    constructor
    · rintro ⟨e, ⟨a, rest, rfl, ha, rfl⟩, rfl⟩
      exact ⟨a, ha, rfl⟩
    · rintro ⟨a, ha, rfl⟩
      exact ⟨_, ⟨a, after, rfl, ha, rfl⟩, rfl⟩
  | glob part => exact Part.exists_mem_ends_iff

/-- **Matching is taking**, away from the start of the path. -/
theorem exists_mem_ends_iff (hstart : .start ∉ pieces) {c : Cursor} :
    (∃ e ∈ (patternOf pieces).ends c, e.rest = after) ↔ Takes pieces c.rest after := by
  induction pieces generalizing c with
  | nil => simp [patternOf, Pattern.ends, Takes]
  | cons piece pieces ih =>
    rw [List.mem_cons, not_or] at hstart
    simp only [mem_ends_patternOf_cons, Takes]
    constructor
    · rintro ⟨e, ⟨d, hd, he⟩, hafter⟩
      exact ⟨d.rest, (Piece.exists_mem_ends_iff (Ne.symm hstart.1)).mp ⟨d, hd, rfl⟩,
        (ih hstart.2).mp ⟨e, he, hafter⟩⟩
    · rintro ⟨middle, hmiddle, hafter⟩
      obtain ⟨d, hd, rfl⟩ := (Piece.exists_mem_ends_iff (Ne.symm hstart.1)).mpr hmiddle
      obtain ⟨e, he, hafter⟩ := (ih hstart.2).mpr hafter
      exact ⟨e, ⟨d, hd, he⟩, hafter⟩

theorem ends_ne_nil_iff (hstart : .start ∉ pieces) {c : Cursor} :
    (patternOf pieces).ends c ≠ [] ↔ Fits pieces c.rest := by
  constructor
  · intro hne
    obtain ⟨e, he⟩ := List.exists_mem_of_ne_nil _ hne
    exact ⟨e.rest, (exists_mem_ends_iff hstart).mp ⟨e, he, rfl⟩⟩
  · rintro ⟨after, hafter⟩
    obtain ⟨e, he, -⟩ := (exists_mem_ends_iff hstart).mpr hafter
    exact List.ne_nil_of_mem he

end

/-! ## Whether a rule matches -/

namespace Rule

variable {rule : Rule} {pieces : List Piece} {path : List Char}

/-- A rule matches a path if its pattern has an end from some place of the path. -/
theorem search_ne_none_iff : rule.search path ≠ none ↔
    ∃ skipped after, path = skipped ++ after ∧
      rule.pattern.ends ⟨skipped.length, after, none⟩ ≠ [] := by
  rw [search_eq, ne_eq, Option.map_eq_none_iff, Pattern.search, Pattern.searchFrom_eq_none_iff]
  simp only [Pattern.hitAt_eq_none_iff, Nat.zero_add]
  push Not
  rfl

/-- A rule whose pieces begin with the start of the path. -/
theorem search_ne_none_iff_of_start (hrule : rule.pattern = patternOf (.start :: pieces))
    (hstart : .start ∉ pieces) : rule.search path ≠ none ↔ Fits pieces path := by
  have hends {c e : Cursor} : e ∈ (patternOf (.start :: pieces)).ends c ↔
      c.pos = 0 ∧ e ∈ (patternOf pieces).ends c := by
    rw [mem_ends_patternOf_cons, Piece.pattern]
    simp only [Pattern.mem_ends_atStart]
    constructor
    · rintro ⟨d, ⟨hpos, rfl⟩, he⟩
      exact ⟨hpos, he⟩
    · rintro ⟨hpos, he⟩
      exact ⟨c, ⟨hpos, rfl⟩, he⟩
  rw [search_ne_none_iff, hrule]
  constructor
  · rintro ⟨skipped, after, rfl, hne⟩
    obtain ⟨e, he⟩ := List.exists_mem_of_ne_nil _ hne
    obtain ⟨hpos, he⟩ := hends.mp he
    rw [List.eq_nil_of_length_eq_zero hpos, List.nil_append]
    exact (ends_ne_nil_iff hstart).mp (List.ne_nil_of_mem he)
  · intro hfits
    obtain ⟨e, he⟩ := List.exists_mem_of_ne_nil _
      ((ends_ne_nil_iff hstart (c := ⟨0, path, none⟩)).mpr hfits)
    exact ⟨[], path, rfl, List.ne_nil_of_mem (hends.mpr ⟨rfl, he⟩)⟩

/-- A rule of one piece that may stand anywhere. -/
theorem search_ne_none_iff_of_single {piece : Piece} (hrule : rule.pattern = patternOf [piece])
    (hstart : piece ≠ .start) : rule.search path ≠ none ↔
      ∃ skipped before after, path = skipped ++ before ∧ piece.Takes before after := by
  have hnot : Piece.start ∉ [piece] := by simpa using Ne.symm hstart
  simp only [search_ne_none_iff, hrule, ends_ne_nil_iff hnot]
  simp [Fits, Takes]

/-! ## The pieces of a line -/

theorem not_mem_segmentPieces {segment : List Char} {body : List Piece}
    (h : segmentPieces segment = .ok body) {piece : Piece} (hpiece : piece ∈ body) :
    piece = .anyName ∨ ∃ part, piece = .glob part := by
  rw [segmentPieces] at h
  split at h
  · cases h
    exact .inl (List.mem_singleton.mp hpiece)
  · obtain ⟨parts, -, h⟩ := Outcome.bind_eq_ok_iff.mp h
    cases h
    obtain ⟨part, -, rfl⟩ := List.mem_map.mp hpiece
    exact .inr ⟨part, rfl⟩

/-- The pieces of a segment that is no `**`, and of those after it. -/
theorem piecesFrom_cons_eq_ok_iff {isFolder first slash : Bool} {segment : List Char}
    {rest : List (List Char)} (hsegment : segment ≠ anyDepth) :
    piecesFrom isFolder first slash (segment :: rest) = .ok pieces ↔
      ∃ body more, segmentPieces segment = .ok body ∧
        piecesFrom isFolder false true rest = .ok more ∧
        pieces = (if first then [.start] else []) ++ ((if slash then [.slash] else []) ++
          (body ++ ((if rest.isEmpty then [.ending] else []) ++ more))) := by
  rw [piecesFrom, if_neg hsegment]
  simp only [Outcome.bind_eq_ok_iff, Outcome.pure_eq_ok_iff, List.append_assoc]
  grind

/-- What can follow the start of a path: no other start, and the end of the path at the end only. -/
structure IsTail (pieces : List Piece) : Prop where
  start_not_mem : .start ∉ pieces
  ending_not_mem : .ending ∉ pieces.dropLast

theorem IsTail.cons {piece : Piece} (hstart : piece ≠ .start) (hending : piece ≠ .ending)
    (h : IsTail pieces) : IsTail (piece :: pieces) := by
  refine ⟨fun hmem => ?_, fun hmem => ?_⟩
  · rcases List.mem_cons.mp hmem with heq | hmem
    · exact hstart heq.symm
    · exact h.start_not_mem hmem
  · cases pieces with
    | nil => cases hmem
    | cons next pieces =>
      rcases List.mem_cons.mp hmem with heq | hmem
      · exact hending heq.symm
      · exact h.ending_not_mem hmem

theorem IsTail.append {front : List Piece}
    (hfront : ∀ piece ∈ front, piece ≠ .start ∧ piece ≠ .ending) (h : IsTail pieces) :
    IsTail (front ++ pieces) := by
  induction front with
  | nil => exact h
  | cons piece front ih =>
    rw [List.forall_mem_cons] at hfront
    exact (ih hfront.2).cons hfront.1.1 hfront.1.2

/-- The pieces of segments that do not come first. By induction on the segments. -/
theorem isTail_piecesFrom {isFolder slash : Bool} {segments : List (List Char)}
    (h : piecesFrom isFolder false slash segments = .ok pieces) : IsTail pieces := by
  induction segments generalizing slash pieces with
  | nil =>
    cases h
    exact ⟨List.not_mem_nil, List.not_mem_nil⟩
  | cons segment rest ih =>
    by_cases hsegment : segment = anyDepth
    · rw [piecesFrom, if_pos hsegment, if_neg Bool.false_ne_true] at h
      split at h
      · cases h
        cases isFolder <;> exact ⟨by simp, by simp⟩
      · obtain ⟨more, hmore, h⟩ := Outcome.bind_eq_ok_iff.mp h
        cases h
        exact (ih hmore).cons (by simp) (by simp)
    · obtain ⟨body, more, hbody, hmore, rfl⟩ := (piecesFrom_cons_eq_ok_iff hsegment).mp h
      have hdivider : ∀ piece ∈ (if slash then [Piece.slash] else []),
          piece ≠ .start ∧ piece ≠ .ending := by
        cases slash <;> simp
      have hbody' : ∀ piece ∈ body, piece ≠ .start ∧ piece ≠ .ending := by
        intro piece hpiece
        rcases not_mem_segmentPieces hbody hpiece with rfl | ⟨part, rfl⟩ <;> simp
      rw [if_neg Bool.false_ne_true, List.nil_append]
      refine (IsTail.append hbody' ?_).append hdivider
      cases rest with
      | nil =>
        cases hmore
        exact ⟨by simp, by simp⟩
      | cons next rest => exact ih hmore

/-- **The pieces of a line** are one that may stand anywhere, or a start with a tail. -/
theorem piecesOf_cases {isFolder : Bool} {segments : List (List Char)} (hne : segments ≠ [])
    (h : piecesOf isFolder segments = .ok pieces) :
    (∃ piece ∈ [Piece.folderSlash, .anyChar, .slash], pieces = [piece]) ∨
      ∃ tail, pieces = .start :: tail ∧ IsTail tail := by
  rw [piecesOf] at h
  split at h
  · cases h
    left
    cases isFolder <;> simp
  · split at h
    · cases h
      simp
    · split at h
      · cases h
        left
        cases isFolder <;> simp
      · right
        obtain ⟨segment, rest, rfl⟩ := List.exists_cons_of_ne_nil hne
        by_cases hsegment : segment = anyDepth
        · rw [piecesFrom, if_pos hsegment, if_pos rfl] at h
          obtain ⟨more, hmore, h⟩ := Outcome.bind_eq_ok_iff.mp h
          cases h
          exact ⟨_, rfl, (isTail_piecesFrom hmore).cons (by simp) (by simp)⟩
        · obtain ⟨body, more, hbody, hmore, rfl⟩ := (piecesFrom_cons_eq_ok_iff hsegment).mp h
          have htail : piecesFrom isFolder false false (segment :: rest) = .ok _ :=
            (piecesFrom_cons_eq_ok_iff hsegment).mpr ⟨body, more, hbody, hmore, rfl⟩
          exact ⟨_, rfl, isTail_piecesFrom htail⟩

/-- What the pattern of a compiled line is made of. -/
theorem exists_pieces_of_compile {line : List Char} (h : compile line = .ok (some rule)) :
    (∃ piece ∈ [Piece.folderSlash, .anyChar, .slash], rule.pattern = patternOf [piece]) ∨
      ∃ tail, rule.pattern = patternOf (.start :: tail) ∧ IsTail tail := by
  obtain ⟨-, hne, pieces, hpieces, -, rfl⟩ := compile_eq_some_iff.mp h
  rcases piecesOf_cases hne hpieces with ⟨piece, hmem, rfl⟩ | ⟨tail, rfl, htail⟩
  · exact .inl ⟨piece, hmem, rfl⟩
  · exact .inr ⟨tail, rfl, htail⟩

end Rule

end Ignore

end Relocation
