import Mathlib.Data.List.TakeWhile
import Relocation.Ignore.Rebase
import Relocation.Ignore.Rule
import Relocation.Path
import Relocation.Proofs.Outcome
import Relocation.Proofs.Pattern.Frame
import Relocation.Proofs.Signature.Trimming

/-!
# What a moved line can match

`Ignore.rebase` moves a line by writing the directory of its ignore file in front of it, so the
names of directories are read as part of a glob. Where they have no characters that mean anything
in a glob, the rule that comes out matches nothing but what is below the directory.

* `Rule.ofLine?`, `compileAll_eq_ok_iff` — the rules of several lines,
* `ignores_filter` — a verdict depends on the rules that match,
* `Rule.compile_eq_some_iff` — what a line that makes a rule is made of,
* `isPlain` — the directories whose names stand for themselves,
* `exists_below_of_search` — **containment**: a rule moved up from a plain directory matches only
  paths that go through it.
-/

namespace Relocation

/-! ## Names on a path -/

/-- A name as a directory can hold it: it is not empty and has no slash. -/
def IsName (name : String) : Prop :=
  name ≠ "" ∧ '/' ∉ name.toList

instance : DecidablePred IsName :=
  fun name => inferInstanceAs (Decidable (name ≠ "" ∧ '/' ∉ name.toList))

namespace Path

theorem toList_joined (names : List String) :
    (joined names).toList = ['/'].intercalate (names.map String.toList) := by
  rw [joined, String.toList_intercalate]
  rfl

theorem toList_joined_cons (name : String) (names : List String) :
    (joined (name :: names)).toList =
      name.toList ++ (names.map String.toList).flatMap ('/' :: ·) := by
  induction names generalizing name with
  | nil => simp [toList_joined]
  | cons next names ih =>
    rw [toList_joined, List.map_cons, List.map_cons, List.intercalate_cons_cons, ← List.map_cons,
      ← toList_joined, ih]
    simp

/-- The names of a path can be read off its text. -/
theorem splitOn_joined {names : List String} (hne : names ≠ []) (h : ∀ name ∈ names, IsName name) :
    (joined names).toList.splitOn '/' = names.map String.toList := by
  rw [toList_joined]
  refine List.splitOn_intercalate '/' (fun text htext => ?_) (by simpa using hne)
  obtain ⟨name, hname, rfl⟩ := List.mem_map.mp htext
  exact (h name hname).2

/-- A path whose text goes through a directory, with or without a slash at its end, is below it. -/
theorem prefix_of_joined {above names : List String} {rest : List Char} (habove : above ≠ [])
    (hne : names ≠ []) (habove' : ∀ name ∈ above, IsName name)
    (hnames : ∀ name ∈ names, IsName name)
    (h : (joined names).toList = (joined above).toList ++ '/' :: rest ∨
      (joined names).toList ++ ['/'] = (joined above).toList ++ '/' :: rest) : above <+: names := by
  suffices hmap : above.map String.toList <+: names.map String.toList by
    obtain ⟨names', hnames', heq⟩ := List.prefix_map_iff.mp hmap
    rwa [(List.map_inj_right fun _ _ => String.toList_inj.mp).mp heq]
  have hrest := List.splitOn_ne_nil '/' rest
  rcases h with h | h
  · have hsplit := congrArg (List.splitOn '/') h
    rw [List.splitOn_append_cons_self, splitOn_joined hne hnames,
      splitOn_joined habove habove'] at hsplit
    exact ⟨_, hsplit.symm⟩
  · have hsplit := congrArg (List.splitOn '/') h
    rw [List.splitOn_append_cons_self, List.splitOn_append_cons_self, splitOn_joined hne hnames,
      splitOn_joined habove habove', List.splitOn_nil] at hsplit
    -- the empty segment after the slash at the end is not one of the directory
    have hdrop := congrArg List.dropLast hsplit
    rw [List.dropLast_concat, List.dropLast_append_of_ne_nil hrest] at hdrop
    exact ⟨_, hdrop.symm⟩

end Path

namespace Ignore

/-! ## Rules of several lines -/

/-- The rule that a line makes, if any. -/
def Rule.ofLine? (line : List Char) : Option Rule :=
  match Rule.compile line with
  | .ok rule => rule
  | .error _ => none

theorem Rule.ofLine?_of_compile {line : List Char} {rule : Option Rule}
    (h : Rule.compile line = .ok rule) : Rule.ofLine? line = rule := by
  rw [Rule.ofLine?, h]

theorem Rule.ofLine?_eq_some_iff {line : List Char} {rule : Rule} :
    Rule.ofLine? line = some rule ↔ Rule.compile line = .ok (some rule) := by
  rw [Rule.ofLine?]
  cases Rule.compile line <;> simp

/-- Lines compile if each of them does, and the rules come in the order of the lines. -/
theorem compileAll_eq_ok_iff {lines : List (List Char)} {rules : List Rule} :
    compileAll lines = .ok rules ↔
      (∀ line ∈ lines, ∃ rule, Rule.compile line = .ok rule) ∧
        rules = lines.filterMap Rule.ofLine? := by
  induction lines generalizing rules with
  | nil => simp [compileAll, eq_comm]
  | cons line lines ih =>
    simp only [compileAll, Outcome.bind_eq_ok_iff, Outcome.pure_eq_ok_iff, ih, List.forall_mem_cons]
    constructor
    · rintro ⟨rule, hrule, more, ⟨hlines, rfl⟩, rfl⟩
      refine ⟨⟨⟨rule, hrule⟩, hlines⟩, ?_⟩
      rw [List.filterMap_cons, Rule.ofLine?_of_compile hrule]
      cases rule <;> rfl
    · rintro ⟨⟨⟨rule, hrule⟩, hlines⟩, rfl⟩
      refine ⟨rule, hrule, _, ⟨hlines, rfl⟩, ?_⟩
      rw [List.filterMap_cons, Rule.ofLine?_of_compile hrule]
      cases rule <;> rfl

/-! ## Verdicts -/

/-- Rules that do not match have no say. -/
theorem ignores_filter (rules : List Rule) (path : List Char) :
    ignores (rules.filter fun r => (r.search path).isSome) path = ignores rules path := by
  have hhits : (rules.filter fun r => (r.search path).isSome).reverse.filterMap
      (fun r => (r.search path).map (r, ·)) =
      rules.reverse.filterMap fun r => (r.search path).map (r, ·) := by
    rw [← List.filter_reverse, List.filterMap_filter]
    refine List.filterMap_congr fun r _ => ?_
    cases r.search path <;> rfl
  rw [ignores, ignores, hhits]

/-- Rules without negations leave out what one of them matches. -/
theorem ignores_of_mem {rules : List Rule} {rule : Rule} {path : List Char}
    (hrules : ∀ r ∈ rules, r.negated = false) (hrule : rule ∈ rules)
    (hsearch : rule.search path ≠ none) : ignores rules path = true := by
  rw [ignores]
  generalize hhits : rules.reverse.filterMap (fun r => (r.search path).map (r, ·)) = hits
  have hnegated : ∀ hit ∈ hits, hit.1.negated = false := by
    intro hit hmem
    rw [← hhits] at hmem
    obtain ⟨r, hr, hsome⟩ := List.mem_filterMap.mp hmem
    obtain ⟨m, -, rfl⟩ := Option.map_eq_some_iff.mp hsome
    exact hrules r (List.mem_reverse.mp hr)
  obtain ⟨m, hm⟩ := Option.ne_none_iff_exists'.mp hsearch
  have hmem : (rule, m) ∈ hits := by
    rw [← hhits]
    exact List.mem_filterMap.mpr ⟨rule, List.mem_reverse.mpr hrule, by rw [hm]; rfl⟩
  obtain ⟨first, rest, rfl⟩ := List.exists_cons_of_ne_nil (List.ne_nil_of_mem hmem)
  -- whichever match decides, it is one of a rule without negation
  obtain ⟨hit, hhit, hchosen⟩ : ∃ hit ∈ first :: rest,
      ((first :: rest).find? (fun hit => hit.2 == .entry) <|> (first :: rest).head?) =
        some hit := by
    cases hfind : (first :: rest).find? (fun hit => hit.2 == .entry) with
    | none => exact ⟨first, List.mem_cons_self, rfl⟩
    | some hit => exact ⟨hit, List.mem_of_find?_eq_some hfind, rfl⟩
  rw [hchosen]
  simp [hnegated hit hhit]

/-! ## What a line is made of -/

namespace Rule

/-- A line without the mark of a negation. -/
def unmarked : List Char → List Char
  | '!' :: rest => rest
  | text => text

/-- Whether a stripped line is marked as a negation. -/
def isMarked (text : List Char) : Bool :=
  text.head? == some '!'

/-- Whether a stripped line makes no rule: it is empty, a comment, or nothing but a slash. -/
def isIdle (text : List Char) : Bool :=
  text.isEmpty || text.head? == some '#' || text == ['/']

/-- Whether a stripped line ends in a slash. -/
def isForFolders (text : List Char) : Bool :=
  ((unmarked text).splitOn '/').getLast? == some []

/-- The segments that the pieces of a stripped line are made of. -/
def segments (text : List Char) : List (List Char) :=
  merged (opened (anchored ((unmarked text).splitOn '/')))

/-- What a line is compiled to depends on the line without the white space at its end, but for the
report of a fault. -/
theorem compile_eq (line : List Char) : compile line =
    if isIdle (stripped line) then .ok none
    else
      match segments (stripped line) with
      | [] => .error (.senseless line)
      | names =>
        match piecesOf (isForFolders (stripped line)) names with
        | .error .unclosed => .ok none
        | .error .loneBackslash => .error (.senseless line)
        | .ok pieces =>
          match reversed? [] pieces with
          | some fault => .error fault
          | none => .ok (some ⟨isMarked (stripped line), patternOf pieces⟩) := by
  rw [compile, isIdle]
  split
  · rfl
  · split
    next negated body hparsed =>
    obtain ⟨rfl, rfl⟩ : negated = isMarked (stripped line) ∧ body = unmarked (stripped line) := by
      split at hparsed
      · next rest hline =>
        cases hparsed
        rw [hline]
        exact ⟨rfl, rfl⟩
      · next hline =>
        cases hparsed
        refine ⟨?_, ?_⟩
        · rw [isMarked, eq_comm, beq_eq_false_iff_ne]
          intro hhead
          obtain ⟨rest, hrest⟩ := List.head?_eq_some_iff.mp hhead
          exact hline rest hrest
        · rw [unmarked]
          exact hline
    rfl

/-- **What a line that makes a rule is made of**: it is not idle, it has segments, and its pieces
are those of the segments. -/
theorem compile_eq_some_iff {line : List Char} {rule : Rule} :
    compile line = .ok (some rule) ↔ isIdle (stripped line) = false ∧
      segments (stripped line) ≠ [] ∧
      ∃ pieces, piecesOf (isForFolders (stripped line)) (segments (stripped line)) = .ok pieces ∧
        reversed? [] pieces = none ∧ rule = ⟨isMarked (stripped line), patternOf pieces⟩ := by
  rw [compile_eq]
  cases isIdle (stripped line) with
  | true => simp
  | false =>
    rw [if_neg Bool.false_ne_true]
    cases segments (stripped line) with
    | nil => simp
    | cons name names =>
      dsimp only
      cases piecesOf (isForFolders (stripped line)) (name :: names) with
      | error fault => cases fault <;> simp
      | ok pieces =>
        dsimp only
        cases hreversed : reversed? [] pieces with
        | some fault => simp [hreversed]
        | none => simp [hreversed, eq_comm]

/-- Lines that differ in white space at their ends are compiled to the same rule, or both to none,
or both are refused. -/
theorem toOption_compile_congr {line line' : List Char} (h : stripped line = stripped line') :
    (compile line).toOption = (compile line').toOption := by
  rw [compile_eq, compile_eq, h]
  cases isIdle (stripped line') with
  | true => rfl
  | false =>
    simp only [Bool.false_eq_true, if_false]
    cases segments (stripped line') with
    | nil => rfl
    | cons name names =>
      dsimp only
      cases piecesOf (isForFolders (stripped line')) (name :: names) with
      | error fault => cases fault <;> rfl
      | ok pieces => rfl

/-! ## Segments of a plain directory -/

theorem anchored_cons_of_length {name : List Char} {rest : List (List Char)} (hname : name ≠ [])
    (hrest : 2 ≤ rest.length) : anchored (name :: rest) = name :: rest := by
  obtain ⟨c, text, rfl⟩ := List.exists_cons_of_ne_nil hname
  match rest, hrest with
  | next :: more :: rest, _ => cases next <;> rfl

theorem opened_append (names : List (List Char)) {tail : List (List Char)} (htail : tail ≠ []) :
    opened (names ++ tail) = names ++ opened tail := by
  rw [opened, opened, List.getLast?_append_of_ne_nil _ htail]
  split
  · rw [List.dropLast_append_of_ne_nil htail, List.append_assoc]
  · rfl

theorem opened_ne_nil {segments : List (List Char)} (h : segments ≠ []) : opened segments ≠ [] := by
  rw [opened]
  split
  · simp
  · exact h

theorem merged_cons_of_ne {name : List Char} (h : name ≠ anyDepth) (rest : List (List Char)) :
    merged (name :: rest) = name :: merged rest := by
  cases rest with
  | nil => rfl
  | cons next rest => rw [merged, if_neg fun hboth => h hboth.1]

theorem merged_append {names : List (List Char)} (h : ∀ name ∈ names, name ≠ anyDepth)
    (tail : List (List Char)) : merged (names ++ tail) = names ++ merged tail := by
  induction names with
  | nil => rfl
  | cons name names ih =>
    rw [List.forall_mem_cons] at h
    rw [List.cons_append, merged_cons_of_ne h.1, ih h.2, List.cons_append]

theorem merged_ne_nil {segments : List (List Char)} (h : segments ≠ []) : merged segments ≠ [] := by
  induction segments with
  | nil => exact absurd rfl h
  | cons name rest ih =>
    cases rest with
    | nil => exact List.cons_ne_nil name []
    | cons next rest =>
      rw [merged]
      split
      · exact ih (List.cons_ne_nil next rest)
      · exact List.cons_ne_nil name _

theorem piecesOf_cons {isFolder : Bool} {name : List Char} (h : name ≠ anyDepth)
    (rest : List (List Char)) :
    piecesOf isFolder (name :: rest) = piecesFrom isFolder true false (name :: rest) := by
  simp [piecesOf, h]

theorem unmarked_cons {c : Char} (h : c ≠ '!') (text : List Char) :
    unmarked (c :: text) = c :: text := by
  rw [unmarked]
  rintro rest hcons
  exact h (List.cons.inj hcons).1

end Rule

/-! ## Plain names -/

/-- Whether a text has no characters that mean something in a glob. -/
def isPlain (text : List Char) : Bool :=
  text.all fun c => !(['*', '?', '[', '\\'].contains c)

/-- The part of a glob that a character makes by itself. -/
def partOf (c : Char) : Glob.Part :=
  if c = '*' then .anyRun else if c = '?' then .anyOne else .literal c

/-- A text without brackets and backslashes is a glob of single characters. -/
theorem partsFor_of_notMem {rounds text : List Char} (hrounds : text.length ≤ rounds.length)
    (hbracket : '[' ∉ text) (hslash : '\\' ∉ text) :
    Glob.partsFor rounds text = .ok (text.map partOf) := by
  induction text generalizing rounds with
  | nil => cases rounds <;> rfl
  | cons c text ih =>
    rw [List.mem_cons, not_or] at hbracket hslash
    cases rounds with
    | nil => cases hrounds
    | cons round rounds =>
      have hrest := ih (Nat.le_of_succ_le_succ hrounds) hbracket.2 hslash.2
      rw [List.map_cons, partOf]
      split
      · next hstar =>
        rw [hstar, Glob.partsFor, hrest]
        rfl
      · next hstar =>
        split
        · next hone =>
          rw [hone, Glob.partsFor, hrest]
          rfl
        · next hone =>
          rw [Glob.partsFor, hrest]
          · rfl
          all_goals simp_all [eq_comm]

theorem segmentPieces_of_notMem {text : List Char} (hname : text ≠ Rule.anyName)
    (hbracket : '[' ∉ text) (hslash : '\\' ∉ text) :
    Rule.segmentPieces text = .ok (text.map fun c => .glob (partOf c)) := by
  rw [Rule.segmentPieces, if_neg hname, Glob.parts,
    partsFor_of_notMem (Nat.le_refl _) hbracket hslash]
  simp [bind, Except.bind, pure, Except.pure, Function.comp_def]

/-- A plain text is a glob that stands for itself. -/
theorem segmentPieces_of_isPlain {text : List Char} (h : isPlain text = true) :
    Rule.segmentPieces text = .ok (text.map fun c => .glob (.literal c)) := by
  have hplain : ∀ c ∈ text, c ≠ '*' ∧ c ≠ '?' ∧ c ≠ '[' ∧ c ≠ '\\' := by
    simpa [isPlain] using h
  have hname : text ≠ Rule.anyName := by
    rintro rfl
    cases h
  rw [segmentPieces_of_notMem hname (fun hmem => (hplain _ hmem).2.2.1 rfl)
    fun hmem => (hplain _ hmem).2.2.2 rfl]
  refine congrArg Except.ok (List.map_congr_left fun c hc => ?_)
  rw [partOf, if_neg (hplain c hc).1, if_neg (hplain c hc).2.1]

theorem ne_anyDepth_of_isPlain {text : List Char} (h : isPlain text = true) :
    text ≠ Rule.anyDepth := by
  rintro rfl
  cases h

theorem isPlain_of_joined {names : List String}
    (h : isPlain (Path.joined names).toList = true) :
    ∀ name ∈ names.map String.toList, isPlain name = true := by
  cases names with
  | nil =>
    intro name hname
    cases hname
  | cons first names =>
    rw [Path.toList_joined_cons, isPlain, List.all_append, Bool.and_eq_true, List.all_flatMap,
      List.all_eq_true] at h
    rw [List.map_cons, List.forall_mem_cons]
    refine ⟨List.all_eq_true.mpr h.1, fun name hname => ?_⟩
    have hall := List.all_eq_true.mp h.2 name hname
    rw [List.all_cons, Bool.and_eq_true] at hall
    exact hall.2

/-! ## Matches of pieces -/

section

variable {pos : Nat} {path : List Char} {captured : Option Span} {e : Cursor}

theorem mem_ends_patternOf_cons {piece : Piece} {pieces : List Piece} {c : Cursor} :
    e ∈ (patternOf (piece :: pieces)).ends c ↔
      ∃ d ∈ piece.pattern.ends c, e ∈ (patternOf pieces).ends d :=
  Pattern.mem_ends_append

/-- The pieces of a plain name match that name. -/
theorem mem_ends_literals {name : List Char} {pieces : List Piece} :
    e ∈ (patternOf (name.map (fun c => .glob (.literal c)) ++ pieces)).ends
        ⟨pos, path, captured⟩ ↔
      ∃ rest, path = name ++ rest ∧
        e ∈ (patternOf pieces).ends ⟨pos + name.length, rest, captured⟩ := by
  induction name generalizing pos path with
  | nil => simp
  | cons c name ih =>
    rw [List.map_cons, List.cons_append, mem_ends_patternOf_cons]
    constructor
    · rintro ⟨d, hd, he⟩
      obtain ⟨rest, rfl, rfl⟩ := Pattern.mem_ends_char.mp hd
      obtain ⟨rest, rfl, he⟩ := ih.mp he
      refine ⟨rest, rfl, ?_⟩
      rwa [List.length_cons, Nat.add_comm name.length, ← Nat.add_assoc]
    · rintro ⟨rest, rfl, he⟩
      refine ⟨⟨pos + 1, name ++ rest, captured⟩, Pattern.mem_ends_char.mpr ⟨_, rfl, rfl⟩, ?_⟩
      refine ih.mpr ⟨rest, rfl, ?_⟩
      rwa [List.length_cons, Nat.add_comm name.length, ← Nat.add_assoc] at he

theorem exists_of_mem_ends_slash {pieces : List Piece}
    (h : e ∈ (patternOf (.slash :: pieces)).ends ⟨pos, path, captured⟩) :
    ∃ rest, path = '/' :: rest ∧ e ∈ (patternOf pieces).ends ⟨pos + 1, rest, captured⟩ := by
  obtain ⟨d, hd, he⟩ := mem_ends_patternOf_cons.mp h
  obtain ⟨rest, rfl, rfl⟩ := Pattern.mem_ends_char.mp hd
  exact ⟨rest, rfl, he⟩

/-- Whatever segments follow a name, a match goes on with a slash. -/
theorem exists_slash_of_mem_ends {isFolder : Bool} {segments : List (List Char)}
    {pieces : List Piece} (hsegments : segments ≠ [])
    (hpieces : Rule.piecesFrom isFolder false true segments = .ok pieces)
    (h : e ∈ (patternOf pieces).ends ⟨pos, path, captured⟩) : ∃ rest, path = '/' :: rest := by
  induction segments generalizing pieces pos path captured with
  | nil => exact absurd rfl hsegments
  | cons segment rest ih =>
    rw [Rule.piecesFrom] at hpieces
    split at hpieces
    · rw [if_neg Bool.false_ne_true] at hpieces
      split at hpieces
      · -- any directories at the end: the slash of what they are in
        cases hpieces
        obtain ⟨d, hd, -⟩ := mem_ends_patternOf_cons.mp h
        cases isFolder with
        | false =>
          obtain ⟨rest, rfl, -⟩ := Pattern.mem_ends_char.mp hd
          exact ⟨rest, rfl⟩
        | true =>
          obtain ⟨d', hd', -⟩ := Pattern.mem_ends_capture.mp hd
          obtain ⟨rest, rfl, -⟩ := Pattern.mem_ends_char.mp hd'
          exact ⟨rest, rfl⟩
      · -- any directories before more segments: their own slash or that of the next segment
        next hrest =>
        obtain ⟨more, hmore, hpieces⟩ := Outcome.bind_eq_ok_iff.mp hpieces
        cases hpieces
        obtain ⟨d, hd, he⟩ := mem_ends_patternOf_cons.mp h
        rcases Pattern.mem_ends_opt.mp hd with hd | rfl
        · obtain ⟨d', hd', -⟩ := Pattern.mem_ends_append.mp hd
          obtain ⟨rest, rfl, -⟩ := Pattern.mem_ends_char.mp hd'
          exact ⟨rest, rfl⟩
        · exact ih (fun hnil => hrest (List.isEmpty_iff.mpr hnil)) hmore he
    · obtain ⟨body, -, hpieces⟩ := Outcome.bind_eq_ok_iff.mp hpieces
      obtain ⟨more, -, hpieces⟩ := Outcome.bind_eq_ok_iff.mp hpieces
      cases hpieces
      obtain ⟨rest, rfl, -⟩ := exists_of_mem_ends_slash h
      exact ⟨rest, rfl⟩

/-- The pieces of a plain name with more segments after it. -/
theorem piecesFrom_cons_of_isPlain {isFolder first slash : Bool} {name : List Char}
    {rest : List (List Char)} {pieces : List Piece} (hname : isPlain name = true)
    (hrest : rest ≠ [])
    (h : Rule.piecesFrom isFolder first slash (name :: rest) = .ok pieces) :
    ∃ more, Rule.piecesFrom isFolder false true rest = .ok more ∧
      pieces = (if first then [.start] else []) ++ ((if slash then [.slash] else []) ++
        (name.map (fun c => .glob (.literal c)) ++ more)) := by
  rw [Rule.piecesFrom, if_neg (ne_anyDepth_of_isPlain hname)] at h
  obtain ⟨body, hbody, h⟩ := Outcome.bind_eq_ok_iff.mp h
  obtain ⟨more, hmore, h⟩ := Outcome.bind_eq_ok_iff.mp h
  cases h
  rw [segmentPieces_of_isPlain hname] at hbody
  cases hbody
  refine ⟨more, hmore, ?_⟩
  simp [List.isEmpty_iff, hrest]

/-- After plain names, each with a slash in front, a match goes on with a slash. -/
theorem exists_names_of_mem_ends {isFolder : Bool} {names tail : List (List Char)}
    {pieces : List Piece} (hnames : ∀ name ∈ names, isPlain name = true) (htail : tail ≠ [])
    (hpieces : Rule.piecesFrom isFolder false true (names ++ tail) = .ok pieces)
    (h : e ∈ (patternOf pieces).ends ⟨pos, path, captured⟩) :
    ∃ rest, path = names.flatMap ('/' :: ·) ++ '/' :: rest := by
  induction names generalizing pieces pos path captured with
  | nil => exact exists_slash_of_mem_ends htail hpieces h
  | cons name names ih =>
    rw [List.forall_mem_cons] at hnames
    obtain ⟨more, hmore, rfl⟩ := piecesFrom_cons_of_isPlain hnames.1 (by simp [htail]) hpieces
    obtain ⟨path, rfl, hname⟩ := exists_of_mem_ends_slash h
    obtain ⟨path, rfl, hafter⟩ := mem_ends_literals.mp hname
    obtain ⟨rest, rfl⟩ := ih hnames.2 hmore hafter
    exact ⟨rest, by simp⟩

/-- Plain names with more segments after them are matched at the start of a path only, and with a
slash after the last of them. -/
theorem exists_path_of_mem_ends {isFolder : Bool} {name : List Char}
    {names tail : List (List Char)} {pieces : List Piece} (hname : isPlain name = true)
    (hnames : ∀ name ∈ names, isPlain name = true) (htail : tail ≠ [])
    (hpieces : Rule.piecesFrom isFolder true false (name :: (names ++ tail)) = .ok pieces)
    (h : e ∈ (patternOf pieces).ends ⟨pos, path, captured⟩) :
    pos = 0 ∧ ∃ rest, path = name ++ names.flatMap ('/' :: ·) ++ '/' :: rest := by
  obtain ⟨more, hmore, rfl⟩ := piecesFrom_cons_of_isPlain hname (by simp [htail]) hpieces
  obtain ⟨d, hd, he⟩ := mem_ends_patternOf_cons.mp h
  obtain ⟨hpos, rfl⟩ : pos = 0 ∧ d = ⟨pos, path, captured⟩ := by
    simpa [Piece.pattern, Pattern.ends] using hd
  refine ⟨hpos, ?_⟩
  obtain ⟨path, rfl, hafter⟩ := mem_ends_literals.mp he
  obtain ⟨rest, rfl⟩ := exists_names_of_mem_ends hnames htail hmore hafter
  exact ⟨rest, by simp⟩

end

/-! ## Moved lines -/

/-- Blank lines and comments stay as they are. -/
theorem rebase_eq_self {base line : List Char} (h : base = [] ∨ Text.trimStart .blank line = [] ∨
    (Text.trimStart .blank line).head? = some '#') : rebase base line = line := by
  unfold rebase
  exact if_pos (by simpa [List.isEmpty_iff, or_assoc] using h)

/-- How a line is moved that is neither blank nor a comment. -/
theorem rebase_eq {base line : List Char} (hbase : base ≠ [])
    (hblank : Text.trimStart .blank line ≠ [])
    (hcomment : (Text.trimStart .blank line).head? ≠ some '#') :
    rebase base line = (if Rule.isMarked line then ['!'] else []) ++
      if (Text.trimEnd (.single '/') (Rule.unmarked line)).contains '/' then
        '/' :: base ++ '/' :: Text.trimStart (.single '/') (Rule.unmarked line)
      else base ++ ['/', '*', '*', '/'] ++ Rule.unmarked line := by
  unfold rebase
  dsimp only
  split
  · next hstay => simp [List.isEmpty_iff, hbase, hblank, hcomment] at hstay
  · split
    · next rest _ =>
      rw [show Rule.unmarked ('!' :: rest) = rest from rfl,
        show Rule.isMarked ('!' :: rest) = true from rfl, if_pos rfl]
      split <;> simp only [List.append_assoc, List.cons_append]
    · next hline =>
      have hmarked : Rule.isMarked line = false := by
        rw [Rule.isMarked, beq_eq_false_iff_ne]
        intro hhead
        obtain ⟨rest, hrest⟩ := List.head?_eq_some_iff.mp hhead
        exact hline rest hrest
      have hunmarked : Rule.unmarked line = line := by
        rw [Rule.unmarked]
        exact hline
      rw [hmarked, hunmarked, if_neg Bool.false_ne_true]
      split <;> rfl

/-- A line is moved by writing the directory in front of it, or stays as it is. -/
theorem rebase_cases (base line : List Char) :
    (rebase base line = line ∧ (base = [] ∨ Text.trimStart .blank line = [] ∨
      (Text.trimStart .blank line).head? = some '#')) ∨
    ∃ mark pattern : List Char, (mark = [] ∨ mark = ['!']) ∧
      (rebase base line = mark ++ '/' :: base ++ '/' :: Text.trimStart (.single '/') pattern ∨
        rebase base line = mark ++ base ++ ['/', '*', '*', '/'] ++ pattern) := by
  by_cases hstay : base = [] ∨ Text.trimStart .blank line = [] ∨
      (Text.trimStart .blank line).head? = some '#'
  · exact .inl ⟨rebase_eq_self hstay, hstay⟩
  · simp only [not_or] at hstay
    rw [rebase_eq hstay.1 hstay.2.1 hstay.2.2]
    have hmark : (if Rule.isMarked line then ['!'] else []) = [] ∨
        (if Rule.isMarked line then ['!'] else []) = ['!'] := (ite_eq_or_eq _ _ _).symm
    generalize (if Rule.isMarked line then ['!'] else []) = mark at hmark ⊢
    refine .inr ⟨mark, Rule.unmarked line, hmark, ?_⟩
    split
    · left
      simp only [List.append_assoc, List.cons_append]
    · right
      simp only [List.append_assoc]

/-- What is stripped off a line comes after its last slash. -/
theorem exists_stripped_append (before after : List Char) :
    ∃ after', Rule.stripped (before ++ '/' :: after) = before ++ '/' :: after' := by
  rw [Rule.stripped]
  split
  · exact ⟨after, rfl⟩
  · exact ⟨_, Text.trimEnd_append_cons (by decide) before after⟩

/-- A blank line makes no rule. -/
theorem compile_of_blank {line : List Char} (h : Text.trimStart .blank line = []) :
    Rule.compile line = .ok none := by
  have hblank : ∀ c ∈ line, CharSet.blank.contains c = true := List.dropWhile_eq_nil_iff.mp h
  have hstripped : Rule.stripped line = [] := by
    rw [Rule.stripped, if_neg]
    · rw [Text.trimEnd, List.reverse_eq_nil_iff, List.dropWhile_eq_nil_iff]
      exact fun c hc => hblank c (List.mem_reverse.mp hc)
    · intro hsuffix
      have hmem := (List.isSuffixOf_iff_suffix.mp hsuffix).subset (List.mem_cons_self ..)
      exact absurd (hblank '\\' hmem) (by decide)
  rw [Rule.compile, hstripped]
  rfl

/-- A comment makes no rule. -/
theorem compile_of_comment (text : List Char) : Rule.compile ('#' :: text) = .ok none := by
  obtain ⟨rest, hrest⟩ : ∃ rest, Rule.stripped ('#' :: text) = '#' :: rest := by
    rw [Rule.stripped]
    split
    · exact ⟨text, rfl⟩
    · exact ⟨_, Text.trimEnd_append_cons (by decide) [] text⟩
  rw [Rule.compile, hrest]
  rfl

/-! ## Containment -/

/-- A rule that matches a path matches it from some place on. -/
theorem exists_ends_of_search {rule : Rule} {path : List Char} (h : rule.search path ≠ none) :
    ∃ skipped after, path = skipped ++ after ∧
      ∃ e, e ∈ rule.pattern.ends ⟨skipped.length, after, none⟩ := by
  rw [Rule.search_eq, ne_eq, Option.map_eq_none_iff, ← ne_eq, Option.ne_none_iff_exists'] at h
  obtain ⟨hit, hhit⟩ := h
  obtain ⟨skipped, after, hpath, hat, -⟩ := Pattern.exists_of_searchFrom hhit
  refine ⟨skipped, after, hpath, List.exists_mem_of_ne_nil _ fun hnil => ?_⟩
  rw [Nat.zero_add, Pattern.hitAt_eq_none_iff.mpr hnil] at hat
  cases hat

section

variable {dir : List String}

theorem joined_ne_nil (hdir : dir ≠ []) (hnames : ∀ name ∈ dir, IsName name) :
    (Path.joined dir).toList ≠ [] := by
  obtain ⟨name, names, rfl⟩ := List.exists_cons_of_ne_nil hdir
  have hname := (hnames name List.mem_cons_self).1
  rw [Path.toList_joined_cons]
  simp [String.toList_eq_nil_iff, hname]

/-- The segments of a line that starts with a directory: the names of the directory and what comes
after them. A line without a slash in front needs more than one name to be anchored. -/
theorem anchored_splitOn (hdir : dir ≠ []) (hnames : ∀ name ∈ dir, IsName name)
    {lead tail : List Char}
    (hlead : lead = ['/'] ∨ lead = [] ∧ ∃ more, tail = ['*', '*'] ++ '/' :: more) :
    Rule.anchored ((lead ++ (Path.joined dir).toList ++ '/' :: tail).splitOn '/') =
      dir.map String.toList ++ tail.splitOn '/' := by
  have hsplit := Path.splitOn_joined hdir hnames
  rcases hlead with rfl | ⟨rfl, more, rfl⟩
  · rw [show ['/'] ++ (Path.joined dir).toList ++ '/' :: tail =
        [] ++ '/' :: ((Path.joined dir).toList ++ '/' :: tail) by simp,
      List.splitOn_append_cons_self, List.splitOn_append_cons_self, hsplit]
    rfl
  · rw [List.nil_append, List.splitOn_append_cons_self, List.splitOn_append_cons_self, hsplit]
    obtain ⟨name, names, rfl⟩ := List.exists_cons_of_ne_nil hdir
    have hname : name.toList ≠ [] := by
      simpa using (hnames name List.mem_cons_self).1
    have hmore := List.length_pos_of_ne_nil (List.splitOn_ne_nil '/' more)
    rw [List.map_cons, List.cons_append, Rule.anchored_cons_of_length hname]
    rw [show ['*', '*'].splitOn '/' = [['*', '*']] from rfl]
    simp only [List.length_append, List.length_singleton]
    omega

/-- A moved line that makes a rule starts with the directory, a slash in front or not. -/
theorem exists_unmarked_rebase (hdir : dir ≠ []) (hnames : ∀ name ∈ dir, IsName name)
    (hmark : (Path.joined dir).toList.head? ≠ some '!') {line : List Char} {rule : Rule}
    (hcomment : (Text.trimStart .blank line).head? = some '#' → line.head? = some '#')
    (hrule : Rule.compile (rebase (Path.joined dir).toList line) = .ok (some rule)) :
    ∃ lead tail, Rule.unmarked (Rule.stripped (rebase (Path.joined dir).toList line)) =
        lead ++ (Path.joined dir).toList ++ '/' :: tail ∧
      (lead = ['/'] ∨ lead = [] ∧ ∃ more, tail = ['*', '*'] ++ '/' :: more) := by
  have hbase := joined_ne_nil hdir hnames
  generalize (Path.joined dir).toList = base at hbase hmark hrule ⊢
  obtain ⟨first, base, rfl⟩ := List.exists_cons_of_ne_nil hbase
  rcases rebase_cases (first :: base) line with ⟨hsame, hstay⟩ | ⟨mark, pattern, hmarked, hmoved⟩
  · exfalso
    rw [hsame] at hrule
    rcases hstay with hnil | hblank | hhash
    · exact hbase hnil
    · rw [compile_of_blank hblank] at hrule
      cases hrule
    · obtain ⟨text, rfl⟩ : ∃ text, line = '#' :: text := by
        have hhead := hcomment hhash
        cases line with
        | nil => cases hhead
        | cons c text =>
          cases hhead
          exact ⟨text, rfl⟩
      rw [compile_of_comment] at hrule
      cases hrule
  · rcases hmoved with hmoved | hmoved
    · obtain ⟨tail, htail⟩ := exists_stripped_append (mark ++ '/' :: first :: base)
        (Text.trimStart (.single '/') pattern)
      refine ⟨['/'], tail, ?_, .inl rfl⟩
      rw [hmoved, htail]
      rcases hmarked with rfl | rfl <;> rfl
    · obtain ⟨more, hmore⟩ :=
        exists_stripped_append (mark ++ first :: base ++ ['/', '*', '*']) pattern
      refine ⟨[], ['*', '*'] ++ '/' :: more, ?_, .inr ⟨rfl, more, rfl⟩⟩
      have hsame : mark ++ first :: base ++ ['/', '*', '*', '/'] ++ pattern =
          mark ++ first :: base ++ ['/', '*', '*'] ++ '/' :: pattern := by simp
      rw [hmoved, hsame, hmore]
      rcases hmarked with rfl | rfl
      · have hfirst : first ≠ '!' := fun heq => hmark (heq ▸ rfl)
        simp [Rule.unmarked_cons hfirst]
      · simp [Rule.unmarked]

/-- **Containment.** A rule that is moved up from a plain directory matches only paths that go
through the directory. Two kinds of lines are left aside: those that keep their place because they
are comments with blanks in front, which are no comments to a rule, and those of a directory whose
name starts with the mark of a negation. -/
theorem exists_below_of_search (hdir : dir ≠ []) (hnames : ∀ name ∈ dir, IsName name)
    (hplain : isPlain (Path.joined dir).toList = true)
    (hmark : (Path.joined dir).toList.head? ≠ some '!') {line path : List Char} {rule : Rule}
    (hcomment : (Text.trimStart .blank line).head? = some '#' → line.head? = some '#')
    (hrule : Rule.compile (rebase (Path.joined dir).toList line) = .ok (some rule))
    (hsearch : rule.search path ≠ none) :
    ∃ rest, path = (Path.joined dir).toList ++ '/' :: rest := by
  obtain ⟨lead, tail, htext, hlead⟩ :=
    exists_unmarked_rebase hdir hnames hmark hcomment hrule
  obtain ⟨-, -, pieces, hpieces, -, rfl⟩ := Rule.compile_eq_some_iff.mp hrule
  rw [Rule.segments, htext, anchored_splitOn hdir hnames hlead] at hpieces
  -- the names of the directory come through untouched, with something after them
  have hplainNames := isPlain_of_joined hplain
  have htail := List.splitOn_ne_nil '/' tail
  rw [Rule.opened_append _ htail, Rule.merged_append fun name hname =>
    ne_anyDepth_of_isPlain (hplainNames name hname)] at hpieces
  have hmerged := Rule.merged_ne_nil (Rule.opened_ne_nil htail)
  obtain ⟨name, names, rfl⟩ := List.exists_cons_of_ne_nil hdir
  rw [List.map_cons, List.forall_mem_cons] at hplainNames
  rw [List.map_cons, List.cons_append, Rule.piecesOf_cons (ne_anyDepth_of_isPlain hplainNames.1)]
    at hpieces
  obtain ⟨skipped, after, hpath, e, he⟩ := exists_ends_of_search hsearch
  obtain ⟨hpos, rest, hrest⟩ :=
    exists_path_of_mem_ends hplainNames.1 hplainNames.2 hmerged hpieces he
  refine ⟨rest, ?_⟩
  rw [hpath, List.eq_nil_of_length_eq_zero hpos, Path.toList_joined_cons, hrest]
  rfl

end

end Ignore

end Relocation
