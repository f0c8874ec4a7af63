import Relocation.Proofs.Signature.Declarations

/-!
# Appending

What more text behind a text changes about the functions that it declares. A line that declares its
function by a call keeps the name, whatever comes behind it: the appended text could finish a call
of an earlier word, but the parameters of such a word end in front of the name that was found, or
where those of the name end. Lines below a text add their own signatures, and no others change.

* `Style.afterParameters?_before_word` — where parameters end that start in front of a word,
* `Style.opensCall_append_eq` — in front of a call, no call comes about,
* `Style.IsFirstCall.append`, `declaredName_append` — **the first call stays the first one**,
* `Signature.ofLines_append`, `Signature.ofLines_add` — lines below others, and lines further down,
* `Signature.extract_append_and_replace` — **extraction is line by line**: a text below another one
  keeps its signatures, further down, and a line has a say in its own signature only.
-/

namespace Relocation

open Pattern
open scoped Computability

/-! ## More text on a line -/

/-- A run that comes before another word does not change when the text behind that word does. -/
theorem IsRun.of_between {before run d n rest rest' : List Char} (hn : n ≠ [])
    (h : IsRun (before ++ run ++ d ++ n ++ rest) before run (d ++ n ++ rest)) :
    IsRun (before ++ run ++ d ++ n ++ rest') before run (d ++ n ++ rest') := by
  refine ⟨by simp, h.ne_nil, h.word, h.before_last, fun a ha => h.after_head a ?_⟩
  have hne : d ++ n ≠ [] := List.append_ne_nil_of_right_ne_nil d hn
  rwa [List.head?_append_of_ne_nil _ hne] at ha ⊢

namespace Style

theorem StartsIn.append {l : Language Char} {text : List Char} (h : StartsIn l text)
    (more : List Char) : StartsIn l (text ++ more) := by
  obtain ⟨z, v, rfl, hz⟩ := h
  exact ⟨z, v ++ more, List.append_assoc z v more, hz⟩

/-- A call goes on whatever comes behind it. -/
theorem opensCall_append {rest : List Char} (h : opensCall rest = true) (more : List Char) :
    opensCall (rest ++ more) = true :=
  opensCall_iff.mpr ((opensCall_iff.mp h).append more)

theorem opensCall_iff_finishes {rest : List Char} :
    opensCall rest = true ↔
      ∃ tail, afterParameters? rest = some tail ∧ braceOrArrow.Finishes tail := by
  rw [opensCall_iff, callTail, startsIn_parameters_iff]
  rfl

/-- A body that opens in front of a word opens there without the word as well. -/
theorem finishes_of_append_word {y n rest : List Char} (hn : IsIdentifier n)
    (h : braceOrArrow.Finishes (y ++ n ++ rest)) : braceOrArrow.Finishes y := by
  obtain ⟨z, v, hsplit, hz⟩ := h
  obtain ⟨a, n, rfl, ha⟩ := hn.exists_cons
  have hnot : a ∉ z := by
    intro hmem
    have havoids : (gap ++ braceOrArrow.finish).avoids .word = true := by decide
    rw [contains_of_avoids havoids hz a hmem] at ha
    cases ha
  have hline : z ++ v = y ++ a :: (n ++ rest) := by
    rw [← hsplit, List.append_assoc, List.cons_append]
  obtain ⟨d, rfl, -⟩ := exists_append_of_notMem hnot hline
  exact ⟨z, d, rfl, hz⟩

/-- Parameters that start in front of a word end in front of it, or else where the parameters
behind the word end. -/
theorem afterParameters?_before_word {g x n : List Char} (hg : IsGap g) (hn : IsIdentifier n) :
    (∃ y, ∀ rest, afterParameters? (g ++ '(' :: x ++ n ++ rest) = some (y ++ n ++ rest)) ∨
      ∀ rest tail, afterParameters? rest = some tail →
        afterParameters? (g ++ '(' :: x ++ n ++ rest) = some tail := by
  by_cases hclose : ')' ∈ x
  · obtain ⟨q, y, rfl, hq⟩ := List.eq_append_cons_of_mem hclose
    exact .inl ⟨y, fun rest => afterParameters?_eq_some_iff.mpr ⟨g, q, by simp, hg, hq⟩⟩
  · refine .inr fun rest tail h => ?_
    obtain ⟨g', q, rfl, hg', hq⟩ := afterParameters?_eq_some_iff.mp h
    have hgap' : ')' ∉ g' := IsGap.notMem hg' (by decide)
    refine afterParameters?_eq_some_iff.mpr ⟨g, x ++ n ++ g' ++ '(' :: q, by simp, hg, ?_⟩
    simp only [List.mem_append, List.mem_cons, not_or]
    exact ⟨⟨⟨hclose, hn.notMem (by decide)⟩, hgap'⟩, by decide, hq⟩

/-- **In front of a call, no call comes about.** Whether a call goes on over the name of another
one is settled by the text up to the body of that one. -/
theorem opensCall_append_eq {x n rest : List Char} (hn : IsIdentifier n)
    (hrest : opensCall rest = true) (more : List Char) :
    opensCall (x ++ n ++ (rest ++ more)) = opensCall (x ++ n ++ rest) := by
  rw [Bool.eq_iff_iff]
  constructor
  · intro h
    have hopen : '(' ∈ x := by
      by_contra hnot
      rw [opensCall_append_word hnot hn.1 hn.2] at h
      cases h
    obtain ⟨g, x, rfl, hg⟩ := List.eq_append_cons_of_mem hopen
    obtain ⟨g', r, hsplit, hgap⟩ := exists_blank_of_opensCall h
    have hline : g ++ '(' :: (x ++ n ++ (rest ++ more)) = g' ++ '(' :: r := by
      rw [← hsplit]
      simp
    obtain ⟨rfl, -⟩ := append_cons_inj hg (IsGap.notMem hgap (by decide)) hline
    obtain ⟨tail, htail, hbody⟩ := opensCall_iff_finishes.mp h
    obtain ⟨tail', htail', hbody'⟩ := opensCall_iff_finishes.mp hrest
    rcases afterParameters?_before_word (x := x) hgap hn with ⟨y, hy⟩ | hsame
    · -- the parameters end in front of the name, and the body opens there, too
      rw [hy] at htail
      obtain rfl := Option.some.inj htail
      have hfinish := finishes_of_append_word hn hbody
      refine opensCall_iff_finishes.mpr ⟨y ++ n ++ rest, hy rest, ?_⟩
      rw [List.append_assoc]
      exact StartsIn.append hfinish (n ++ rest)
    · exact opensCall_iff_finishes.mpr ⟨tail', hsame rest tail' htail', hbody'⟩
  · intro h
    rw [← List.append_assoc]
    exact opensCall_append h more

/-- **The first call stays the first one**, whatever comes behind the line. -/
theorem IsFirstCall.append {line before name after : List Char}
    (h : IsFirstCall line before name after) (more : List Char) :
    IsFirstCall (line ++ more) before name (after ++ more) := by
  have hopens := opensCall_append h.opensCall more
  have hrun : IsRun (line ++ more) before name (after ++ more) :=
    ⟨by rw [h.isRun.line_eq, List.append_assoc], h.isRun.ne_nil, h.isRun.word,
      h.isRun.before_last, contains_head_of_opensCall hopens⟩
  have hname : IsIdentifier name := ⟨h.isRun.ne_nil, h.isRun.word⟩
  obtain rfl := h.isRun.line_eq
  refine ⟨hrun, hopens, fun before' run after' hrun' hlt => ?_⟩
  -- the other run ends in front of the name, so it is a run of the line itself
  obtain ⟨d, rfl, rfl⟩ := hrun'.exists_between hrun hlt
  rw [List.append_assoc _ after more, ← List.append_assoc d] at hrun'
  rw [← List.append_assoc, opensCall_append_eq hname h.opensCall]
  exact h.first _ _ _ (IsRun.of_between hname.1 hrun') hlt

end Style

/-- **A line with a call keeps its name.** On a line that the first style matches, the declared name
and its place stay the same, whatever text comes behind the line. -/
theorem declaredName_append {line : List Char}
    (h : (Style.braceOrArrow.pattern.search line).isSome = true) (more : List Char) :
    declaredName (line ++ more) = declaredName line ∧
      declaredAt (line ++ more) = declaredAt line ∧ (declaredName line).isSome = true := by
  obtain ⟨hit, hhit⟩ := Option.isSome_iff_exists.mp h
  obtain ⟨before, name, after, hcall, -⟩ :=
    Style.isFirstCall_of_search Style.findsCalls_braceOrArrow hhit
  have hplace := declaredAt_of_isFirstCall hcall
  have hplace' := declaredAt_of_isFirstCall (hcall.append more)
  have hstop : (before ++ name).length ≤ line.length := by
    rw [hcall.isRun.line_eq]
    exact (List.prefix_append (before ++ name) after).length_le
  rw [declaredName_eq, declaredName_eq, hplace, hplace', Option.map_some, Option.map_some]
  exact ⟨congrArg some (Span.slice_append more hstop), rfl, rfl⟩

/-- The parentheses of the condition would be a call with the arrow behind the line, but the name
of the method comes in between. -/
theorem declaredName_append_arrow :
    (Style.braceOrArrow.pattern.search "if (a) f(b) \x7b".toList).isSome = true ∧
      declaredName ("if (a) f(b) \x7b".toList ++ " g() \x7b\x7d\x7d => \x7b".toList) =
        declaredName "if (a) f(b) \x7b".toList := by
  have h : (Style.braceOrArrow.pattern.search "if (a) f(b) \x7b".toList).isSome = true := by decide
  exact ⟨h, (declaredName_append h _).1⟩

/-! ## More lines -/

namespace Text

/-- The lines of two texts, one below the other. -/
theorem lines_append (text more : String) :
    lines (text ++ "\n" ++ more) = lines text ++ lines more := by
  rw [lines, lines, lines, String.toList_append, String.toList_append, List.append_assoc]
  exact List.splitOnP_append_cons _ _ (beq_self_eq_true '\n')

end Text

namespace Signature

/-- A line further down declares the same, under another number. -/
theorem ofLine?_add (number below : Nat) (line : List Char) :
    ofLine? (number + below) line =
      (ofLine? number line).map fun s => { s with line := s.line + below } := by
  simp only [ofLine?]
  split
  · rfl
  · rw [Option.map_map]
    rfl

theorem ofLines_add (first below : Nat) (lines : List (List Char)) :
    ofLines (first + below) lines =
      (ofLines first lines).map fun s => { s with line := s.line + below } := by
  induction lines generalizing first with
  | nil => rfl
  | cons line lines ih =>
    rw [ofLines_cons, ofLines_cons, List.map_append, ofLine?_add, Nat.add_right_comm, ih]
    cases ofLine? first line <;> rfl

theorem ofLines_append (first : Nat) (lines lines' : List (List Char)) :
    ofLines first (lines ++ lines') =
      ofLines first lines ++ ofLines (first + lines.length) lines' := by
  rw [ofLines, List.zipIdx_append, List.filterMap_append]
  rfl

/-- The signatures of lines with one line between others. -/
theorem ofLines_append_cons (first : Nat) (above below : List (List Char)) (line : List Char) :
    ofLines first (above ++ line :: below) = ofLines first above ++
      (ofLine? (first + above.length) line).toList ++
        ofLines (first + above.length + 1) below := by
  rw [ofLines_append, ofLines_cons, List.append_assoc]

/-- **Extraction is line by line.** Of two texts, one below the other, the signatures are those of
the upper text and then those of the lower one, as much further down as the upper text has lines.
If one line of a text is replaced, the signatures above it and below it stay as they are, and in
between stands what the line declares, if anything. -/
theorem extract_append_and_replace :
    (∀ text more : String, extract (text ++ "\n" ++ more) = extract text ++
      (extract more).map fun s => { s with line := s.line + Text.countLines text }) ∧
    ∀ (text text' : String) (above below : List (List Char)) (line line' : List Char),
      Text.lines text = above ++ line :: below → Text.lines text' = above ++ line' :: below →
      ∃ earlier later : List Signature,
        extract text = earlier ++ (ofLine? (above.length + 1) line).toList ++ later ∧
        extract text' = earlier ++ (ofLine? (above.length + 1) line').toList ++ later ∧
        (∀ s ∈ earlier, s.line < above.length + 1) ∧ ∀ s ∈ later, above.length + 1 < s.line := by
  refine ⟨fun text more => ?_, fun text text' above below line line' htext htext' => ?_⟩
  · rw [extract, Text.lines_append, ofLines_append, ofLines_add]
    rfl
  · refine ⟨ofLines 1 above, ofLines (above.length + 1 + 1) below, ?_, ?_, ?_, ?_⟩
    · rw [extract, htext, ofLines_append_cons, Nat.add_comm 1]
    · rw [extract, htext', ofLines_append_cons, Nat.add_comm 1]
    · intro s hs
      have := (line_of_mem_ofLines hs).2
      omega
    · intro s hs
      have := (line_of_mem_ofLines hs).1
      omega

/-- A blank line between two functions becomes a function. -/
theorem extract_append_and_replace_blank_line :
    Text.lines "def f():\n\ndef g():" = ["def f():".toList] ++ [] :: ["def g():".toList] ∧
      Text.lines "def f():\ndef h():\ndef g():" =
        ["def f():".toList] ++ "def h():".toList :: ["def g():".toList] ∧
      ∃ earlier later : List Signature,
        extract "def f():\n\ndef g():" = earlier ++ (ofLine? 2 []).toList ++ later ∧
        extract "def f():\ndef h():\ndef g():" =
          earlier ++ (ofLine? 2 "def h():".toList).toList ++ later ∧
        (∀ s ∈ earlier, s.line < 2) ∧ ∀ s ∈ later, 2 < s.line := by
  have hblank : Text.lines "def f():\n\ndef g():" =
      ["def f():".toList] ++ [] :: ["def g():".toList] := by decide
  have hfunction : Text.lines "def f():\ndef h():\ndef g():" =
      ["def f():".toList] ++ "def h():".toList :: ["def g():".toList] := by decide
  exact ⟨hblank, hfunction, extract_append_and_replace.2 _ _ _ _ _ _ hblank hfunction⟩

end Signature

end Relocation
