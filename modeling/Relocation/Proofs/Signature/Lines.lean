import Relocation.Proofs.Signature.Scan

/-!
# Signatures and their lines

What a text declares is found line by line. Every signature stands on a line of its own, carries
that line trimmed, and is named by a whole word of it; and nothing that trimming removes from a
line has a say in this.

* `declaredAt` — where the name stands that a line declares,
* `isRun_of_declaredAt` — **a declared name is a whole word**,
* `declaredAt_frame` — white space around a line moves the place and nothing else,
* `Signature.extract_inPlace` — **signatures are in place**: numbers ascend, and a line has one
  exactly if its trimmed form declares something,
* `Signature.extract_eq_of_trim_and_extract_declarator` — **only the trimmed lines count**, and a
  declarator declares what its line does.
-/

namespace Relocation

open Pattern

/-! ## Names are whole words -/

variable {line : List Char}

theorem Style.isRun_of_search {style : Style} {hit : Hit}
    (h : style.pattern.search line = some hit) :
    ∃ before name after, IsRun line before name after ∧
      hit.captured = some ⟨before.length, (before ++ name).length⟩ := by
  by_cases hstyle : style = braceOrArrow
  · -- the pattern may start with the name, and takes the leftmost place for it
    subst hstyle
    obtain ⟨before, name, after, hcall, hcaptured⟩ :=
      isFirstCall_of_search findsCalls_braceOrArrow h
    exact ⟨before, name, after, hcall.isRun, hcaptured⟩
  · obtain ⟨hinside, hreads, -⟩ := reads_of_search style.isFree_pattern style.isSteady_pattern h
    obtain ⟨u, v, hline, hstart⟩ := hinside.exists_append
    obtain ⟨x, n, g, r, htext, hx, hne, hword, hg, hcaptured⟩ := exists_name_of_reads hreads v
    have hlead : style.pattern.lead.shuts .word false = true := by
      cases style with
      | braceOrArrow => exact absurd rfl hstyle
      | _ => decide
    have hsign : CharSet.word.contains style.sign = false := by
      cases style <;> decide
    refine ⟨u ++ x, n, g ++ style.sign :: r, ⟨?_, hne, hword, ?_, ?_⟩, ?_⟩
    · rw [hline, List.append_assoc, htext]
      simp
    · rcases endsOutside_of_shuts hlead hx with ⟨hfalse, -⟩ | hends
      · cases hfalse
      · exact (hends.append u).contains_getLast
    · exact contains_head_blank_append hg hsign
    · rw [hcaptured, ← hstart]
      simp

/-- The place of the name that a line declares, if it declares one. -/
def declaredAt (line : List Char) : Option Span :=
  Style.all.findSome? fun style => (style.pattern.search line).bind Hit.captured

theorem declaredName_eq (line : List Char) :
    declaredName line = (declaredAt line).map fun place => place.slice line := by
  rw [declaredName, firstName, List.findSome?_map, declaredAt, List.map_findSome?]
  congr 1
  funext style
  rw [Function.comp_apply, Function.comp_apply, Option.map_bind]
  rfl

theorem exists_search_of_declaredAt {place : Span} (h : declaredAt line = some place) :
    ∃ style : Style, ∃ hit, style.pattern.search line = some hit ∧ hit.captured = some place := by
  obtain ⟨style, -, hstyle⟩ := List.exists_of_findSome?_eq_some h
  obtain ⟨hit, hhit, hcaptured⟩ := Option.bind_eq_some_iff.mp hstyle
  exact ⟨style, hit, hhit, hcaptured⟩

/-- **A declared name is a whole word** of its line. -/
theorem isRun_of_declaredAt {place : Span} (h : declaredAt line = some place) :
    ∃ before name after, IsRun line before name after ∧
      place = ⟨before.length, (before ++ name).length⟩ := by
  obtain ⟨style, hit, hhit, hcaptured⟩ := exists_search_of_declaredAt h
  obtain ⟨before, name, after, hrun, hplace⟩ := Style.isRun_of_search hhit
  exact ⟨before, name, after, hrun, Option.some.inj (hcaptured.symm.trans hplace)⟩

/-- A line declares something exactly if some style matches it. -/
theorem isSome_declaredAt_iff :
    (declaredAt line).isSome = true ↔
      ∃ style : Style, (style.pattern.search line).isSome = true := by
  constructor
  · intro h
    obtain ⟨place, hplace⟩ := Option.isSome_iff_exists.mp h
    obtain ⟨style, hit, hhit, -⟩ := exists_search_of_declaredAt hplace
    exact ⟨style, by rw [hhit, Option.isSome_some]⟩
  · rintro ⟨style, h⟩
    obtain ⟨hit, hhit⟩ := Option.isSome_iff_exists.mp h
    obtain ⟨place, hplace⟩ := Style.exists_captured_of_search hhit
    rw [declaredAt, List.findSome?_isSome_iff]
    exact ⟨style, Style.mem_all style, by rw [hhit, Option.bind_some, hplace, Option.isSome_some]⟩

/-- Characters of the edges around a line move the place of its name along. -/
theorem declaredAt_frame {lead body trail : List Char}
    (hlead : ∀ a ∈ lead, CharSet.edge.contains a = true)
    (htrail : ∀ a ∈ trail, CharSet.edge.contains a = true)
    (hbody : ∀ a w, body = a :: w → CharSet.edge.contains a = false) :
    declaredAt (lead ++ body ++ trail) = (declaredAt body).map (Span.shift lead.length) := by
  rw [declaredAt, declaredAt, List.map_findSome?]
  congr 1
  funext style
  have hframe := style.map_captured_search_frame hlead htrail hbody
  have hjoin : ∀ found : Option Hit,
      found.bind Hit.captured = (found.map Hit.captured).bind id := by
    intro found
    cases found <;> rfl
  rw [hjoin, hframe, Function.comp_apply]
  cases style.pattern.search body <;> rfl

/-- The name that a line declares, found in its trimmed form as well. -/
theorem exists_isRun_trim {place : Span} (h : declaredAt line = some place) :
    ∃ lead before name after trail, line = lead ++ Text.trim .edge line ++ trail ∧
      (∀ a ∈ lead, CharSet.edge.contains a = true) ∧
      (∀ a ∈ trail, CharSet.edge.contains a = true) ∧
      IsRun (Text.trim .edge line) before name after ∧
      place = ⟨(lead ++ before).length, (lead ++ before ++ name).length⟩ ∧
      place.slice line = name := by
  obtain ⟨lead, trail, hline, hlead, htrail⟩ := Text.exists_trim .edge line
  have hbody : ∀ a w, Text.trim .edge line = a :: w → CharSet.edge.contains a = false :=
    fun _ _ => Text.contains_head_trim
  have hframe := declaredAt_frame hlead htrail hbody
  rw [← hline, h] at hframe
  obtain ⟨place, hplace, rfl⟩ := Option.map_eq_some_iff.mp hframe.symm
  obtain ⟨before, name, after, hrun, rfl⟩ := isRun_of_declaredAt hplace
  have hshift : Span.shift lead.length ⟨before.length, (before ++ name).length⟩ =
      ⟨(lead ++ before).length, (lead ++ before).length + name.length⟩ := by
    simp only [Span.shift, List.length_append, Span.mk.injEq]
    omega
  refine ⟨lead, before, name, after, trail, hline, hlead, htrail, hrun, ?_, ?_⟩
  · rw [hshift, ← List.length_append]
  · have hsplit : line = lead ++ before ++ name ++ (after ++ trail) := by
      rw [hline, hrun.line_eq]
      simp
    rw [hshift, hsplit]
    exact Span.slice_between (lead ++ before) name (after ++ trail)

/-! ## Lines with signatures -/

namespace Signature

open Text (trim)

/-- Whether a trimmed line declares something: it is neither blank nor a comment, and some style
matches it. -/
structure Declares (trimmed : List Char) : Prop where
  ne_nil : trimmed ≠ []
  not_comment : ∀ marker ∈ commentMarkers, ¬marker.toList <+: trimmed
  matched : ∃ style : Style, (style.pattern.search trimmed).isSome = true

/-- A signature in place: it bears the number of its line, carries the line trimmed, and is named
by a whole word of that, at the very place where the name of the line was found. -/
structure InPlace (s : Signature) (number : Nat) (line : List Char) : Prop where
  line_eq : s.line = number
  declarator_eq : s.declarator.toList = trim .edge line
  name : ∃ lead before after trail, line = lead ++ s.declarator.toList ++ trail ∧
    (∀ a ∈ lead, CharSet.edge.contains a = true) ∧
    (∀ a ∈ trail, CharSet.edge.contains a = true) ∧
    IsRun s.declarator.toList before s.name.toList after ∧
    declaredAt line = some ⟨(lead ++ before).length, (lead ++ before ++ s.name.toList).length⟩

theorem isSkipped_eq_false_iff {trimmed : List Char} :
    isSkipped trimmed = false ↔
      trimmed ≠ [] ∧ ∀ marker ∈ commentMarkers, ¬marker.toList <+: trimmed := by
  simp only [isSkipped, Bool.or_eq_false_iff, List.any_eq_false, List.isEmpty_eq_false_iff,
    List.isPrefixOf_iff_prefix]

theorem ofLine?_eq_some_iff {number : Nat} {line : List Char} {s : Signature} :
    ofLine? number line = some s ↔ isSkipped (trim .edge line) = false ∧
      ∃ name, declaredName line = some name ∧
        s = ⟨.ofList name, .ofList (trim .edge line), number⟩ := by
  rw [ofLine?]
  cases isSkipped (trim .edge line) with
  | true => simp
  | false => simp [eq_comm]

theorem isSome_ofLine?_iff {number : Nat} {line : List Char} :
    (ofLine? number line).isSome = true ↔ Declares (trim .edge line) := by
  have hname : (declaredName line).isSome = true ↔
      ∃ style : Style, (style.pattern.search (trim .edge line)).isSome = true := by
    rw [← isSome_declaredAt_iff, ← declaredName_trim, declaredName_eq, Option.isSome_map]
  constructor
  · intro h
    obtain ⟨s, hs⟩ := Option.isSome_iff_exists.mp h
    obtain ⟨hskip, name, hdeclared, -⟩ := ofLine?_eq_some_iff.mp hs
    obtain ⟨hne, hcomment⟩ := isSkipped_eq_false_iff.mp hskip
    exact ⟨hne, hcomment, hname.mp (by rw [hdeclared, Option.isSome_some])⟩
  · rintro ⟨hne, hcomment, hmatched⟩
    obtain ⟨name, hdeclared⟩ := Option.isSome_iff_exists.mp (hname.mpr hmatched)
    exact Option.isSome_iff_exists.mpr ⟨_, ofLine?_eq_some_iff.mpr
      ⟨isSkipped_eq_false_iff.mpr ⟨hne, hcomment⟩, name, hdeclared, rfl⟩⟩

theorem inPlace_of_ofLine? {number : Nat} {line : List Char} {s : Signature}
    (h : ofLine? number line = some s) : InPlace s number line := by
  obtain ⟨-, name, hname, rfl⟩ := ofLine?_eq_some_iff.mp h
  rw [declaredName_eq] at hname
  obtain ⟨place, hplace, rfl⟩ := Option.map_eq_some_iff.mp hname
  obtain ⟨lead, before, name, after, trail, hline, hlead, htrail, hrun, rfl, hslice⟩ :=
    exists_isRun_trim hplace
  refine ⟨rfl, String.toList_ofList, lead, before, after, trail, ?_, hlead, htrail, ?_, ?_⟩
  · rw [String.toList_ofList]
    exact hline
  · rw [String.toList_ofList, String.toList_ofList, hslice]
    exact hrun
  · rw [String.toList_ofList, hslice]
    exact hplace

/-! ## All lines of a text -/

theorem mem_ofLines {first : Nat} {lines : List (List Char)} {s : Signature} :
    s ∈ ofLines first lines ↔
      ∃ i line, lines[i]? = some line ∧ ofLine? (first + i) line = some s := by
  rw [ofLines, List.mem_filterMap]
  constructor
  · rintro ⟨⟨line, number⟩, hmem, hs⟩
    obtain ⟨hle, hline⟩ := List.mk_mem_zipIdx_iff_le_and_getElem?_sub.mp hmem
    exact ⟨number - first, line, hline, by rwa [Nat.add_sub_cancel' hle]⟩
  · rintro ⟨i, line, hline, hs⟩
    refine ⟨(line, first + i), List.mk_mem_zipIdx_iff_le_and_getElem?_sub.mpr ?_, hs⟩
    exact ⟨Nat.le_add_right first i, by rwa [Nat.add_sub_cancel_left]⟩

theorem mem_extract {text : String} {s : Signature} :
    s ∈ extract text ↔
      ∃ i line, (Text.lines text)[i]? = some line ∧ ofLine? (1 + i) line = some s :=
  mem_ofLines

/-- The signatures of lines bear the numbers of these lines. -/
theorem line_of_mem_ofLines {first : Nat} {lines : List (List Char)} {s : Signature}
    (h : s ∈ ofLines first lines) : first ≤ s.line ∧ s.line < first + lines.length := by
  obtain ⟨i, line, hline, hs⟩ := mem_ofLines.mp h
  obtain ⟨hlt, -⟩ := List.getElem?_eq_some_iff.mp hline
  rw [(inPlace_of_ofLine? hs).line_eq]
  omega

/-- The numbers of the signatures ascend. -/
theorem pairwise_line_ofLines (first : Nat) (lines : List (List Char)) :
    ((ofLines first lines).map Signature.line).Pairwise (· < ·) := by
  induction lines generalizing first with
  | nil => exact List.Pairwise.nil
  | cons line lines ih =>
    rw [ofLines_cons, List.map_append, List.pairwise_append]
    refine ⟨?_, ih (first + 1), ?_⟩
    · cases ofLine? first line <;> simp
    · -- the line itself comes before all that follow
      simp only [List.mem_map, Option.mem_toList]
      rintro _ ⟨s, hs, rfl⟩ _ ⟨t, ht, rfl⟩
      have := (line_of_mem_ofLines ht).1
      rw [(inPlace_of_ofLine? hs).line_eq]
      omega

/-- **Signatures are in place.** Their numbers ascend and are numbers of lines. A line has a
signature exactly if its trimmed form declares something, and that signature is in place. -/
theorem extract_inPlace (text : String) :
    ((extract text).map Signature.line).Pairwise (· < ·) ∧
    (∀ s ∈ extract text, 1 ≤ s.line ∧ s.line ≤ Text.countLines text) ∧
    (∀ k : Nat, (∃ s ∈ extract text, s.line = k) ↔
      ∃ line, 1 ≤ k ∧ (Text.lines text)[k - 1]? = some line ∧ Declares (trim .edge line)) ∧
    ∀ s ∈ extract text, ∃ number line, 1 ≤ number ∧
      (Text.lines text)[number - 1]? = some line ∧ InPlace s number line := by
  have hplaced : ∀ s ∈ extract text, ∃ number line, 1 ≤ number ∧
      (Text.lines text)[number - 1]? = some line ∧ ofLine? number line = some s := by
    intro s hs
    obtain ⟨i, line, hline, hs⟩ := mem_extract.mp hs
    exact ⟨1 + i, line, by omega, by rwa [Nat.add_sub_cancel_left], hs⟩
  refine ⟨pairwise_line_ofLines 1 _, fun s hs => ?_, fun k => ?_, fun s hs => ?_⟩
  · obtain ⟨number, line, hpos, hline, hs⟩ := hplaced s hs
    obtain ⟨hlt, -⟩ := List.getElem?_eq_some_iff.mp hline
    rw [(inPlace_of_ofLine? hs).line_eq, Text.countLines]
    omega
  · constructor
    · rintro ⟨s, hs, hk⟩
      obtain ⟨number, line, hpos, hline, hs⟩ := hplaced s hs
      rw [(inPlace_of_ofLine? hs).line_eq, Int.natCast_inj] at hk
      subst hk
      exact ⟨line, hpos, hline, isSome_ofLine?_iff.mp (by rw [hs, Option.isSome_some])⟩
    · rintro ⟨line, hpos, hline, hdeclares⟩
      obtain ⟨s, hs⟩ := Option.isSome_iff_exists.mp (isSome_ofLine?_iff.mpr hdeclares)
      refine ⟨s, mem_extract.mpr ⟨k - 1, line, hline, ?_⟩, (inPlace_of_ofLine? hs).line_eq⟩
      rwa [Nat.add_sub_cancel' hpos]
  · obtain ⟨number, line, hpos, hline, hs⟩ := hplaced s hs
    exact ⟨number, line, hpos, hline, inPlace_of_ofLine? hs⟩

/-- A declaration on the second line of a text, between a blank line and a comment. -/
theorem extract_inPlace_second_line :
    (⟨"f", "public void f() \x7b", 2⟩ : Signature) ∈
        extract "\n  public void f() \x7b\n// void g() \x7b" ∧
      (∃ line, 1 ≤ 2 ∧
        (Text.lines "\n  public void f() \x7b\n// void g() \x7b")[2 - 1]? = some line ∧
        Declares (trim .edge line)) ∧
      ∃ number line, 1 ≤ number ∧
        (Text.lines "\n  public void f() \x7b\n// void g() \x7b")[number - 1]? = some line ∧
        InPlace ⟨"f", "public void f() \x7b", 2⟩ number line := by
  have hmem : (⟨"f", "public void f() \x7b", 2⟩ : Signature) ∈
      extract "\n  public void f() \x7b\n// void g() \x7b" := by decide +kernel
  obtain ⟨-, -, hline, hplace⟩ := extract_inPlace "\n  public void f() \x7b\n// void g() \x7b"
  exact ⟨hmem, (hline 2).mp ⟨_, hmem, rfl⟩, hplace _ hmem⟩

/-! ## Only the trimmed lines count -/

theorem ofLines_congr {lines lines' : List (List Char)} (first : Nat)
    (h : List.Forall₂ (fun line line' => trim .edge line = trim .edge line') lines lines') :
    ofLines first lines = ofLines first lines' := by
  induction h generalizing first with
  | nil => rfl
  | cons hline _ ih => rw [ofLines_cons, ofLines_cons, ofLine?_congr first hline, ih]

theorem notMem_of_mem_splitOn {c : Char} {text piece : List Char} (h : piece ∈ text.splitOn c) :
    c ∉ piece := by
  induction text generalizing piece with
  | nil =>
    rw [List.splitOn_nil, List.mem_singleton] at h
    simp [h]
  | cons a text ih =>
    obtain ⟨first, pieces, hpieces⟩ := List.exists_cons_of_ne_nil (List.splitOn_ne_nil c text)
    rw [List.splitOn_cons_eq_if_modifyHead] at h
    split at h
    · rcases List.mem_cons.mp h with rfl | h
      · simp
      · exact ih h
    · next hne =>
      rw [hpieces, List.modifyHead_cons] at h
      rcases List.mem_cons.mp h with rfl | h
      · rw [List.mem_cons, not_or]
        exact ⟨fun heq => hne (by simp [heq]), ih (by rw [hpieces]; exact List.mem_cons_self)⟩
      · exact ih (by rw [hpieces]; exact List.mem_cons_of_mem first h)

/-- What a text of one line declares. -/
theorem extract_ofList {line : List Char} (h : '\n' ∉ line) :
    extract (.ofList line) = (ofLine? 1 line).toList := by
  have hlines : Text.lines (.ofList line) = [line] := by
    rw [Text.lines, String.toList_ofList]
    exact List.splitOn_eq_singleton h
  rw [extract, hlines, ofLines_cons]
  exact List.append_nil _

/-- A declarator declares what its line does. -/
theorem extract_declarator {text : String} {s : Signature} (h : s ∈ extract text) :
    extract s.declarator = [{ s with line := 1 }] := by
  obtain ⟨i, line, hline, hs⟩ := mem_extract.mp h
  obtain ⟨hskip, name, hname, rfl⟩ := ofLine?_eq_some_iff.mp hs
  obtain ⟨lead, trail, htrim, -, -⟩ := Text.exists_trim .edge line
  have hnewline : '\n' ∉ trim .edge line := by
    intro hmem
    refine notMem_of_mem_splitOn (List.mem_of_getElem? hline) ?_
    rw [htrim]
    simp [hmem]
  have hdeclarator : ofLine? 1 (trim .edge line) =
      some ⟨.ofList name, .ofList (trim .edge line), (1 : Nat)⟩ := by
    rw [ofLine?_congr 1 (Text.trim_trim .edge line)]
    exact ofLine?_eq_some_iff.mpr ⟨hskip, name, hname, rfl⟩
  rw [extract_ofList hnewline, hdeclarator]
  rfl

/-- **Only the trimmed lines count.** Texts whose lines are the same when trimmed have the same
signatures, and the declarator of a signature declares that signature by itself. -/
theorem extract_eq_of_trim_and_extract_declarator :
    (∀ text text' : String,
      List.Forall₂ (fun line line' => trim .edge line = trim .edge line')
        (Text.lines text) (Text.lines text') → extract text = extract text') ∧
    ∀ text, ∀ s ∈ extract text, extract s.declarator = [{ s with line := 1 }] :=
  ⟨fun _ _ h => ofLines_congr 1 h, fun _ _ h => extract_declarator h⟩

/-- Two texts of two lines that differ in white space and in a byte order mark. -/
theorem extract_eq_of_trim_indented :
    extract "  int f(x) const \x7b \n" = extract "\ufeffint f(x) const \x7b\n\t" ∧
      (⟨"f", "int f(x) const \x7b", 1⟩ : Signature) ∈ extract "  int f(x) const \x7b \n" ∧
      extract "int f(x) const \x7b" = [⟨"f", "int f(x) const \x7b", 1⟩] := by
  have hlines : List.Forall₂ (fun line line' => trim .edge line = trim .edge line')
      (Text.lines "  int f(x) const \x7b \n") (Text.lines "\ufeffint f(x) const \x7b\n\t") :=
    .cons (by decide) (.cons (by decide) .nil)
  have hmem : (⟨"f", "int f(x) const \x7b", 1⟩ : Signature) ∈
      extract "  int f(x) const \x7b \n" := by decide +kernel
  obtain ⟨htrim, hdeclarator⟩ := extract_eq_of_trim_and_extract_declarator
  exact ⟨htrim _ _ hlines, hmem, hdeclarator _ _ hmem⟩

end Signature

end Relocation
