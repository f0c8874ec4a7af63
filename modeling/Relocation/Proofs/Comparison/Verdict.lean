import Relocation.Comparison
import Relocation.Proofs.FileMap

/-!
# The verdict of a comparison

What `Comparison.ofTexts` decides, in terms of the names that texts declare.

* `Comparison.mem_errors` — an error is the message of a name of the old text that neither the new
  text nor the last file of some base name declares,
* `Comparison.passed_iff_and_lostMessage_mem_iff` — **the exact verdict**, files of the same base
  name included,
* `Comparison.errors_eq_nil_of_lines_kept` — **no false alarm**: moving lines about, whatever their
  order and their indentation, loses nothing,
* `Comparison.passed_append` — **two refactors in a row**: if both have passed, the whole has.
-/

namespace Relocation.Comparison

open Signature (declaredNames nameOn)

/-! ## Names -/

theorem declares_eq_true_iff {found : List Signature} {name : String} :
    declares found name = true ↔ ∃ s ∈ found, s.name = name := by
  simp [declares]

theorem declares_extract_iff {text : String} {name : String} :
    declares (Signature.extract text) name = true ↔ name ∈ declaredNames text := by
  rw [declares_eq_true_iff, declaredNames, List.mem_map]

theorem declares_signatures_iff {files : List SourceFile} {name : String} :
    declares (FileMap.ofFiles files).signatures name = true ↔
      ∃ f : SourceFile, f.IsLast files ∧ name ∈ declaredNames f.content := by
  rw [declares_eq_true_iff]
  constructor
  · rintro ⟨s, hs, rfl⟩
    obtain ⟨f, hf, hs⟩ := FileMap.mem_signatures_ofFiles.mp hs
    exact ⟨f, hf, List.mem_map.mpr ⟨s, hs, rfl⟩⟩
  · rintro ⟨f, hf, hname⟩
    obtain ⟨s, hs, rfl⟩ := List.mem_map.mp hname
    exact ⟨s, FileMap.mem_signatures_ofFiles.mpr ⟨f, hf, hs⟩, rfl⟩

/-- The name of a lost function can be read off its message. -/
theorem lostMessage_inj {name name' : String} (h : lostMessage name = lostMessage name') :
    name = name' := by
  have hlist := congrArg String.toList h
  simp only [lostMessage, toString, String.toList_append] at hlist
  exact String.toList_inj.mp (List.append_cancel_left (List.append_cancel_right hlist))

/-! ## Lost functions -/

/-- A removed function is lost when no new file declares its name. -/
theorem lost_eq (c : Comparison) :
    c.lost = c.removed.filter fun s => !declares c.newFiles.signatures s.name := by
  rw [lost]
  refine List.filter_congr fun s hs => ?_
  congr 1
  rw [Bool.eq_iff_iff, declares_eq_true_iff]
  constructor
  · rintro ⟨r, hr, hname⟩
    have := (List.mem_filter.mp hr).2
    rwa [hname] at this
  · intro hplaced
    exact ⟨s, List.mem_filter.mpr ⟨hs, hplaced⟩, rfl⟩

/-- The errors are the messages of the lost functions. -/
theorem errors_ofTexts (before after : String) (files : List SourceFile) :
    (ofTexts before after files).errors =
      (ofTexts before after files).lost.map fun s => lostMessage s.name := by
  rw [lost_eq]
  rfl

theorem mem_errors {before after : String} {files : List SourceFile} {message : String} :
    message ∈ (ofTexts before after files).errors ↔
      ∃ name ∈ declaredNames before, name ∉ declaredNames after ∧
        (¬∃ f : SourceFile, f.IsLast files ∧ name ∈ declaredNames f.content) ∧
        lostMessage name = message := by
  have hafter : ∀ name, (!declares (Signature.extract after) name) = true ↔
      name ∉ declaredNames after := by
    intro name
    rw [← declares_extract_iff, Bool.not_eq_true', Bool.not_eq_true]
  have hplaced : ∀ name, (!declares (FileMap.ofFiles files).signatures name) = true ↔
      ¬∃ f : SourceFile, f.IsLast files ∧ name ∈ declaredNames f.content := by
    intro name
    rw [← declares_signatures_iff, Bool.not_eq_true', Bool.not_eq_true]
  simp only [ofTexts, List.mem_map, List.mem_filter, hafter, hplaced]
  constructor
  · rintro ⟨s, ⟨⟨hs, hgone⟩, hnowhere⟩, rfl⟩
    exact ⟨s.name, List.mem_map.mpr ⟨s, hs, rfl⟩, hgone, hnowhere, rfl⟩
  · rintro ⟨name, hname, hgone, hnowhere, rfl⟩
    obtain ⟨s, hs, rfl⟩ := List.mem_map.mp hname
    exact ⟨s, ⟨⟨hs, hgone⟩, hnowhere⟩, rfl⟩

theorem passed_eq_true_iff (c : Comparison) : c.passed = true ↔ c.errors = [] := by
  rw [passed, List.isEmpty_iff]

/-! ## The exact verdict -/

/-- **The exact verdict.** A comparison has passed when every name of the old text is declared by
the new text or by a new file that is the last of its base name. A name of the old text has an
error when it is gone from the new text and every new file that declares it is followed by one of
the same base name, and there are no other errors. -/
theorem passed_iff_and_lostMessage_mem_iff (before after : String) (files : List SourceFile) :
    ((ofTexts before after files).passed = true ↔
      ∀ name ∈ declaredNames before, name ∈ declaredNames after ∨
        ∃ f : SourceFile, f.IsLast files ∧ name ∈ declaredNames f.content) ∧
    (∀ name ∈ declaredNames before,
      (lostMessage name ∈ (ofTexts before after files).errors ↔
        name ∉ declaredNames after ∧
          ∀ earlier f later, files = earlier ++ f :: later → name ∈ declaredNames f.content →
            ∃ g ∈ later, basename g.path = basename f.path)) ∧
    ∀ message ∈ (ofTexts before after files).errors,
      ∃ name ∈ declaredNames before, message = lostMessage name := by
  refine ⟨?_, fun name hname => ?_, fun message hmessage => ?_⟩
  · rw [passed_eq_true_iff, List.eq_nil_iff_forall_not_mem]
    constructor
    · intro hnone name hname
      by_contra hlost
      obtain ⟨hgone, hnowhere⟩ := not_or.mp hlost
      exact hnone (lostMessage name) (mem_errors.mpr ⟨name, hname, hgone, hnowhere, rfl⟩)
    · intro hall message hmessage
      obtain ⟨name, hname, hgone, hnowhere, -⟩ := mem_errors.mp hmessage
      rcases hall name hname with h | h
      · exact hgone h
      · exact hnowhere h
  · constructor
    · intro hmessage
      obtain ⟨name', -, hgone, hnowhere, heq⟩ := mem_errors.mp hmessage
      obtain rfl := lostMessage_inj heq
      refine ⟨hgone, fun earlier f later hfiles hf => ?_⟩
      by_contra hlater
      exact hnowhere ⟨f, ⟨earlier, later, hfiles, fun g hg heq => hlater ⟨g, hg, heq⟩⟩, hf⟩
    · rintro ⟨hgone, hfollowed⟩
      refine mem_errors.mpr ⟨name, hname, hgone, ?_, rfl⟩
      rintro ⟨f, ⟨earlier, later, hfiles, hlast⟩, hf⟩
      obtain ⟨g, hg, heq⟩ := hfollowed earlier f later hfiles hf
      exact hlast g hg heq
  · obtain ⟨name, hname, -, -, rfl⟩ := mem_errors.mp hmessage
    exact ⟨name, hname, rfl⟩

/-- Of two new files of one base name only the later one counts: here `f` is in the earlier one. -/
theorem lostMessage_mem_errors_of_namesake :
    "f" ∈ declaredNames "def f():\ndef g():" ∧
      lostMessage "f" ∈ (ofTexts "def f():\ndef g():" ""
        [⟨"a/x.py", "def f():"⟩, ⟨"b\\x.py", "def g():"⟩]).errors := by
  have hf : "f" ∈ declaredNames "def f():\ndef g():" := by decide
  refine ⟨hf, ((passed_iff_and_lostMessage_mem_iff _ _ _).2.1 "f" hf).mpr ⟨by decide, ?_⟩⟩
  intro earlier f later hfiles hdeclared
  rcases earlier with _ | ⟨first, _ | ⟨second, rest⟩⟩
  · obtain ⟨rfl, rfl⟩ := List.cons.inj hfiles
    exact ⟨_, List.mem_cons_self, by decide⟩
  · obtain ⟨-, hfiles⟩ := List.cons.inj hfiles
    obtain ⟨rfl, -⟩ := List.cons.inj hfiles
    exact absurd hdeclared (by decide)
  · simp at hfiles

/-! ## No false alarm -/

/-- **No false alarm.** If every line of the old text stands in the new text or in some new file,
apart from the white space around it, and no two new files have the same base name, then there are
no errors and nothing is lost. -/
theorem errors_eq_nil_of_lines_kept {before after : String} {files : List SourceFile}
    (hnames : (files.map fun f => basename f.path).Nodup)
    (hkept : ∀ line ∈ Text.lines before, ∃ text ∈ after :: files.map SourceFile.content,
      ∃ line' ∈ Text.lines text, Text.trim .edge line = Text.trim .edge line') :
    (ofTexts before after files).errors = [] ∧ (ofTexts before after files).passed = true ∧
      (ofTexts before after files).lost = [] := by
  have herrors : (ofTexts before after files).errors = [] := by
    rw [List.eq_nil_iff_forall_not_mem]
    intro message hmessage
    obtain ⟨name, hname, hgone, hnowhere, -⟩ := mem_errors.mp hmessage
    rw [Signature.declaredNames_eq, List.mem_filterMap] at hname
    obtain ⟨line, hline, hon⟩ := hname
    obtain ⟨text, htext, line', hline', htrim⟩ := hkept line hline
    have hdeclared : name ∈ declaredNames text := by
      rw [Signature.declaredNames_eq, List.mem_filterMap]
      exact ⟨line', hline', by rw [← Signature.nameOn_congr htrim, hon]⟩
    rcases List.mem_cons.mp htext with rfl | htext
    · exact hgone hdeclared
    · obtain ⟨f, hf, rfl⟩ := List.mem_map.mp htext
      exact hnowhere ⟨f, SourceFile.isLast_of_nodup hnames hf, hdeclared⟩
  refine ⟨herrors, (passed_eq_true_iff _).mpr herrors, ?_⟩
  rw [errors_ofTexts, List.map_eq_nil_iff] at herrors
  exact herrors

/-- A C function that moves with other white space around it, and a Python function that stays. -/
theorem errors_eq_nil_of_moved_function :
    declaredNames "\ufeffstatic int f(a) \x7b\n  def g(x):\n// n" = ["f", "g"] ∧
      (ofTexts "\ufeffstatic int f(a) \x7b\n  def g(x):\n// n" "// n  \n\tdef g(x):"
        [⟨"a/x.c", "\n \u00a0 static int f(a) \x7b\n\x7d"⟩, ⟨"b\\y.py", "# none"⟩]).errors = [] :=
  ⟨by decide, (errors_eq_nil_of_lines_kept (by decide) (by decide)).1⟩

/-! ## Refactors in a row -/

section Steps

variable {before middle after : String} {files files' : List SourceFile}

/-- An error of two refactors in a row, whose new files have different base names, is an error of
one of them: a name that is lost on the whole way is gone from the text between or it is not. -/
theorem mem_errors_of_mem_append {message : String}
    (hapart : ∀ f ∈ files, ∀ g ∈ files', basename g.path ≠ basename f.path)
    (hmessage : message ∈ (ofTexts before after (files ++ files')).errors) :
    message ∈ (ofTexts before middle files).errors ∨
      message ∈ (ofTexts middle after files').errors := by
  obtain ⟨name, hname, hgone, hnowhere, hlost⟩ := mem_errors.mp hmessage
  by_cases hmiddle : name ∈ declaredNames middle
  · refine .inr (mem_errors.mpr ⟨name, hmiddle, hgone, ?_, hlost⟩)
    rintro ⟨f, hlast, hdeclared⟩
    exact hnowhere ⟨f, SourceFile.isLast_append_iff.mpr (.inl hlast), hdeclared⟩
  · refine .inl (mem_errors.mpr ⟨name, hname, hmiddle, ?_, hlost⟩)
    rintro ⟨f, hlast, hdeclared⟩
    have hkept := hapart f hlast.mem
    exact hnowhere ⟨f, SourceFile.isLast_append_iff.mpr (.inr ⟨hlast, hkept⟩), hdeclared⟩

/-- **Two refactors in a row.** If both have passed, the refactor from the first text to the last
one has passed with the new files of both, provided that no file of the one has the base name of a
file of the other. -/
theorem passed_append (hapart : ∀ f ∈ files, ∀ g ∈ files', basename g.path ≠ basename f.path)
    (hfirst : (ofTexts before middle files).passed = true)
    (hsecond : (ofTexts middle after files').passed = true) :
    (ofTexts before after (files ++ files')).passed = true := by
  rw [passed_eq_true_iff, List.eq_nil_iff_forall_not_mem] at *
  intro message hmessage
  rcases mem_errors_of_mem_append hapart hmessage with h | h
  · exact hfirst message h
  · exact hsecond message h

/-- One function leaves in each step, and the first step has two files of one base name. -/
theorem passed_append_of_two_moves :
    (ofTexts "def f():\ndef g():" "def g():"
        [⟨"a/x.py", "def g():"⟩, ⟨"b\\x.py", "def f():"⟩]).passed = true ∧
      (ofTexts "def g():" "" [⟨"y.py", "def g():"⟩]).passed = true ∧
      (ofTexts "def f():\ndef g():" ""
        ([⟨"a/x.py", "def g():"⟩, ⟨"b\\x.py", "def f():"⟩] ++ [⟨"y.py", "def g():"⟩])).passed =
          true := by
  have hfirst : (ofTexts "def f():\ndef g():" "def g():"
      [⟨"a/x.py", "def g():"⟩, ⟨"b\\x.py", "def f():"⟩]).passed = true := by decide
  have hsecond : (ofTexts "def g():" "" [⟨"y.py", "def g():"⟩]).passed = true := by decide
  exact ⟨hfirst, hsecond, passed_append (by decide) hfirst hsecond⟩

end Steps

end Relocation.Comparison
