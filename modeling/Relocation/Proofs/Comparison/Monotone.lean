import Relocation.Proofs.Comparison.Verdict
import Relocation.Proofs.Signature.Lines

/-!
# Changes that lose nothing

A comparison asks of every name of the old text whether it can be found. More lines in the new text
and one more new file give it more to find, fewer lines in the old text give it less to look for. So
none of these changes brings about an error, and the errors that stay keep their order.

* `Comparison.isKept`, `Comparison.errors_eq_map_filter` — the errors are those of the names of the
  old text that are not kept, one for each time that a name is declared,
* `Comparison.NoWorse` — a comparison that has no errors but those of another one,
* `Comparison.noWorse_of_declaredNames` — fewer names to look for and more that are kept,
* `Text.unlines`, `Signature.declaredNames_unlines` — what is left when lines are deleted,
* `Comparison.noWorse_of_changes` — **comparisons are monotone** in all three texts.
-/

namespace Relocation

/-! ## Fewer lines -/

/-- The text with given lines. -/
def Text.unlines (lines : List (List Char)) : String :=
  .ofList (['\n'].intercalate lines)

/-- Lines of a text that are put together again are lines of a text. -/
theorem Text.lines_unlines {text : String} {kept : List (List Char)}
    (hkept : kept.Sublist (lines text)) (hne : kept ≠ []) : lines (unlines kept) = kept := by
  rw [lines, unlines, String.toList_ofList]
  refine List.splitOn_intercalate '\n' (fun line hline => ?_) hne
  exact Signature.notMem_of_mem_splitOn (hkept.subset hline)

namespace Signature

/-- What is left of a text declares the names that were declared there. -/
theorem declaredNames_unlines {text : String} {kept : List (List Char)}
    (hkept : kept.Sublist (Text.lines text)) :
    (declaredNames (Text.unlines kept)).Sublist (declaredNames text) := by
  by_cases hne : kept = []
  · -- the text without lines still has one, which is empty
    subst hne
    exact List.nil_sublist _
  · rw [declaredNames_eq, declaredNames_eq, Text.lines_unlines hkept hne]
    exact hkept.filterMap nameOn

/-- A text with all lines of another one declares all its names. -/
theorem declaredNames_subset {text text' : String}
    (h : ∀ line ∈ Text.lines text, line ∈ Text.lines text') :
    declaredNames text ⊆ declaredNames text' := by
  rw [declaredNames_eq, declaredNames_eq]
  exact List.filterMap_subset nameOn h

end Signature

/-! ## More files -/

/-- A file of a new name replaces none of the others. -/
theorem SourceFile.IsLast.insert {f g : SourceFile} {earlier later : List SourceFile}
    (h : g.IsLast (earlier ++ later))
    (hnew : ∀ k ∈ earlier ++ later, basename k.path ≠ basename f.path) :
    g.IsLast (earlier ++ f :: later) := by
  have hname : basename f.path ≠ basename g.path := (hnew g h.mem).symm
  rw [← List.singleton_append]
  rcases isLast_append_iff.mp h with hlater | ⟨hearlier, hnone⟩
  · exact isLast_append_iff.mpr (.inl (isLast_append_iff.mpr (.inl hlater)))
  · refine isLast_append_iff.mpr (.inr ⟨hearlier, ?_⟩)
    exact List.forall_mem_append.mpr ⟨by simpa using hname, hnone⟩

namespace Comparison

open Signature (declaredNames)

/-! ## Kept names -/

/-- Whether the new text or some new file that counts declares a name. -/
def isKept (after : String) (files : List SourceFile) (name : String) : Bool :=
  declares (Signature.extract after) name || declares (FileMap.ofFiles files).signatures name

theorem isKept_eq_true_iff {after : String} {files : List SourceFile} {name : String} :
    isKept after files name = true ↔ name ∈ declaredNames after ∨
      ∃ f : SourceFile, f.IsLast files ∧ name ∈ declaredNames f.content := by
  rw [isKept, Bool.or_eq_true, declares_extract_iff, declares_signatures_iff]

/-- The errors are those of the names that are not kept, in order and with repetitions. -/
theorem errors_eq_map_filter (before after : String) (files : List SourceFile) :
    (ofTexts before after files).errors =
      ((declaredNames before).filter fun name => !isKept after files name).map lostMessage := by
  rw [declaredNames, List.filter_map, List.map_map]
  simp only [ofTexts, List.filter_filter]
  congr 1
  refine List.filter_congr fun s _ => ?_
  rw [Function.comp_apply, isKept, Bool.not_or, Bool.and_comm]

/-! ## No new errors -/

/-- A comparison that has no errors but those of another one, and in the same order. -/
structure NoWorse (c' c : Comparison) : Prop where
  errors_sublist : c'.errors.Sublist c.errors
  passed : c.passed = true → c'.passed = true

theorem noWorse_of_errors_sublist {c' c : Comparison} (h : c'.errors.Sublist c.errors) :
    NoWorse c' c := by
  refine ⟨h, fun hpassed => ?_⟩
  rw [passed_eq_true_iff] at hpassed ⊢
  rw [hpassed] at h
  exact List.sublist_nil.mp h

variable {before before' after after' : String} {files files' : List SourceFile}

/-- With fewer names to look for and more of them kept, there are no new errors. -/
theorem noWorse_of_declaredNames
    (hbefore : (declaredNames before').Sublist (declaredNames before))
    (hkept : ∀ name, isKept after files name = true → isKept after' files' name = true) :
    NoWorse (ofTexts before' after' files') (ofTexts before after files) := by
  apply noWorse_of_errors_sublist
  rw [errors_eq_map_filter, errors_eq_map_filter]
  refine List.Sublist.map lostMessage ?_
  refine (List.monotone_filter_right _ fun name hlost => ?_).trans (hbefore.filter _)
  rw [Bool.not_eq_true', Bool.eq_false_iff] at hlost ⊢
  exact fun hname => hlost (hkept name hname)

/-- **Comparisons are monotone.** A new text that has all lines of another one, one more new file
of a base name of its own, wherever it comes, and lines that are deleted from the old text bring
about no error, so that a refactor that has passed still does. -/
theorem noWorse_of_changes (before after : String) (files : List SourceFile) :
    (∀ after', (∀ line ∈ Text.lines after, line ∈ Text.lines after') →
      NoWorse (ofTexts before after' files) (ofTexts before after files)) ∧
    (∀ earlier f later, files = earlier ++ later →
      (∀ g ∈ files, basename g.path ≠ basename f.path) →
      NoWorse (ofTexts before after (earlier ++ f :: later)) (ofTexts before after files)) ∧
    ∀ kept, kept.Sublist (Text.lines before) →
      NoWorse (ofTexts (Text.unlines kept) after files) (ofTexts before after files) := by
  refine ⟨fun after' hlines => ?_, ?_, fun kept hkept => ?_⟩
  · refine noWorse_of_declaredNames (.refl _) fun name hname => ?_
    rw [isKept_eq_true_iff] at hname ⊢
    exact hname.imp_left fun h => Signature.declaredNames_subset hlines h
  · rintro earlier f later rfl hnew
    refine noWorse_of_declaredNames (.refl _) fun name hname => ?_
    rw [isKept_eq_true_iff] at hname ⊢
    refine hname.imp_right ?_
    rintro ⟨g, hlast, hdeclared⟩
    exact ⟨g, hlast.insert hnew, hdeclared⟩
  · exact noWorse_of_declaredNames (Signature.declaredNames_unlines hkept) fun _ hname => hname

/-- Two functions of one name are lost. They turn up in the new text or in a file of a name of its
own, or one of them is deleted. -/
theorem noWorse_of_changes_of_overloads :
    NoWorse (ofTexts "def f():\ndef g():\ndef f(x):" "\ndef f(y):" [⟨"a/x.py", "def g():"⟩])
        (ofTexts "def f():\ndef g():\ndef f(x):" "" [⟨"a/x.py", "def g():"⟩]) ∧
      NoWorse (ofTexts "def f():\ndef g():\ndef f(x):" ""
          [⟨"b/y.py", "def f():"⟩, ⟨"a/x.py", "def g():"⟩])
        (ofTexts "def f():\ndef g():\ndef f(x):" "" [⟨"a/x.py", "def g():"⟩]) ∧
      NoWorse (ofTexts (Text.unlines ["def g():".toList, "def f(x):".toList]) ""
          [⟨"a/x.py", "def g():"⟩])
        (ofTexts "def f():\ndef g():\ndef f(x):" "" [⟨"a/x.py", "def g():"⟩]) := by
  obtain ⟨hlines, hfile, hdeleted⟩ := noWorse_of_changes "def f():\ndef g():\ndef f(x):" ""
    [⟨"a/x.py", "def g():"⟩]
  have hkept : ["def g():".toList, "def f(x):".toList].Sublist
      (Text.lines "def f():\ndef g():\ndef f(x):") := by decide
  exact ⟨hlines _ (by decide), hfile [] ⟨"b/y.py", "def f():"⟩ _ rfl (by decide), hdeleted _ hkept⟩

end Comparison

end Relocation
