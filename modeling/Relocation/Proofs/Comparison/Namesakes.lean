import Relocation.Proofs.Comparison.Verdict
import Relocation.Report.Payload

/-!
# New files of the same base name

New files are told apart by their base names. Files that share one count as a single new file, at
the place of the first of them and with the signatures of the last one, and what stands in the
others makes no difference at all.

* `FileMap.ofFiles_eq_of_names_of_isLast` — what a map of files depends on,
* `FileMap.ofFiles_replace_content` — a file with a later namesake may hold anything,
* `FileMap.size_ofFiles` — how many names there are,
* `Comparison.newFiles_ofTexts_of_namesakes` — **files of the same base name count as one**.
-/

namespace Relocation

/-! ## Maps of files -/

namespace FileMap

variable {files files' : List SourceFile}

/-- A map of files depends on the names in their order, and on the last files of each name. -/
theorem ofFiles_eq_of_names_of_isLast
    (hnames : (files.map fun f => basename f.path) = files'.map fun f => basename f.path)
    (hlast : ∀ f : SourceFile, f.IsLast files ↔ f.IsLast files') :
    ofFiles files = ofFiles files' := by
  refine ext_of_lookup ?_ fun name => Option.ext fun found => ?_
  · rw [names_ofFiles, names_ofFiles, hnames]
  · simp only [lookup_ofFiles_eq_some_iff, hlast]

/-- A file with a later namesake may hold anything. -/
theorem ofFiles_replace_content {earlier later : List SourceFile} {f : SourceFile}
    (hlater : ∃ g ∈ later, basename g.path = basename f.path) (content : String) :
    ofFiles (earlier ++ { f with content } :: later) = ofFiles (earlier ++ f :: later) := by
  refine ofFiles_eq_of_names_of_isLast ?_ fun g => ?_
  · rw [List.map_append, List.map_append, List.map_cons, List.map_cons]
  · rw [SourceFile.isLast_skip_iff (g := { f with content }) hlater,
      SourceFile.isLast_skip_iff hlater]

/-- There are as many names as there are base names. -/
theorem size_ofFiles (files : List SourceFile) :
    (ofFiles files).size = (files.map fun f => basename f.path).toFinset.card := by
  have hsame : (ofFiles files).names.toFinset =
      (files.map fun f => basename f.path).toFinset := by
    ext name
    rw [List.mem_toFinset, List.mem_toFinset, names_ofFiles, List.mem_eraseDups]
  have hnodup : (ofFiles files).names.Nodup := (ofFiles files).nodup
  rw [← hsame, List.toFinset_card_of_nodup hnodup, names, List.length_map, size]

end FileMap

/-! ## Comparisons -/

namespace Comparison

/-- **Files of the same base name count as one.** The names of the new files are their base names,
each at its first place. A name has the signatures of its last file. What a file holds that has a
later namesake makes no difference to the comparison, and a report counts the base names. -/
theorem newFiles_ofTexts_of_namesakes (before after : String) (files : List SourceFile) :
    (ofTexts before after files).newFiles.names =
      (files.map fun f => basename f.path).eraseDups ∧
    (∀ name found, (name, found) ∈ (ofTexts before after files).newFiles.entries ↔
      ∃ f : SourceFile, f.IsLast files ∧ basename f.path = name ∧
        Signature.extract f.content = found) ∧
    (∀ earlier f later, files = earlier ++ f :: later →
      (∃ g ∈ later, basename g.path = basename f.path) → ∀ content,
        ofTexts before after (earlier ++ { f with content } :: later) =
          ofTexts before after files) ∧
    (Payload.ofComparison (ofTexts before after files)).newFileCount =
      (files.map fun f => basename f.path).toFinset.card := by
  refine ⟨FileMap.names_ofFiles files, fun _ _ => FileMap.mem_entries_ofFiles, ?_,
    FileMap.size_ofFiles files⟩
  rintro earlier f later rfl hlater content
  rw [ofTexts, FileMap.ofFiles_replace_content hlater content]
  rfl

/-- Of three files, the first and the last one are namesakes. -/
theorem newFiles_ofTexts_of_three_files :
    (∃ g ∈ [(⟨"y.py", ""⟩ : SourceFile), ⟨"b\\x.py", "def g():"⟩],
      basename g.path = basename "a/x.py") ∧
    (ofTexts "def f():" "" [⟨"a/x.py", "def f():"⟩, ⟨"y.py", ""⟩, ⟨"b\\x.py", "def g():"⟩]) =
      ofTexts "def f():" "" [⟨"a/x.py", ""⟩, ⟨"y.py", ""⟩, ⟨"b\\x.py", "def g():"⟩] := by
  have hlater : ∃ g ∈ [(⟨"y.py", ""⟩ : SourceFile), ⟨"b\\x.py", "def g():"⟩],
      basename g.path = basename "a/x.py" := by decide
  obtain ⟨-, -, hreplace, -⟩ := newFiles_ofTexts_of_namesakes "def f():" ""
    [⟨"a/x.py", ""⟩, ⟨"y.py", ""⟩, ⟨"b\\x.py", "def g():"⟩]
  exact ⟨hlater, hreplace [] ⟨"a/x.py", ""⟩ _ rfl hlater "def f():"⟩

end Comparison

end Relocation
