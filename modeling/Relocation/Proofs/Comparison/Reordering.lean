import Relocation.Proofs.Comparison.Accounting

/-!
# The order of the new files

As long as the base names of the new files are distinct, no file replaces another, and the files may
be handed over in any order: a comparison says the same of every function. Only what is listed file
by file comes in the order of the files.

* `SourceFile.isLast_iff_mem` — where base names are distinct, all files count,
* `FileMap.entries_perm_of_isLast` — up to its order, a map depends on the files that count,
* `Comparison.duplicates`, `Comparison.warnings_ofTexts` — the warnings of a comparison, in parts,
* `Comparison.SameUpToOrder`, `Comparison.sameUpToOrder_ofTexts` — **the order of the new files does
  not matter**.
-/

namespace Relocation

/-! ## Maps of files -/

/-- Where base names are distinct, all files count. -/
theorem SourceFile.isLast_iff_mem {files : List SourceFile}
    (hnodup : (files.map fun f => basename f.path).Nodup) {f : SourceFile} :
    f.IsLast files ↔ f ∈ files :=
  ⟨SourceFile.IsLast.mem, SourceFile.isLast_of_nodup hnodup⟩

namespace FileMap

variable {files files' : List SourceFile}

theorem nodup_entries (m : FileMap) : m.entries.Nodup :=
  .of_map Prod.fst m.nodup

/-- Up to its order, a map depends on the files that are the last of their names. -/
theorem entries_perm_of_isLast (hlast : ∀ f : SourceFile, f.IsLast files ↔ f.IsLast files') :
    (ofFiles files).entries.Perm (ofFiles files').entries := by
  rw [List.perm_ext_iff_of_nodup (ofFiles files).nodup_entries (ofFiles files').nodup_entries]
  rintro ⟨name, found⟩
  simp only [mem_entries_ofFiles, hlast]

/-- The order of the entries makes no difference to look-ups. -/
theorem lookup_eq_of_perm {m m' : FileMap} (h : m.entries.Perm m'.entries) (name : String) :
    m.entries.lookup name = m'.entries.lookup name := by
  refine Option.ext fun found => ?_
  rw [← mem_entries_iff, ← mem_entries_iff, h.mem_iff]

theorem signatures_perm {m m' : FileMap} (h : m.entries.Perm m'.entries) :
    m.signatures.Perm m'.signatures :=
  h.flatMap_right Prod.snd

end FileMap

/-! ## Comparisons -/

namespace Comparison

theorem declares_eq_of_perm {found found' : List Signature} (h : found.Perm found')
    (name : String) : declares found name = declares found' name := by
  rw [declares_eq_decide, declares_eq_decide]
  exact decide_eq_decide.mpr (h.map Signature.name).mem_iff

/-- The warning of a text that did not shrink, if there is one. -/
def sizeWarnings (before after : String) : List String :=
  if Text.countLines before ≤ Text.countLines after then
    [notSmallerMessage (Text.countLines before) (Text.countLines after)]
  else []

/-- The warnings of the functions that stand both in the new text and in some new file. -/
def duplicates (after : String) (m : FileMap) : List String :=
  m.entries.flatMap fun (file, found) =>
    (found.filter fun s => declares (Signature.extract after) s.name).map fun s =>
      duplicateMessage s.name file

theorem warnings_ofTexts (before after : String) (files : List SourceFile) :
    (ofTexts before after files).warnings =
      sizeWarnings before after ++ duplicates after (FileMap.ofFiles files) :=
  rfl

theorem ne_notSmallerMessage_of_mem_duplicates {after : String} {m : FileMap} {message : String}
    (h : message ∈ duplicates after m) (linesBefore linesAfter : Nat) :
    message ≠ notSmallerMessage linesBefore linesAfter := by
  obtain ⟨⟨file, found⟩, -, hmessage⟩ := List.mem_flatMap.mp h
  obtain ⟨s, -, rfl⟩ := List.mem_map.mp hmessage
  exact duplicateMessage_ne_notSmallerMessage linesBefore linesAfter

/-- Two comparisons that say the same of every function, and of every file by its name. Their
warnings start with the same ones, and go on with the same ones in some order. -/
structure SameUpToOrder (lead : List String) (c c' : Comparison) : Prop where
  removed_eq : c.removed = c'.removed
  remaining_eq : c.remaining = c'.remaining
  errors_eq : c.errors = c'.errors
  relocated_eq : c.relocated = c'.relocated
  lost_eq : c.lost = c'.lost
  lookup_eq : ∀ name, c.newFiles.entries.lookup name = c'.newFiles.entries.lookup name
  /-- the warnings after the first ones are rearranged, and none of them is of a text's size -/
  warnings : ∃ rest rest', c.warnings = lead ++ rest ∧ c'.warnings = lead ++ rest' ∧
    rest.Perm rest' ∧ ∀ message ∈ rest, ∀ linesBefore linesAfter,
      message ≠ notSmallerMessage linesBefore linesAfter

/-- **The order of the new files does not matter** if their base names are distinct. -/
theorem sameUpToOrder_ofTexts (before after : String) {files files' : List SourceFile}
    (hperm : files.Perm files') (hnodup : (files.map fun f => basename f.path).Nodup) :
    SameUpToOrder (sizeWarnings before after) (ofTexts before after files)
      (ofTexts before after files') := by
  have hnodup' : (files'.map fun f => basename f.path).Nodup :=
    (hperm.map _).nodup_iff.mp hnodup
  have hentries : (FileMap.ofFiles files).entries.Perm (FileMap.ofFiles files').entries := by
    apply FileMap.entries_perm_of_isLast
    intro f
    rw [SourceFile.isLast_iff_mem hnodup, SourceFile.isLast_iff_mem hnodup', hperm.mem_iff]
  have hplaced (name : String) : declares (FileMap.ofFiles files).signatures name =
      declares (FileMap.ofFiles files').signatures name :=
    declares_eq_of_perm (FileMap.signatures_perm hentries) name
  have hlost : (ofTexts before after files).lost = (ofTexts before after files').lost := by
    rw [lost_eq, lost_eq]
    simp only [ofTexts, hplaced]
  refine ⟨rfl, rfl, ?_, ?_, hlost, FileMap.lookup_eq_of_perm hentries, _, _,
    warnings_ofTexts before after files, warnings_ofTexts before after files',
    hentries.flatMap_right _, fun _ => ne_notSmallerMessage_of_mem_duplicates⟩
  · rw [errors_ofTexts, errors_ofTexts, hlost]
  · simp only [relocated, ofTexts, hplaced]

/-- Two files, each with a function that the new text has as well. -/
theorem sameUpToOrder_ofTexts_of_two_files :
    SameUpToOrder [notSmallerMessage 2 2]
      (ofTexts "def f():\ndef g():" "def g():\ndef h():"
        [⟨"x.py", "def f():\ndef g():"⟩, ⟨"y.py", "def h():"⟩])
      (ofTexts "def f():\ndef g():" "def g():\ndef h():"
        [⟨"y.py", "def h():"⟩, ⟨"x.py", "def f():\ndef g():"⟩]) := by
  have hlead : sizeWarnings "def f():\ndef g():" "def g():\ndef h():" =
      [notSmallerMessage 2 2] := by decide
  rw [← hlead]
  exact sameUpToOrder_ofTexts _ _ (.swap _ _ _) (by decide)

end Comparison

end Relocation
