import Relocation.Proofs.Command.Phases
import Relocation.Proofs.Text.Storage

/-!
# Comparisons of stored texts

How the files of a refactor are stored makes no difference: neither the kind of their line ends nor
a byte order mark changes anything about a comparison, from the signatures to the messages and the
log.

* `Comparison.ofTexts_congr`, `Comparison.records_congr` — comparisons of texts that are alike,
* `verify_ofDisk_eq` — a verification of stored files is one of their texts,
* `verify_eq_of_stored` — **how files are stored does not matter**.
-/

namespace Relocation

/-! ## Texts that are alike -/

section Alike

variable {before before' after after' : String} {files files' : List SourceFile}

/-- What a comparison takes from a file. -/
def SourceFile.found (file : SourceFile) : String × List Signature :=
  (file.path, Signature.extract file.content)

theorem FileMap.ofFiles_congr (h : files.map SourceFile.found = files'.map SourceFile.found) :
    FileMap.ofFiles files = FileMap.ofFiles files' := by
  have hfound (files : List SourceFile) : FileMap.ofFiles files =
      FileMap.ofList ((files.map SourceFile.found).map (Prod.map basename id)) := by
    rw [FileMap.ofFiles, List.map_map]
    rfl
  rw [hfound, hfound, h]

theorem Comparison.ofTexts_congr (hbefore : Text.Alike before before')
    (hafter : Text.Alike after after')
    (hfiles : files.map SourceFile.found = files'.map SourceFile.found) :
    Comparison.ofTexts before after files = Comparison.ofTexts before' after' files' := by
  simp only [Comparison.ofTexts, hbefore.extract, hafter.extract, hbefore.countLines,
    hafter.countLines, FileMap.ofFiles_congr hfiles]

theorem Comparison.records_congr (hbefore : Text.Alike before before')
    (hafter : Text.Alike after after')
    (hfiles : files.map SourceFile.found = files'.map SourceFile.found) :
    Comparison.records before after files = Comparison.records before' after' files' := by
  have hfound (files : List SourceFile) :
      (files.map SourceFile.content).map (fun text => Signature.record (Signature.extract text)) =
        (files.map SourceFile.found).map fun found => Signature.record found.2 := by
    rw [List.map_map, List.map_map]
    rfl
  unfold Comparison.records
  rw [List.map_cons, List.map_cons, List.map_cons, List.map_cons, hbefore.extract, hafter.extract,
    hfound files, hfound files', hfiles, Comparison.ofTexts_congr hbefore hafter hfiles]

end Alike

/-! ## Providers -/

section Providers

variable {σ ε : Type} {d : Disk} {before after : Path} {files : List Path} {text : Path → String}

/-- A provider that has its texts in hand. -/
def Provider.ofTexts (before after : String) (newFiles : List SourceFile) : Provider σ ε :=
  ⟨pure before, pure after, pure newFiles⟩

/-- Files with given texts. -/
def sourceFiles (text : Path → String) (paths : List Path) : List SourceFile :=
  paths.map fun p => ⟨p.text, text p⟩

theorem readInput_eq_pure {p : Path} (h : d.readText p = .ok (text p)) :
    (readInput d p : Task σ Failure String) = pure (text p) := by
  rw [readInput, h]

theorem readInputs_eq_pure (h : ∀ p ∈ files, d.readText p = .ok (text p)) :
    (readInputs d files : Task σ Failure (List SourceFile)) = pure (sourceFiles text files) := by
  induction files with
  | nil => rfl
  | cons p files ih =>
    obtain ⟨hp, hfiles⟩ := List.forall_mem_cons.mp h
    rw [readInputs, readInput_eq_pure hp, ih hfiles, pure_bind, pure_bind]
    rfl

/-- A provider whose files can all be read has their texts in hand. -/
theorem ofDisk_eq_ofTexts (h : ∀ p ∈ before :: after :: files, d.readText p = .ok (text p)) :
    (Provider.ofDisk d before after files : Provider σ Failure) =
      .ofTexts (text before) (text after) (sourceFiles text files) := by
  obtain ⟨hbefore, h⟩ := List.forall_mem_cons.mp h
  obtain ⟨hafter, hfiles⟩ := List.forall_mem_cons.mp h
  rw [Provider.ofDisk, readInput_eq_pure hbefore, readInput_eq_pure hafter,
    readInputs_eq_pure hfiles]
  rfl

/-- Texts that are alike are verified alike. -/
theorem verify_ofTexts_congr {old old' new new' : String} {sources sources' : List SourceFile}
    (hold : Text.Alike old old') (hnew : Text.Alike new new')
    (hsources : sources.map SourceFile.found = sources'.map SourceFile.found)
    (present : Comparison → Task σ ε Unit) :
    verify (.ofTexts old new sources) present = verify (.ofTexts old' new' sources') present := by
  simp only [verify, Provider.ofTexts, pure_bind, Comparison.records_congr hold hnew hsources,
    Comparison.ofTexts_congr hold hnew hsources]

end Providers

/-! ## Stored files -/

section Stored

variable {σ : Type} {d d' : Disk} {before after : Path} {files : List Path}
  {text : Path → String} {storage : Path → Storage}

/-- What is read of a stored file. -/
theorem readText_of_stored {p : Path} (hclear : '\r' ∉ (text p).toList)
    (h : d.readFile p = .ok ((storage p).bytes (text p))) :
    d.readText p = .ok (.ofList ((storage p).lead ++ (text p).toList)) := by
  rw [Disk.readText, h]
  change Except.mapError _ (textOfBytes _) = _
  rw [Storage.textOfBytes_bytes _ hclear]
  rfl

/-- **A verification of stored files is one of their texts.** -/
theorem verify_ofDisk_eq (hclear : ∀ p ∈ before :: after :: files, '\r' ∉ (text p).toList)
    (hstored : ∀ p ∈ before :: after :: files,
      d.readFile p = .ok ((storage p).bytes (text p)))
    (present : Comparison → Task σ Failure Unit) :
    verify (.ofDisk d before after files) present =
      verify (.ofTexts (text before) (text after) (sourceFiles text files)) present := by
  have hread : ∀ p ∈ before :: after :: files,
      d.readText p = .ok (.ofList ((storage p).lead ++ (text p).toList)) := by
    intro p hp
    exact readText_of_stored (hclear p hp) (hstored p hp)
  rw [ofDisk_eq_ofTexts hread]
  refine verify_ofTexts_congr (Storage.alike_read _ _) (Storage.alike_read _ _) ?_ present
  unfold sourceFiles
  rw [List.map_map, List.map_map]
  refine List.map_congr_left ?_
  intro p _
  exact congrArg (Prod.mk p.text) (Storage.alike_read (storage p) (text p)).extract

/-- What comes of a verification of texts. -/
theorem outcome_verify_ofTexts {ε : Type} (old new : String) (sources : List SourceFile)
    (j : Journal σ) :
    Task.outcome (verify (.ofTexts old new sources : Provider σ ε) fun _ => pure ()) j =
      .ok (Comparison.ofTexts old new sources) := by
  simp only [verify, Provider.ofTexts, Task.outcome_bind, Task.outcome_pure, Task.outcome_logAll,
    Task.outcome_log]

/-- **How files are stored does not matter.** Let the texts of a refactor have no carriage returns,
and let a disk hold each of them in UTF-8 with line ends of some kind and with or without a byte
order mark. A verification of these files ends with the comparison of the texts, and whatever is
done with it, the verification does the same as that of files with line feeds and no mark. -/
theorem verify_eq_of_stored (hclear : ∀ p ∈ before :: after :: files, '\r' ∉ (text p).toList)
    (hstored : ∀ p ∈ before :: after :: files,
      d.readFile p = .ok ((storage p).bytes (text p)))
    (hplain : ∀ p ∈ before :: after :: files,
      d'.readFile p = .ok (Storage.plain.bytes (text p))) :
    (∀ j : Journal σ, ∀ disk ∈ [d, d'],
        Task.outcome (verify (.ofDisk disk before after files) fun _ => pure ()) j =
          .ok (Comparison.ofTexts (text before) (text after) (sourceFiles text files))) ∧
      ∀ present : Comparison → Task σ Failure Unit,
        verify (.ofDisk d before after files) present =
          verify (.ofDisk d' before after files) present := by
  have hd (present : Comparison → Task σ Failure Unit) := verify_ofDisk_eq hclear hstored present
  have hd' (present : Comparison → Task σ Failure Unit) := verify_ofDisk_eq hclear hplain present
  refine ⟨?_, fun present => (hd present).trans (hd' present).symm⟩
  intro j disk hdisk
  rw [List.mem_pair] at hdisk
  obtain rfl | rfl := hdisk
  · rw [hd, outcome_verify_ofTexts]
  · rw [hd', outcome_verify_ofTexts]

/-! ### Three files -/

/-- The texts of three files. -/
def threeTexts (p : Path) : String :=
  if p = .ofString "a.js" then "function f() \x7b\n\x7d\n"
  else if p = .ofString "b.js" then "// empty"
  else "// moved\nfunction f() \x7b\n\x7d"

/-- Three ways to store them. -/
def threeStorages (p : Path) : Storage :=
  if p = .ofString "a.js" then ⟨.crlf, true⟩
  else if p = .ofString "b.js" then ⟨.lf, true⟩
  else ⟨.cr, true⟩

/-- A disk with the three files, stored in given ways. -/
def diskOfThree (storage : Path → Storage) : Disk :=
  let entry (name : String) : Location × Entry :=
    ([name], .file ((storage (.ofString name)).bytes (threeTexts (.ofString name))))
  ⟨[], [entry "a.js", entry "b.js", entry "n.js"], []⟩

/-- Marks, pairs and carriage returns in three files, with a comment right after a mark. -/
theorem verify_eq_of_three_storages :
    Task.outcome (verify (.ofDisk (diskOfThree threeStorages) (.ofString "a.js")
        (.ofString "b.js") [.ofString "n.js"]) fun _ => pure ()) ⟨(), []⟩ =
      .ok (Comparison.ofTexts "function f() \x7b\n\x7d\n" "// empty"
        [⟨"n.js", "// moved\nfunction f() \x7b\n\x7d"⟩]) ∧
    verify (.ofDisk (diskOfThree threeStorages) (.ofString "a.js") (.ofString "b.js")
        [.ofString "n.js"]) (fun _ => pure ()) =
      (verify (.ofDisk (diskOfThree fun _ => .plain) (.ofString "a.js") (.ofString "b.js")
        [.ofString "n.js"]) fun _ => pure () : Task Unit Failure Comparison) := by
  have hclear : ∀ p ∈ [Path.ofString "a.js", .ofString "b.js", .ofString "n.js"],
      '\r' ∉ (threeTexts p).toList := by decide
  have hread (storage : Path → Storage) :
      ∀ p ∈ [Path.ofString "a.js", .ofString "b.js", .ofString "n.js"],
        (diskOfThree storage).readFile p = .ok ((storage p).bytes (threeTexts p)) := by
    intro p hp
    simp only [List.mem_cons, List.not_mem_nil, or_false] at hp
    obtain rfl | rfl | rfl := hp <;> rfl
  obtain ⟨houtcome, hverify⟩ :=
    verify_eq_of_stored hclear (hread threeStorages) (hread fun _ => .plain)
  have hnames : Comparison.ofTexts (threeTexts (.ofString "a.js")) (threeTexts (.ofString "b.js"))
      (sourceFiles threeTexts [.ofString "n.js"]) =
      Comparison.ofTexts "function f() \x7b\n\x7d\n" "// empty"
        [⟨"n.js", "// moved\nfunction f() \x7b\n\x7d"⟩] := by
    have hpath : (Path.ofString "n.js").text = "n.js" := by decide
    rw [sourceFiles, List.map_singleton, hpath]
    rfl
  exact ⟨(houtcome _ _ List.mem_cons_self).trans (congrArg Except.ok hnames), hverify _⟩

end Stored

end Relocation
