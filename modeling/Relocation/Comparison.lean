import Relocation.SourceFile

/-!
# Comparison of a refactor

A refactor takes functions out of a file and puts them into new files. `Comparison.ofTexts` looks at
the text before, the text after and the new files:

* a function of the old text whose name is gone from the new text was *removed*,
* a removed function whose name shows up in a new file was *relocated*, any other is *lost*,
* every lost function is an error, and the refactor has *passed* when there is none,
* a text that did not shrink and a function that stands both in the new text and in a new file
  are worth a warning.

Functions are told apart by name only.
-/

namespace Relocation

/-- What became of the functions of a file. -/
structure Comparison where
  /-- functions of the old text that the new text lacks -/
  removed : List Signature
  /-- all functions of the new text -/
  remaining : List Signature
  /-- the functions of the new files, by base name -/
  newFiles : FileMap
  /-- advice -/
  warnings : List String
  /-- failures; any entry marks the refactor as unsafe -/
  errors : List String
  deriving DecidableEq

namespace Comparison

/-- Whether there are no errors. -/
def passed (c : Comparison) : Bool :=
  c.errors.isEmpty

/-- Whether some signature of a list has a given name. -/
def declares (found : List Signature) (name : String) : Bool :=
  found.any fun s => s.name == name

/-- The removed functions that stand in some new file. -/
def relocated (c : Comparison) : List Signature :=
  let placed := c.newFiles.signatures
  c.removed.filter fun s => declares placed s.name

/-- The removed functions that are not among the relocated ones, by name. -/
def lost (c : Comparison) : List Signature :=
  let kept := c.relocated
  c.removed.filter fun s => !declares kept s.name

/-! ## Messages -/

/-- The error for a function that is nowhere to be found. -/
def lostMessage (name : String) : String :=
  s!"Method '{name}' was removed but not found in any new file"

/-- The warning for a text that did not shrink. -/
def notSmallerMessage (before after : Nat) : String :=
  s!"Refactored file ({after} lines) is not smaller than original ({before} lines)"

/-- The warning for a function that stands in two places. -/
def duplicateMessage (name file : String) : String :=
  s!"Method '{name}' exists in both refactored file and {file}"

/-! ## The comparison -/

/-- Compare the text before a refactor with the text after it and the new files. -/
def ofTexts (before after : String) (newFiles : List SourceFile) : Comparison :=
  let remaining := Signature.extract after
  let files := FileMap.ofFiles newFiles
  let removed := (Signature.extract before).filter fun s => !declares remaining s.name
  let placed := files.signatures
  let missing := removed.filter fun s => !declares placed s.name
  let linesBefore := Text.countLines before
  let linesAfter := Text.countLines after
  let duplicates := files.entries.flatMap fun (file, found) =>
    (found.filter fun s => declares remaining s.name).map fun s => duplicateMessage s.name file
  { removed, remaining, newFiles := files
    warnings :=
      (if linesBefore ≤ linesAfter then [notSmallerMessage linesBefore linesAfter] else []) ++
        duplicates
    errors := missing.map fun s => lostMessage s.name }

/-! ## Log records -/

/-- The record of one comparison. -/
def record (c : Comparison) : Record :=
  ⟨.debug, .comparison,
    s!"Refactor comparison completed (removed={c.removed.length} " ++
    s!"remaining={c.remaining.length} new_files={c.newFiles.size} " ++
    s!"errors={c.errors.length} warnings={c.warnings.length})"⟩

/-- All records of a comparison: one for each text, then one for the whole. -/
def records (before after : String) (newFiles : List SourceFile) : List Record :=
  (before :: after :: newFiles.map SourceFile.content).map
      (fun text => Signature.record (Signature.extract text)) ++
    [record (ofTexts before after newFiles)]

end Comparison

end Relocation
