import Relocation.Comparison
import Relocation.Task

/-!
# One verification

`verify` asks a `Provider` for the texts, compares them and hands the comparison to whoever
presents it. It stops at the first thing that fails, so nothing is presented unless every text
could be had.
-/

namespace Relocation

/-- A source of the texts that one verification compares. -/
structure Provider (σ ε : Type) where
  /-- the text before the refactor -/
  before : Task σ ε String
  /-- the text after the refactor -/
  after : Task σ ε String
  /-- the files that the refactor made -/
  newFiles : Task σ ε (List SourceFile)

/-- The record of one verification. -/
def Comparison.verificationRecord (c : Comparison) : Record :=
  let status := if c.passed then "passed" else "failed"
  ⟨.info, .verification, s!"Verification completed (status={status} " ++
    s!"errors={c.errors.length} warnings={c.warnings.length})"⟩

/-- Read the texts in turn, compare them and present the result. -/
def verify {σ ε : Type} (provider : Provider σ ε) (present : Comparison → Task σ ε Unit) :
    Task σ ε Comparison := do
  let before ← provider.before
  let after ← provider.after
  let newFiles ← provider.newFiles
  let comparison := Comparison.ofTexts before after newFiles
  Task.logAll (Comparison.records before after newFiles)
  Task.log comparison.verificationRecord
  present comparison
  return comparison

end Relocation
