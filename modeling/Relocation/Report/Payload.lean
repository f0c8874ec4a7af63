import Relocation.Comparison
import Relocation.Report.Json
import Relocation.Text.Shortcode

/-!
# The content of a report

What a report says of a comparison, as a value of its own: the verdict, the messages, the counts
and the signatures. `Payload.toJson` is its JSON form.
-/

namespace Relocation

namespace Comparison

/-- The verdict in one word. -/
def status (c : Comparison) : String :=
  if c.passed then "PASSED" else "FAILED"

end Comparison

namespace Signature

/-- A signature as an object. -/
def toJson (s : Signature) : Json :=
  .object [("name", .text s.name), ("declarator", .text s.declarator), ("line", .number s.line)]

end Signature

/-- The content of a report. -/
structure Payload where
  status : String
  errors : List String
  warnings : List String
  /-- how many functions were removed, relocated and remain -/
  removedCount : Nat
  relocatedCount : Nat
  remainingCount : Nat
  /-- how many base names the new files have -/
  newFileCount : Nat
  removed : List Signature
  remaining : List Signature
  newFiles : List (String × List Signature)
  deriving DecidableEq

namespace Payload

/-- What a report says of a comparison. -/
def ofComparison (c : Comparison) : Payload where
  status := c.status
  errors := c.errors
  warnings := c.warnings
  removedCount := c.removed.length
  relocatedCount := c.relocated.length
  remainingCount := c.remaining.length
  newFileCount := c.newFiles.size
  removed := c.removed
  remaining := c.remaining
  newFiles := c.newFiles.entries

/-- The content as a JSON value. -/
def toJson (p : Payload) : Json :=
  .object [
    ("status", .text p.status),
    ("errors", .list (p.errors.map .text)),
    ("warnings", .list (p.warnings.map .text)),
    ("summary", .object [
      ("removed_methods", .number p.removedCount),
      ("relocated_methods", .number p.relocatedCount),
      ("remaining_methods", .number p.remainingCount),
      ("new_files_analyzed", .number p.newFileCount)]),
    ("removed_methods", .list (p.removed.map Signature.toJson)),
    ("remaining_methods", .list (p.remaining.map Signature.toJson)),
    ("new_file_methods", .object (p.newFiles.map fun (name, found) =>
      (name, .list (found.map Signature.toJson))))]

end Payload

namespace Comparison

/-- The JSON report of a comparison, as a file holds it. -/
def document (c : Comparison) : String :=
  (Payload.ofComparison c).toJson.document

/-- The JSON report of a comparison, as a console shows it: with pictures for shortcodes and a
line end. -/
def streamDocument (c : Comparison) : String :=
  .ofList (Shortcode.expand c.document.toList ++ ['\n'])

end Comparison

end Relocation
