import Relocation.Disk
import Relocation.Ignore.Rule
import Relocation.Text.Newline
import Relocation.Text.Utf8
import Relocation.Verification

/-!
# Input files

Reading the texts of a verification from a disk. A file that cannot be read is an `InputError`,
which names the path and the reason. `Failure` collects all that can end a verification early.
-/

namespace Relocation

/-- An input that could not be had. -/
structure InputError where
  path : Path
  /-- the reason -/
  message : String
  deriving DecidableEq, Repr

/-- An input error in words. -/
def InputError.text (e : InputError) : String :=
  s!"{e.path.text}: {e.message}"

/-- A failure that nothing reports: it ends the program without an exit code. -/
inductive Abort where
  /-- a path that cannot be used at all -/
  | fault (f : Fault)
  /-- a line of an ignore file that is refused -/
  | badRule (f : Ignore.Fault)
  /-- an option without a text where a path is needed -/
  | noPath
  /-- help that standard output does not take, for the reason given -/
  | noHelp (message : String)
  deriving DecidableEq, Repr

/-- The last words of a program. -/
def Abort.message : Abort → String
  | fault f => f.message
  | badRule f => f.message
  | noPath => "a path is needed"
  | noHelp message => message

/-- What can end a verification early. -/
inductive Failure where
  /-- an input could not be had -/
  | input (e : InputError)
  /-- the report could not be written, for the reason given -/
  | report (message : String)
  /-- something that nobody takes care of -/
  | abort (a : Abort)
  deriving DecidableEq, Repr

/-! ## Reading text -/

/-- Why a file could not be read as text. -/
inductive ReadFault where
  | disk (f : Fault)
  | encoding (f : Utf8.Fault)
  deriving DecidableEq, Repr

/-- The report of such a reason. -/
def ReadFault.message : ReadFault → String
  | disk f => f.message
  | encoding f => f.message

/-- The text of some bytes, with line feeds for all line ends. -/
def textOfBytes (bytes : List UInt8) : Except Utf8.Fault String :=
  (Utf8.decode bytes).map fun text => .ofList (Text.unifyNewlines text)

/-- The text of the file that a path leads to. -/
def Disk.readText (d : Disk) (p : Path) : Except ReadFault String := do
  let bytes ← (d.readFile p).mapError .disk
  (textOfBytes bytes).mapError .encoding

/-! ## Providing input -/

/-- The record of a failure to read. -/
def InputError.record (e : InputError) : Record :=
  ⟨.warning, .input, s!"Failed to read input file (path={e.path.text} error={e.message})"⟩

/-- Read an input file. All failures are reported but that of a path with a null character. -/
def readInput {σ : Type} (d : Disk) (p : Path) : Task σ Failure String :=
  match d.readText p with
  | .ok text => return text
  | .error (.disk .nullCharacter) => throw (.abort (.fault .nullCharacter))
  | .error fault => do
    let e : InputError := ⟨p, fault.message⟩
    Task.log e.record
    throw (.input e)

/-- Read input files in turn. -/
def readInputs {σ : Type} (d : Disk) : List Path → Task σ Failure (List SourceFile)
  | [] => return []
  | p :: rest => do
    let content ← readInput d p
    let files ← readInputs d rest
    return ⟨p.text, content⟩ :: files

/-- The provider of texts that are files of a disk. -/
def Provider.ofDisk {σ : Type} (d : Disk) (before after : Path) (newFiles : List Path) :
    Provider σ Failure where
  before := readInput d before
  after := readInput d after
  newFiles := readInputs d newFiles

end Relocation
