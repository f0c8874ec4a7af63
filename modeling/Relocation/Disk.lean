import Relocation.Entries
import Relocation.Path
import Relocation.Text.Quoted

/-!
# Files on a disk

A `Disk` is a directory tree without links, kept as a list of places and what is there. A `Path` is
followed from name to name, `..` leading to the directory above the one reached; what stands in the
way is a `Refusal`.

* `Disk.find?` — what is at a place,
* `Disk.locate` — the place that a path leads to,
* `Disk.folder?`, `Disk.readFile` — reading,
* `Disk.makeFolder`, `Disk.makeFolders`, `Disk.writeFile` — writing.
-/

namespace Relocation

/-! ## Refusals -/

/-- Why the system refuses to follow a path or to use what it leads to. -/
inductive Refusal where
  | missing
  | denied
  | present
  | notFolder
  | isFolder
  | nameTooLong
  deriving DecidableEq, Repr

namespace Refusal

/-- The number of a refusal. -/
def code : Refusal → Nat
  | missing => 2
  | denied => 13
  | present => 17
  | notFolder => 20
  | isFolder => 21
  | nameTooLong => 36

/-- A refusal in words. -/
def text : Refusal → String
  | missing => "No such file or directory"
  | denied => "Permission denied"
  | present => "File exists"
  | notFolder => "Not a directory"
  | isFolder => "Is a directory"
  | nameTooLong => "File name too long"

end Refusal

/-- Why an operation on a path failed. -/
inductive Fault where
  /-- the system refused -/
  | refused (why : Refusal) (path : Path)
  /-- the path holds a null character, so it was never handed to the system -/
  | nullCharacter
  /-- too many directories on the path are missing to be made at once -/
  | tooManyMissing
  deriving DecidableEq, Repr

/-- The report of a fault. -/
def Fault.message : Fault → String
  | refused why path => s!"[Errno {why.code}] {why.text}: {Text.quoted path.text}"
  | nullCharacter => "embedded null byte"
  | tooManyMissing => "too many directories are missing"

/-! ## The tree -/

/-- A place: the names that lead to it from the root. -/
abbrev Location := List String

/-- What is at a place. -/
inductive Entry where
  | file (bytes : List UInt8)
  | folder
  deriving DecidableEq, Repr

/-- Whether an entry is a directory. -/
def Entry.isFolder : Entry → Bool
  | file _ => false
  | folder => true

/-- A directory tree. The root is always there and has no entry. -/
structure Disk where
  /-- the working directory -/
  cwd : Location
  /-- all places below the root and what is there -/
  entries : List (Location × Entry)
  /-- directories that may not be listed, by the path by which they are asked for -/
  unlistable : List Path
  deriving DecidableEq, Repr

namespace Disk

/-- What is at a place. -/
def find? (d : Disk) (place : Location) : Option Entry :=
  if place = [] then some .folder else d.entries.lookup place

/-- Put something at a place. -/
def put (d : Disk) (place : Location) (entry : Entry) : Disk :=
  { d with entries := Entries.put place entry d.entries }

/-- Put something at the place that some names lead to from another place, with the directories
on the way. -/
def plant (d : Disk) (place : Location) : List String → Entry → Disk
  | [], _ => d
  | [name], entry => d.put (place ++ [name]) entry
  | name :: rest, entry =>
    if name = ".." then d.plant place.dropLast rest entry
    else
      let d := if (d.find? (place ++ [name])).isSome then d else d.put (place ++ [name]) .folder
      d.plant (place ++ [name]) rest entry

/-- A disk with nothing but a working directory. -/
def blank (cwd : Location) : Disk :=
  (⟨cwd, [], []⟩ : Disk).plant [] cwd .folder

/-- A tree: places are distinct, and what is below a place is below a directory. -/
def WellFormed (d : Disk) : Prop :=
  (d.entries.map Prod.fst).Nodup ∧ d.find? d.cwd = some .folder ∧
    ∀ entry ∈ d.entries, entry.1 ≠ [] ∧ d.find? entry.1.dropLast = some .folder

/-- What comes after a place on the way to another one. -/
def beyond? : (place other : Location) → Option Location
  | [], other => some other
  | _ :: _, [] => none
  | name :: place, name' :: other => if name = name' then beyond? place other else none

/-- Everything below a place, by the names that lead there. -/
def below (d : Disk) (place : Location) : List (Location × Entry) :=
  d.entries.filterMap fun (other, entry) =>
    match beyond? place other with
    | some (name :: rest) => some (name :: rest, entry)
    | _ => none

/-- What is right below a place, by name. -/
def children (d : Disk) (place : Location) : List (String × Entry) :=
  d.entries.filterMap fun (other, entry) =>
    match beyond? place other with
    | some [name] => some (name, entry)
    | _ => none

/-! ## Following paths -/

/-- The greatest number of bytes in a name. -/
def longestName : Nat := 255

/-- The greatest number of bytes in a path. It binds the root of a discovery, reading, writing and
making directories. The walk below the root and the search for ignore files go from place to place
and not by paths, so they meet no such limit. -/
def longestPath : Nat := 4095

/-- Follow names from a place. The place reached is there. -/
def follow (d : Disk) : Location → List String → Except Refusal Location
  | place, [] => .ok place
  | place, name :: rest =>
    match d.find? place with
    | none => .error .missing
    | some (.file _) => .error .notFolder
    | some .folder =>
      if name = ".." then d.follow place.dropLast rest
      else if longestName < name.utf8ByteSize then .error .nameTooLong
      else
        match d.find? (place ++ [name]) with
        | none => .error .missing
        | some _ => d.follow (place ++ [name]) rest

/-- Where a path starts. -/
def origin (d : Disk) (p : Path) : Location :=
  match p.anchor with
  | .here => d.cwd
  | _ => []

/-- Whether a path holds a null character. -/
def hasNull (p : Path) : Bool :=
  p.segments.any fun name => name.toList.contains '\x00'

/-- The place that a path leads to. -/
def locate (d : Disk) (p : Path) : Except Refusal Location :=
  if longestPath < p.text.utf8ByteSize then .error .nameTooLong
  else d.follow (d.origin p) p.segments

/-! ## Reading -/

/-- The place of the directory that a path leads to, if it leads to one. A path that leads nowhere
does not, but one with a name that is too long cannot be asked about. -/
def folder? (d : Disk) (p : Path) : Except Fault (Option Location) :=
  if hasNull p then .ok none
  else
    match d.locate p with
    | .ok place => .ok (if d.find? place = some .folder then some place else none)
    | .error .missing => .ok none
    | .error .notFolder => .ok none
    | .error why => .error (.refused why p)

/-- The bytes of the file that a path leads to. The tree has no permissions but those to list
directories, so a file that is there can be read and the refusal is never `Refusal.denied`. -/
def readFile (d : Disk) (p : Path) : Except Fault (List UInt8) :=
  if hasNull p then .error .nullCharacter
  else
    match d.locate p with
    | .error why => .error (.refused why p)
    | .ok place =>
      match d.find? place with
      | some (.file bytes) => .ok bytes
      | some .folder => .error (.refused .isFolder p)
      | none => .error (.refused .missing p)

/-! ## Writing -/

/-- Where something of a given name would be in a place, and what is there now. The name `..` leads
to a directory that is there. -/
def targetIn (d : Disk) (place : Location) (name : String) :
    Except Refusal (Location × Option Entry) :=
  match d.find? place with
  | none => .error .missing
  | some (.file _) => .error .notFolder
  | some .folder =>
    if name = ".." then .ok (place.dropLast, some .folder)
    else if longestName < name.utf8ByteSize then .error .nameTooLong
    else .ok (place ++ [name], d.find? (place ++ [name]))

/-- Where something of a given path would be, and what is there now. A path without names leads to
a directory that is there. -/
def target (d : Disk) (p : Path) : Except Refusal (Location × Option Entry) :=
  match p.segments.getLast? with
  | none => .ok (d.origin p, some .folder)
  | some name =>
    if longestPath < p.text.utf8ByteSize then .error .nameTooLong
    else
      match d.locate p.parent with
      | .error why => .error why
      | .ok place => d.targetIn place name

/-- Make one directory where a path leads, and say where that is. -/
def makeFolderAt (d : Disk) (p : Path) :
    Except Refusal (Location × Option Entry) → Except Fault (Disk × Location)
  | .error why => .error (.refused why p)
  | .ok (_, some _) => .error (.refused .present p)
  | .ok (place, none) => .ok (d.put place .folder, place)

/-- Make one directory, and say where it is. -/
def makeFolder (d : Disk) (p : Path) : Except Fault (Disk × Location) :=
  if hasNull p then .error .nullCharacter else d.makeFolderAt p (d.target p)

/-- Write a file, in place of what it held before. -/
def writeFile (d : Disk) (p : Path) (bytes : List UInt8) : Except Fault Disk :=
  if hasNull p then .error .nullCharacter
  else
    match d.target p with
    | .error why => .error (.refused why p)
    | .ok (_, some .folder) => .error (.refused .isFolder p)
    | .ok (place, _) => .ok (d.put place (.file bytes))

/-- Accept the failure to make a directory that is already there, and say where it is. -/
def toleratePresent (d : Disk) (p : Path) (fault : Fault) : Except Fault Location :=
  match fault with
  | .refused _ _ =>
    match d.folder? p with
    | .ok (some place) => .ok place
    | .ok none => .error fault
    | .error other => .error other
  | _ => .error fault

/-- A directory that was made, or one that is already there. -/
def madeOrPresent (d : Disk) (p : Path) :
    Except Fault (Disk × Location) → Disk × Except Fault Location
  | .ok (d', place) => (d', .ok place)
  | .error fault => (d, d.toleratePresent p fault)

/-- The greatest number of missing directories that are made at once. No other operation counts
directories: the walk of a discovery and the search for ignore files go down as deep as the tree
does. -/
def longestChain : Nat := 980

/-- Make a directory and those above it that are missing, at most `chain` of them, and say where it
is. The names are given from the last to the first. The disk is returned also on failure, for
directories may have been made before it. -/
def makeFoldersUp (anchor : Anchor) :
    (chain : Nat) → (names : List String) → Disk → Disk × Except Fault Location
  | 0, _, d => (d, .error .tooManyMissing)
  | _, [], d => d.madeOrPresent ⟨anchor, []⟩ (d.makeFolder ⟨anchor, []⟩)
  | chain + 1, name :: above, d =>
    let p : Path := ⟨anchor, (name :: above).reverse⟩
    match d.makeFolder p with
    | .error (.refused .missing _) =>
      match makeFoldersUp anchor chain above d with
      | (d', .error fault) => (d', .error fault)
      | (d', .ok place) => d'.madeOrPresent p (d'.makeFolderAt p (d'.targetIn place name))
    | outcome => d.madeOrPresent p outcome

/-- Make a directory and those above it that are missing, unless it is there. -/
def makeFolders (d : Disk) (p : Path) : Disk × Except Fault Unit :=
  let (d', outcome) := makeFoldersUp p.anchor longestChain p.segments.reverse d
  (d', outcome.map fun _ => ())

/-- Write a file, after making the directory that it goes into. -/
def writeReport (d : Disk) (p : Path) (bytes : List UInt8) : Disk × Except Fault Unit :=
  match d.makeFolders p.parent with
  | (d', .error fault) => (d', .error fault)
  | (d', .ok ()) =>
    match d'.writeFile p bytes with
    | .ok d'' => (d'', .ok ())
    | .error fault => (d', .error fault)

end Disk

end Relocation
