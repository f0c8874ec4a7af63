import Relocation.Command.Run

/-!
# The command

The outer layer: it looks at the files that the arguments name, lets `Command.run` do the work on
what it saw, and carries out what came of it. It decides nothing by itself.
-/

namespace Relocation.Shell

/-- What is at a path, if anything. The bytes of a file are read only if they are needed. -/
def look (p : Path) (needed : Bool) : IO (Option Entry) := do
  let place := (← IO.currentDir) / p.text
  if ← place.isDir then return some .folder
  else if ← place.pathExists then
    let bytes ← if needed then IO.FS.readBinFile place else pure .empty
    return some (.file bytes.toList)
  else return none

/-- Take in what is at a path and on the way to it. -/
def observe (needed : Bool) (disk : Disk) (p : Path) : IO Disk := do
  if Disk.hasNull p then return disk
  let mut disk := disk
  let mut place := disk.origin p
  let mut names := []
  for name in p.segments do
    names := names ++ [name]
    if name == ".." then place := place.dropLast
    else
      place := place ++ [name]
      if let some entry ← look { p with segments := names } needed then
        disk := disk.put place entry
  return disk

/-- Whether discovery may look into a file of a given name. -/
def isNeeded (name : String) : Bool :=
  name == ignoreFileName || sourceExtensions.contains (Text.lower (Path.suffix name))

/-- Take in everything below a directory. -/
partial def observeBelow (disk : Disk) (p : Path) (place : Location) : IO Disk := do
  let mut disk := disk
  let listing ← try
      pure (some (← ((← IO.currentDir) / p.text).readDir))
    catch _ => pure none
  match listing with
  | none => return { disk with unlistable := p :: disk.unlistable }
  | some children =>
    for child in children do
      let name := child.fileName
      if let some entry ← look (p.join [name]) (isNeeded name) then
        disk := disk.put (place ++ [name]) entry
        if entry.isFolder then
          disk ← observeBelow disk (p.join [name]) (place ++ [name])
    return disk

/-- Take in a directory and everything below it. -/
def observeTree (disk : Disk) (p : Path) : IO Disk := do
  let disk ← observe false disk p
  match disk.folder? p with
  | .ok (some place) => observeBelow disk p place
  | _ => return disk

/-- The disk as far as a run with some options can see it. -/
def observeAll (o : Command.Options) : IO Disk := do
  let paths (values : List Command.Value) : List Path :=
    values.filterMap fun value => value.map Path.ofString
  let cwd := (Path.ofString (← IO.currentDir).toString).segments
  let disk ← (paths [o.output, o.html]).foldlM (observe false) (Disk.blank cwd)
  let disk ← (paths o.newDirs).foldlM observeTree disk
  (paths (o.before :: o.after :: o.newFiles)).foldlM (observe true) disk

/-- Write what a run changed. -/
def store (old new : Disk) : IO Unit := do
  for (place, entry) in new.entries do
    if old.find? place != some entry then
      let target := "/" ++ Path.joined place
      match entry with
      | .folder => IO.FS.createDirAll target
      | .file bytes => IO.FS.writeBinFile target bytes.toByteArray

/-- Show a finished run and give its exit code. -/
def finish (r : Command.Run) : IO UInt32 := do
  for record in r.records do
    IO.eprintln s!"{record.level.label} {record.message}"
  IO.print r.stdout
  IO.eprint r.stderr
  match r.outcome with
  | .ok code => return code.toNat.toUInt32
  | .error a =>
    IO.eprintln s!"error: {a.message}"
    return 1

end Relocation.Shell

open Relocation Shell in
/-- Run the command. -/
def main (arguments : List String) : IO UInt32 := do
  let disk ← match Command.Options.parse arguments with
    | .ok o => observeAll o
    | .error _ => pure (Disk.blank [])
  let r := (Command.run ⟨disk, .info⟩ none arguments).merged none
  store disk r.session.disk
  finish r
