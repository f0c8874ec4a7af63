import Relocation.Command.Options
import Relocation.Discovery
import Relocation.Report.Html
import Relocation.Report.Page

/-!
# Running the command

A run of the command reads its arguments, collects the new files, verifies the refactor and writes
the reports. All it can see and change is in a `World`: the disk and the two output streams.

* `selectFiles` — the new files, those named and those found in directories,
* `present` — the report on standard output or in a JSON file,
* `writeHtml` — the HTML report,
* `perform` — all of it for given options,
* `run` — one run, from arguments to exit code.
-/

namespace Relocation.Command

/-- The number that a run ends with. -/
inductive ExitCode where
  /-- no function was lost -/
  | passed
  /-- some function was lost -/
  | failed
  /-- the command was misused, or an input or output failed -/
  | usage
  deriving DecidableEq, Repr

/-- The number itself. -/
def ExitCode.toNat : ExitCode → Nat
  | passed => 0
  | failed => 1
  | usage => 2

/-- All exit codes. -/
def ExitCode.all : List ExitCode :=
  [passed, failed, usage]

/-- The width of the console. -/
def consoleWidth : Nat := 80

/-- The width of the HTML report. -/
def htmlWidth : Nat := 120

/-! ## The world -/

/-- What a run can see and change. -/
structure World where
  disk : Disk
  /-- what was written to standard output -/
  stdout : String := ""
  /-- what was written to standard error -/
  stderr : String := ""
  /-- why standard output takes nothing, if it does not -/
  refusal : Option String := none

/-- How a run ends early. -/
inductive Ending where
  /-- with the exit code for misuse, after a report of the reason -/
  | reported
  /-- without an exit code -/
  | aborted (a : Abort)

/-- Write to standard output. -/
def print (text : String) : Task World Failure Unit := do
  match (← Task.current).refusal with
  | some message => throw (.report message)
  | none => Task.update fun w => { w with stdout := w.stdout ++ text }

/-- Report a failure on standard error and in the log, and end the run. -/
def fail {α : Type} (records : List Record) (message : String) : Task World Ending α := do
  Task.logAll records
  Task.update fun w => { w with stderr := w.stderr ++ message ++ "\n" }
  throw .reported

/-- A warning of the command. -/
def warning (message : String) : Record :=
  ⟨.warning, .command, message⟩

/-- The path that a value names. -/
def pathOf (value : Value) : Task World Ending Path :=
  match value with
  | some text => return .ofString text
  | none => throw (.aborted .noPath)

/-- The text of a value that asks for something, which the empty text does not. -/
def requested (value : Value) : Option String :=
  value.filter fun text => !text.isEmpty

/-- Write a file of the world, after making the directory that it goes into. -/
def writeFile (p : Path) (text : String) : Task World Fault Unit := do
  let (disk, outcome) := (← Task.current).disk.writeReport p (Utf8.encode text.toList)
  Task.update fun w => { w with disk }
  match outcome with
  | .ok () => return
  | .error fault => throw fault

/-! ## Input -/

/-- The source files below one of the directories that were named. -/
def discoverIn (value : Value) : Task World Ending (List Path) := do
  let root ← pathOf value
  match discover (← Task.current).disk root sourceExtensions with
  | .ok (.ok survey) =>
    Task.log (survey.record root)
    return survey.paths root
  | .ok (.error e) =>
    let given := value.getD ""
    fail [warning s!"New file discovery failed (root={given} error={e.text})"]
      s!"Analysis failed: {e.text}"
  | .error a => throw (.aborted a)

/-- Source files below directories, one directory after another. -/
def discoverAll : List Value → Task World Ending (List Path)
  | [] => return []
  | value :: rest => do
    let found ← discoverIn value
    let more ← discoverAll rest
    return found ++ more

/-- The paths that values name. -/
def pathsOf : List Value → Task World Ending (List Path)
  | [] => return []
  | value :: rest => do
    let p ← pathOf value
    let paths ← pathsOf rest
    return p :: paths

/-- The new files: those named, then those found in directories. There has to be one. -/
def selectFiles (o : Options) : Task World Ending (List Path) := do
  let named ← pathsOf o.newFiles
  let found ← discoverAll o.newDirs
  let files := named ++ found
  if files.isEmpty then
    fail [warning "No new files selected for verification"] "No new files selected for verification"
  else return files

/-! ## Output -/

/-- Where the report goes, in words. -/
def reportTarget (o : Options) : String :=
  match o.format, requested o.output with
  | .json, some output => s!"JSON output file {output}"
  | format, _ => s!"stdout ({format.text} format)"

/-- Give out the report: a table on standard output, or a JSON document there or in a file. -/
def present (o : Options) (c : Comparison) : Task World Failure Unit :=
  match o.format, requested o.output with
  | .json, some output => do
    let p := Path.ofString output
    (writeFile p c.document).rescue fun fault =>
      match fault with
      | .refused _ _ => throw (.report fault.message)
      | _ => throw (.abort (.fault fault))
    Task.log ⟨.info, .report, s!"JSON report written (output_path={p.text})"⟩
  | .json, none => print c.streamDocument
  | _, _ => print ((Page.ofComparison c).coloured consoleWidth)

/-- The HTML report of a comparison. -/
def htmlReport (c : Comparison) : String :=
  Html.document ((Page.ofComparison c).render htmlWidth)

/-- Write the HTML report. -/
def writeHtml (output : String) (c : Comparison) : Task World Ending Unit := do
  let p := Path.ofString output
  (writeFile p (htmlReport c)).rescue fun fault =>
    match fault with
    | .refused _ _ =>
      fail [warning s!"Failed to write HTML report (output_path={output} error={fault.message})"]
        s!"Failed to write HTML report: {output}"
    | _ => throw (.aborted (.fault fault))
  Task.log ⟨.info, .command, s!"HTML report written (output_path={p.text})"⟩

/-! ## The run -/

/-- End a run whose verification failed. -/
def endVerification {α : Type} (o : Options) : Failure → Task World Ending α
  | .input e => fail [] s!"Analysis failed: {e.text}"
  | .report message =>
    let target := reportTarget o
    fail [warning s!"Failed to write report (target={target} error={message})"]
      s!"Failed to write report to {target}: {message}"
  | .abort a => throw (.aborted a)

/-- Do what the options ask for. -/
def perform (o : Options) : Task World Ending ExitCode := do
  let newFiles ← selectFiles o
  let before ← pathOf o.before
  let after ← pathOf o.after
  let disk := (← Task.current).disk
  let comparison ← (verify (Provider.ofDisk disk before after newFiles) (present o)).rescue
    (endVerification o)
  if let some output := requested o.html then
    writeHtml output comparison
  return if comparison.passed then .passed else .failed

/-- What one run leaves for the next. -/
structure Session where
  disk : Disk
  /-- how heavy records have to be to be logged -/
  threshold : Threshold

/-- A run that has ended. -/
structure Run where
  /-- the exit code, or what ended the run without one -/
  outcome : Except Abort ExitCode
  stdout : String
  stderr : String
  /-- what reading the arguments printed: help -/
  help : String
  /-- what reading the arguments printed: an error -/
  misuse : String
  /-- the records that were logged -/
  records : List Record
  session : Session

/-- The record of arguments that cannot be read. -/
def misuseRecord (arguments : List String) : Record :=
  warning s!"Argument parsing failed (argv={Text.quotedList arguments})"

/-- A run that ended while reading its arguments. -/
def stopped (session : Session) (arguments : List String) (stop : Stop) : Run where
  outcome := .ok .usage
  stdout := ""
  stderr := ""
  help := match stop with
    | .help => help
    | .misuse _ => ""
  misuse := match stop with
    | .help => ""
    | .misuse m => m.report
  records := [misuseRecord arguments].filter (·.passes session.threshold)
  session := session

/-- The exit code of a task that has ended. -/
def outcomeOf : Except Ending ExitCode → Except Abort ExitCode
  | .ok code => .ok code
  | .error .reported => .ok .usage
  | .error (.aborted a) => .error a

/-- The run that a task is, with the threshold that the session has. -/
def Session.carryOut (session : Session) (refusal : Option String)
    (t : Task World Ending ExitCode) : Run :=
  let (outcome, journal) := t.start { disk := session.disk, refusal }
  { outcome := outcomeOf outcome
    stdout := journal.state.stdout
    stderr := journal.state.stderr
    help := ""
    misuse := ""
    records := journal.records.filter (·.passes session.threshold)
    session := { session with disk := journal.state.disk } }

/-- A run with another threshold, after which the session has the old one again, however the run
ends. -/
def Session.withThreshold (session : Session) (threshold : Threshold) (body : Session → Run) :
    Run :=
  let r := body { session with threshold }
  { r with session := { r.session with threshold := session.threshold } }

/-- Run the command. With `verbose` everything is logged during the run. -/
def run (session : Session) (refusal : Option String) (arguments : List String) : Run :=
  match Options.parse arguments with
  | .error stop => stopped session arguments stop
  | .ok o =>
    if o.verbose then session.withThreshold .debug fun s => s.carryOut refusal (perform o)
    else session.carryOut refusal (perform o)

/-- A run whose help standard output does not take. It ends before anything is logged. -/
def Run.unhelped (r : Run) (message : String) : Run :=
  { r with outcome := .error (.noHelp message), help := "", misuse := "", records := [] }

/-- A run as a process of its own, in which help and errors about the arguments go to the same
streams as all else. -/
def Run.merged (r : Run) (refusal : Option String) : Run :=
  match refusal.filter fun _ => !r.help.isEmpty with
  | some message => r.unhelped message
  | none => { r with stdout := r.help ++ r.stdout, stderr := r.misuse ++ r.stderr, help := "",
                     misuse := "" }

end Relocation.Command
