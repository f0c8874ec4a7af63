import Relocation.Command.Token

/-!
# Command line options

Reading the arguments of the command. Every argument is first told to be a switch or a plain word;
then the switches are obeyed from left to right and take their values from what follows them. So an
unclear switch is found before anything else, and help is given only if no misuse comes before it.

* `Options` — what the command is asked to do,
* `Draft.consume` — obeying the switches,
* `Options.parse` — reading the arguments.
-/

namespace Relocation.Command

/-- The form of the report. -/
inductive Format where
  | table
  | json
  /-- not named, which gives a table -/
  | unnamed
  deriving DecidableEq, Repr

/-- The name of a form. -/
def Format.text : Format → String
  | table => "table"
  | json => "json"
  | unnamed => "[]"

/-- The value of a switch. The mark `--` as an attached value is dropped and leaves no text. -/
abbrev Value := Option String

/-- What the command is asked to do. -/
structure Options where
  /-- the file before the refactor -/
  before : Value
  /-- the file after the refactor -/
  after : Value
  /-- files that the refactor made -/
  newFiles : List Value
  /-- directories of files that the refactor made -/
  newDirs : List Value
  format : Format
  /-- where the JSON report goes -/
  output : Value
  /-- where the HTML report goes -/
  html : Value
  /-- whether to log everything -/
  verbose : Bool
  deriving DecidableEq, Repr

/-- What has been read of the arguments. -/
structure Draft where
  before : Option Value := none
  after : Option Value := none
  newFiles : List Value := []
  newDirs : List Value := []
  format : Format := .table
  output : Value := none
  html : Value := none
  verbose : Bool := false
  /-- arguments that no switch takes -/
  leftover : List String := []
  deriving DecidableEq, Repr

/-- Why reading stops before its end. -/
inductive Stop where
  /-- help was asked for -/
  | help
  | misuse (m : Misuse)
  deriving DecidableEq, Repr

namespace Draft

/-- Set the value of a switch that takes one. -/
def set (d : Draft) (s : Switch) (value : Value) : Except Stop Draft :=
  match s with
  | .before => .ok { d with before := some value }
  | .after => .ok { d with after := some value }
  | .newFile => .ok { d with newFiles := d.newFiles ++ [value] }
  | .newDir => .ok { d with newDirs := d.newDirs ++ [value] }
  | .output => .ok { d with output := value }
  | .html => .ok { d with html := value }
  | .format =>
    match value with
    | none => .ok { d with format := .unnamed }
    | some "table" => .ok { d with format := .table }
    | some "json" => .ok { d with format := .json }
    | some other => .error (.misuse (.badFormat other))
  | .help => .ok d
  | .verbose => .ok d

/-- Obey a switch that takes no value. -/
def obey (d : Draft) (s : Switch) : Except Stop Draft :=
  match s with
  | .help => .error .help
  | .verbose => .ok { d with verbose := true }
  | _ => .ok d

/-- What to make of a value attached to a switch that takes none. After a short switch it may be
more short switches, of which there is only that for help. -/
def misattached (s : Switch) (short : Bool) (value : String) : Stop :=
  if short && !value.isEmpty then
    match value.toList.dropWhile (· == 'h') with
    | [] => .help
    | rest => .misuse (.unwantedValue s (.ofList rest))
  else .misuse (.unwantedValue s value)

/-- Add an argument that no switch takes. -/
def leave (d : Draft) (argument : String) : Draft :=
  { d with leftover := d.leftover ++ [argument] }

/-- Let switches take their values. -/
def consume : List Token → Draft → Except Stop Draft
  | [], d => .ok d
  | .plain argument :: rest, d => consume rest (d.leave argument)
  | .unknown argument :: rest, d => consume rest (d.leave argument)
  | .separator :: rest, d => consume rest (d.leave Token.mark)
  | .switch s short (some value) :: rest, d =>
    if s.takesValue then do
      consume rest (← d.set s (if value = Token.mark then none else some value))
    else .error (misattached s short value)
  | .switch s _ none :: .plain value :: rest, d =>
    if s.takesValue then do consume rest (← d.set s (some value))
    else do consume (.plain value :: rest) (← d.obey s)
  | .switch s _ none :: rest, d =>
    if s.takesValue then .error (.misuse (.noValue s))
    else do consume rest (← d.obey s)

/-- Check that everything needed is there and nothing else. -/
def finish (d : Draft) : Except Stop Options :=
  match d.before, d.after with
  | some before, some after =>
    if d.leftover.isEmpty then
      .ok { before, after, newFiles := d.newFiles, newDirs := d.newDirs, format := d.format,
            output := d.output, html := d.html, verbose := d.verbose }
    else .error (.misuse (.leftover d.leftover))
  | before, after =>
    .error (.misuse (.missing ((if before.isNone then [Switch.before] else []) ++
      if after.isNone then [Switch.after] else [])))

end Draft

/-- Read the arguments of the command. -/
def Options.parse (arguments : List String) : Except Stop Options := do
  let tokens ← (Token.classifyAll arguments).mapError .misuse
  let draft ← Draft.consume tokens {}
  draft.finish

end Relocation.Command
