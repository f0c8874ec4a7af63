import Relocation.Command.Switch
import Relocation.Text.Quoted

/-!
# Misuse of the command

What can be wrong with the arguments of the command, and how it is said.
-/

namespace Relocation.Command

/-- What can be wrong with the arguments. -/
inductive Misuse where
  /-- a shortened switch that may mean several ones -/
  | ambiguous (argument : String) (candidates : List String)
  /-- a switch without its value -/
  | noValue (s : Switch)
  /-- a value for a switch that takes none -/
  | unwantedValue (s : Switch) (value : String)
  /-- a format that is not known -/
  | badFormat (value : String)
  /-- switches that have to be there and are not -/
  | missing (switches : List Switch)
  /-- arguments that no switch takes -/
  | leftover (arguments : List String)
  deriving DecidableEq, Repr

/-- A misuse in words. -/
def Misuse.message : Misuse → String
  | ambiguous argument candidates =>
    s!"ambiguous option: {argument} could match " ++ String.intercalate ", " candidates
  | noValue s => s!"argument {s.title}: expected one argument"
  | unwantedValue s value =>
    s!"argument {s.title}: ignored explicit argument {Text.quoted value}"
  | badFormat value =>
    s!"argument {Switch.format.title}: invalid choice: {Text.quoted value} " ++
      "(choose from 'table', 'json')"
  | missing switches =>
    "the following arguments are required: " ++
      String.intercalate ", " (switches.map Switch.title)
  | leftover arguments => "unrecognized arguments: " ++ String.intercalate " " arguments

/-- What is printed for a misuse. -/
def Misuse.report (m : Misuse) : String :=
  usage ++ s!"{programName}: error: {m.message}\n"

end Relocation.Command
