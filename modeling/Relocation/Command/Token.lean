import Relocation.Command.Misuse
import Relocation.Text.Digit

/-!
# Arguments told apart

An argument of the command is a switch or a plain word, and a switch may have a value attached to
it. `Token.classify` tells what one argument is, `Token.classifyAll` does so for all of them. A long
switch may be shortened as long as it is clear which one is meant.
-/

namespace Relocation.Command

/-- An argument, told for what it is. -/
inductive Token where
  /-- a value, or a word that belongs to nothing -/
  | plain (argument : String)
  /-- a switch, with the value attached to it -/
  | switch (s : Switch) (short : Bool) (attached : Option String)
  /-- something that looks like a switch and is none -/
  | unknown (argument : String)
  /-- the mark after which there are no switches -/
  | separator
  deriving DecidableEq, Repr

namespace Token

/-- The mark after which there are no switches. -/
def mark : String := "--"

/-- Whether a spelling has one dash only. -/
def isShort (spelling : String) : Bool :=
  !mark.toList.isPrefixOf spelling.toList

/-- The parts of an argument before and after its first equals sign. -/
def splitValue (argument : List Char) : List Char × Option String :=
  match argument.dropWhile (· != '=') with
  | [] => (argument, none)
  | _ :: value => (argument.takeWhile (· != '='), some (.ofList value))

/-- The switches that an argument may shorten, with their spellings and the values attached: long
switches by their beginnings, short ones with the value right after them. -/
def candidates (argument : List Char) : List (String × Token) :=
  if mark.toList.isPrefixOf argument then
    let (start, value) := splitValue argument
    Switch.table.filterMap fun (spelling, s) =>
      if start.isPrefixOf spelling.toList then
        some (spelling, .switch s (isShort spelling) value)
      else none
  else
    Switch.table.filterMap fun (spelling, s) =>
      if spelling.toList = argument.take 2 then
        some (spelling, .switch s true (some (.ofList (argument.drop 2))))
      else none

/-- Whether some characters are decimal digits, and at least one. -/
def areDigits (text : List Char) : Bool :=
  !text.isEmpty && text.all Text.isDigit

/-- Whether an argument is a negative number: digits, with or without a point before the last
ones. A line feed at its end does not count. -/
def isNegativeNumber (argument : List Char) : Bool :=
  match argument with
  | '-' :: rest =>
    let number := if rest.getLast? = some '\n' then rest.dropLast else rest
    areDigits number ||
      match number.dropWhile Text.isDigit with
      | '.' :: decimals => areDigits decimals
      | _ => false
  | _ => false

/-- Tell what an argument is. -/
def classify (argument : String) : Except Misuse Token :=
  match argument.toList with
  | '-' :: rest =>
    match Switch.table.lookup argument with
    | some s => .ok (.switch s (isShort argument) none)
    | none =>
      if rest.isEmpty then .ok (.plain argument)
      else
        let (start, value) := splitValue argument.toList
        match value, Switch.table.lookup (String.ofList start) with
        | some value, some s => .ok (.switch s (isShort (String.ofList start)) (some value))
        | _, _ =>
          match candidates argument.toList with
          | [] =>
            if isNegativeNumber argument.toList || rest.contains ' ' then .ok (.plain argument)
            else .ok (.unknown argument)
          | [(_, token)] => .ok token
          | several => .error (.ambiguous argument (several.map Prod.fst))
  | _ => .ok (.plain argument)

/-- Tell what all arguments are. -/
def classifyAll : List String → Except Misuse (List Token)
  | [] => .ok []
  | argument :: rest =>
    if argument = mark then .ok (.separator :: rest.map .plain)
    else do
      let token ← classify argument
      let tokens ← classifyAll rest
      return token :: tokens

end Token

end Relocation.Command
