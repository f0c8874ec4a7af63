import Relocation.Text.Trim

/-!
# Moving ignore lines

An ignore file speaks of paths below its own directory. `Ignore.rebase` turns one of its lines into
one that speaks of the same paths relative to a directory further up.
-/

namespace Relocation.Ignore

/-- Move a line up from the ignore file in the directory `base`. A pattern with a slash inside or in
front is tied to the directory, any other holds at every depth below it. Blank lines and comments
stay as they are, and so do all lines when there is no directory in between. -/
def rebase (base line : List Char) : List Char :=
  let text := Text.trimStart .blank line
  if base.isEmpty || text.isEmpty || text.head? == some '#' then line
  else
    let (mark, pattern) := match line with
      | '!' :: rest => (['!'], rest)
      | _ => ([], line)
    let slash : CharSet := .single '/'
    if (Text.trimEnd slash pattern).contains '/' then
      mark ++ '/' :: base ++ '/' :: Text.trimStart slash pattern
    else mark ++ base ++ ['/', '*', '*', '/'] ++ pattern

end Relocation.Ignore
