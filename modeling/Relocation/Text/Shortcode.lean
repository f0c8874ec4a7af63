import Relocation.Picture
import Relocation.Text.CharSet
import Relocation.Text.Lower

/-!
# Pictures by short name

A console shows `:name:` as the picture of that name, with `-emoji` or `-text` after the name to
ask for one of its two looks. `Shortcode.expand` replaces the codes of a text from left to right.
A code whose name stands for no picture is kept, and what it covers takes no part in later codes.
-/

namespace Relocation.Shortcode

/-- The looks that can be asked for, with the character that selects each. -/
def looks : List (String × Char) :=
  [("-emoji", '\ufe0f'), ("-text", '\ufe0e')]

/-- The shortcode after an opening colon. -/
structure Code where
  /-- the name as written -/
  name : List Char
  /-- the look asked for -/
  look : Option (String × Char)
  /-- the text after the closing colon -/
  rest : List Char

/-- What follows a given start of a text. -/
def after? (start : List Char) (text : List Char) : Option (List Char) :=
  if start.isPrefixOf text then some (text.drop start.length) else none

/-- The end of a code, if the text starts with one: the look, if any, and what follows. -/
def ending? (text : List Char) : Option (Option (String × Char) × List Char) :=
  (looks.findSome? fun look => (after? (look.1.toList ++ [':']) text).map (some look, ·)) <|>
    (after? [':'] text).map (none, ·)

/-- Read the code after an opening colon, with the shortest possible name, which holds no white
space. `seen` is the part of the name already read, the last character first. -/
def read? (seen : List Char) : List Char → Option Code
  | [] => none
  | c :: rest =>
    match ending? (c :: rest) with
    | some (look, rest) => some ⟨seen.reverse, look, rest⟩
    | none => if CharSet.blank.contains c then none else read? (c :: seen) rest

/-- The picture of a code, whose name may be written in upper or lower case. -/
def picture? (code : Code) : Option String :=
  Picture.find? (Text.lower (.ofList code.name))

/-- What a code is shown as. -/
def shown (code : Code) : List Char :=
  match picture? code with
  | some picture => picture.toList ++ (code.look.map fun look => look.2).toList
  | none =>
    ':' :: code.name ++ (code.look.map fun look => look.1.toList).getD [] ++ [':']

/-- Replace codes, at most one for each element of `rounds`. -/
def expandFor : (rounds : List Char) → List Char → List Char
  | _ :: rounds, ':' :: rest =>
    match read? [] rest with
    | some code => shown code ++ expandFor rounds code.rest
    | none => ':' :: expandFor rounds rest
  | _ :: rounds, c :: rest => c :: expandFor rounds rest
  | _, text => text

/-- A text with its shortcodes replaced. Every round takes at least one character, so as many
rounds as characters are enough. -/
def expand (text : List Char) : List Char :=
  expandFor text text

end Relocation.Shortcode
