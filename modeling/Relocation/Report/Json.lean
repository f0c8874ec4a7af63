import Relocation.Text.Hex

/-!
# JSON documents

`Json` is the part of JSON that reports use: texts, integers, lists and objects. `Json.document`
writes a value over several lines, with two blanks per level, the members of every object in
ascending order of their keys, and ASCII characters only.
-/

namespace Relocation

/-- A JSON value without fractions, booleans and null. -/
inductive Json where
  | text (s : String)
  | number (n : Int)
  | list (items : List Json)
  | object (members : List (String × Json))

namespace Json

/-! ## Key order -/

mutual

/-- The same value with the members of every object in ascending order of their keys. -/
def sorted : Json → Json
  | text s => text s
  | number n => number n
  | list items => list (sortedItems items)
  | object members => object ((sortedMembers members).mergeSort fun a b => a.1 ≤ b.1)

/-- The same for the items of a list. -/
def sortedItems : List Json → List Json
  | [] => []
  | item :: rest => item.sorted :: sortedItems rest

/-- The same for the values of an object, whose own members stay in place. -/
def sortedMembers : List (String × Json) → List (String × Json)
  | [] => []
  | (key, value) :: rest => (key, value.sorted) :: sortedMembers rest

end

/-! ## Texts -/

/-- A sixteen-bit unit as an escape. -/
def escapeUnit (unit : Nat) : List Char :=
  '\\' :: 'u' :: Text.hexDigits 4 unit

/-- A code point as one escape, or as a surrogate pair beyond sixteen bits. -/
def escapeCode (code : Nat) : List Char :=
  if code < 0x10000 then escapeUnit code
  else
    escapeUnit (0xd800 + (code - 0x10000) / 0x400) ++
      escapeUnit (0xdc00 + (code - 0x10000) % 0x400)

/-- A character of a text as it is written: printable ASCII stays, the rest is escaped. -/
def escape (c : Char) : List Char :=
  match c with
  | '"' => ['\\', '"']
  | '\\' => ['\\', '\\']
  | '\n' => ['\\', 'n']
  | '\r' => ['\\', 'r']
  | '\t' => ['\\', 't']
  | '\x08' => ['\\', 'b']
  | '\x0c' => ['\\', 'f']
  | c => if ' ' ≤ c ∧ c ≤ '~' then [c] else escapeCode c.toNat

/-- A text between quotes. -/
def quote (s : String) : List Char :=
  '"' :: s.toList.flatMap escape ++ ['"']

/-! ## Layout -/

/-- A line end and the indentation of a level. -/
def newline (level : Nat) : List Char :=
  '\n' :: List.replicate (2 * level) ' '

mutual

/-- A value as it is written at a level of nesting. -/
def write (level : Nat) : Json → List Char
  | text s => quote s
  | number n => (toString n).toList
  | list [] => ['[', ']']
  | list (item :: rest) =>
    '[' :: newline (level + 1) ++ item.write (level + 1) ++ writeItems (level + 1) rest ++
      newline level ++ [']']
  | object [] => ['\x7b', '\x7d']
  | object ((key, value) :: rest) =>
    '\x7b' :: newline (level + 1) ++ quote key ++ [':', ' '] ++ value.write (level + 1) ++
      writeMembers (level + 1) rest ++ newline level ++ ['\x7d']

/-- The items after the first one, each after a comma on a line of its own. -/
def writeItems (level : Nat) : List Json → List Char
  | [] => []
  | item :: rest => ',' :: newline level ++ item.write level ++ writeItems level rest

/-- The members after the first one, each after a comma on a line of its own. -/
def writeMembers (level : Nat) : List (String × Json) → List Char
  | [] => []
  | (key, value) :: rest =>
    ',' :: newline level ++ quote key ++ [':', ' '] ++ value.write level ++
      writeMembers level rest

end

/-- A value as a document. -/
def document (j : Json) : String :=
  .ofList (j.sorted.write 0)

end Json

end Relocation
