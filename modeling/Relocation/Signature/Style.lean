import Relocation.Pattern

/-!
# Declaration styles

The ways in which a source line can declare a function. Every style is a `Pattern` that captures
the declared name; `Style.all` lists them in the order in which they are tried on a line.
-/

namespace Relocation

/-- A way to declare a function on one line. -/
inductive Style where
  /-- modifiers, a name with parameters, then a brace or an arrow -/
  | braceOrArrow
  /-- a variable that is given an arrow function -/
  | assignedArrow
  /-- a Java method -/
  | javaMethod
  /-- a C# method -/
  | csharpMethod
  /-- a Python function -/
  | pythonDef
  /-- a C or C++ function -/
  | cFunction
  /-- a Go function or method -/
  | goFunc
  deriving DecidableEq, Repr

namespace Style

open Pattern (char text oneOf opt many)

/-! ## Parts that styles share -/

/-- Any amount of white space, also none. -/
def gap : Pattern :=
  .run .blank

/-- At least one white space character. -/
def space : Pattern :=
  .someOf .blank

/-- An identifier. -/
def word : Pattern :=
  .someOf .word

/-- The declared name. -/
def name : Pattern :=
  .capture word

/-- One of several key words. -/
def keyword (words : List String) : Pattern :=
  oneOf (words.map text)

/-- A parameter list: everything up to the first closing parenthesis. -/
def parameters : Pattern :=
  char '(' ++ .run (.allBut [')']) ++ char ')'

/-- The brace that opens a body. -/
def openBrace : Pattern :=
  char '\x7b'

/-- A type argument list: anything but nothing between angle brackets. -/
def typeArguments : Pattern :=
  char '<' ++ .someOf (.allBut ['>']) ++ char '>'

/-- At least one of several modifiers, each with white space after it. -/
def modifiers (words : List String) : Pattern :=
  keyword words ++ space ++ many (keyword words ++ space)

/-- The modifiers of a Java method. -/
def javaModifiers : List String :=
  ["public", "private", "protected", "static", "final", "abstract", "synchronized", "native"]

/-- The modifiers of a C# method. -/
def csharpModifiers : List String :=
  ["public", "private", "protected", "internal", "static", "virtual", "override", "abstract",
    "sealed", "async"]

/-! ## The styles -/

/-- The text that a style recognises, with the declared name captured. -/
def pattern : Style → Pattern
  | braceOrArrow =>
    many (.alt (text "function" ++ space)
        (keyword ["public", "private", "protected", "static", "async"] ++ space)) ++
      name ++ gap ++ parameters ++ gap ++ .alt openBrace (text "=>")
  | assignedArrow =>
    keyword ["const", "let", "var"] ++ space ++ name ++ gap ++ char '=' ++ gap ++
      opt (text "async" ++ gap) ++ parameters ++ gap ++ text "=>"
  | javaMethod =>
    modifiers javaModifiers ++ opt (typeArguments ++ space) ++
      (word ++ opt typeArguments ++ many (text "[]")) ++ space ++ name ++ gap ++ parameters ++
      gap ++ opt (text "throws" ++ space ++ .someOf exceptionList) ++ gap ++ openBrace
  | csharpMethod =>
    modifiers csharpModifiers ++ word ++ space ++ name ++ gap ++ parameters ++ gap ++ openBrace
  | pythonDef =>
    text "def" ++ space ++ name ++ gap ++ parameters ++ gap ++ char ':'
  | cFunction =>
    opt (keyword ["static", "inline", "virtual", "explicit"]) ++ gap ++ word ++
      .alt (gap ++ char '*') space ++ name ++ gap ++ parameters ++ gap ++ opt (text "const") ++
      gap ++ openBrace
  | goFunc =>
    text "func" ++ space ++ opt (char '(' ++ .someOf (.allBut [')']) ++ char ')' ++ space) ++
      name ++ gap ++ parameters ++ gap ++ opt (.run (.allBut ['\x7b'])) ++ openBrace
where
  /-- The characters of a list of exception types. -/
  exceptionList : CharSet :=
    .ofRanges (CharSet.word.ranges ++ CharSet.blank.ranges ++ [(',', ',')])

/-- The public name of a style. -/
def label : Style → String
  | braceOrArrow => "brace_or_arrow"
  | assignedArrow => "assigned_arrow"
  | javaMethod => "java_method"
  | csharpMethod => "csharp_method"
  | pythonDef => "python_def"
  | cFunction => "c_function"
  | goFunc => "go_func"

/-- All styles, in the order in which they are tried. -/
def all : List Style :=
  [braceOrArrow, assignedArrow, javaMethod, csharpMethod, pythonDef, cFunction, goFunc]

theorem mem_all (style : Style) : style ∈ all := by
  cases style <;> decide

end Style

/-! ## The name a line declares -/

/-- The name captured by the first pattern of a table that matches a line. -/
def firstName (table : List Pattern) (line : List Char) : Option (List Char) :=
  table.findSome? fun p => (p.search line).bind fun hit =>
    hit.captured.map fun span => span.slice line

/-- The name of the function that a line declares, if it declares one. -/
def declaredName (line : List Char) : Option (List Char) :=
  firstName (Style.all.map Style.pattern) line

end Relocation
