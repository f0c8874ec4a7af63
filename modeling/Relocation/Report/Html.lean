/-!
# HTML pages

A page that shows a console text as it is, in letters of equal width. `Html.document` writes it and
`Html.shown?` reads the text back.

The markup is a form of this library's own. A console that exports its text as HTML chooses another
one, with colours; what the two have in common, and all that is meant here, is the text that a
reader of the page sees.
-/

namespace Relocation.Html

/-- The characters that have a meaning in HTML and what is written for them. -/
def entities : List (Char × String) :=
  [('&', "&amp;"), ('<', "&lt;"), ('>', "&gt;"), ('"', "&quot;"), ('\'', "&#x27;")]

/-- A character as it is written. -/
def escape (c : Char) : List Char :=
  match entities.lookup c with
  | some entity => entity.toList
  | none => [c]

/-- What stands before the text of a page. -/
def opening : String :=
  "<!DOCTYPE html>\n<html>\n<head>\n<meta charset=\"UTF-8\">\n</head>\n<body>\n" ++
  "<pre style=\"font-family:monospace\"><code style=\"font-family:inherit\">"

/-- What stands after the text of a page. -/
def closing : String :=
  "</code></pre>\n</body>\n</html>\n"

/-- The page that shows a text. It stands for any page that shows this text: nothing but what
`shown?` reads off it is meant. -/
def document (text : String) : String :=
  opening ++ .ofList (text.toList.flatMap escape) ++ closing

/-- The character whose entity a text starts with, and what follows. -/
def entity? (text : List Char) : Option (Char × List Char) :=
  entities.findSome? fun (c, entity) =>
    if entity.toList.isPrefixOf text then some (c, text.drop entity.length) else none

/-- Read a text up to the first markup, at most one character for each element of `rounds`. -/
def shownFor : (rounds : List Char) → List Char → List Char
  | _ :: rounds, c :: rest =>
    if c = '<' then []
    else
      match entity? (c :: rest) with
      | some (e, rest) => e :: shownFor rounds rest
      | none => c :: shownFor rounds rest
  | _, _ => []

/-- The text that a page shows, if it is a page of this form; pages with other markup are not
read. -/
def shown? (page : String) : Option String :=
  let page := page.toList
  if opening.toList.isPrefixOf page then
    let body := page.drop opening.length
    some (.ofList (shownFor body body))
  else none

end Relocation.Html
