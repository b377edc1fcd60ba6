import ChargeLedger.Text.Space
import ChargeLedger.Text.Case
import ChargeLedger.Text.Spelling

/-!
# Regime slugs

A regime is named in a path by its slug, and the path's text is turned into a slug first:
it is trimmed, `&` becomes `and` and `@` becomes `at`, straight quotes and the right single
quote are dropped, every character is written by its ASCII spelling (`Spelling.ofChar`:
accented Latin letters as their base letters, other alphabets and syllables in Latin letters,
full-width forms as their ASCII forms, and much else as nothing), letters go to lower case,
every run of characters other than letters, digits, `-` and `_` becomes one `-`, runs of `-`
become one, and `-` and `_` are trimmed from both ends.
-/

set_option autoImplicit false

namespace ChargeLedger

namespace Slug

def keeps (c : Char) : Bool := c.isAlphanum || c == '-' || c == '_'

def dashRuns : List Char → List Char
  | [] => []
  | c :: rest =>
    let d := if keeps c then c else '-'
    match dashRuns rest with
    | '-' :: more => if d == '-' then '-' :: more else d :: '-' :: more
    | more => d :: more

def make (s : String) : String :=
  let trimmed := Space.trim s
  let spelled := String.join (trimmed.toList.map fun c =>
    if c == '&' then "and" else if c == '@' then "at"
    else if c == '"' || c == '\'' || c == '\u2019' then "" else Spelling.ofChar c)
  let lowered := (Case.lowerText spelled).toList
  let edge (c : Char) : Bool := c == '-' || c == '_'
  String.ofList (((dashRuns lowered).dropWhile edge).reverse.dropWhile edge).reverse

end Slug

end ChargeLedger
