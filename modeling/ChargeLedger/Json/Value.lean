/-!
# JSON values

A JSON document as the ledger reads and writes it. Objects keep their members in
the order they were written, duplicates included, because a reader that applies
members one after another can tell the orders apart. Numbers keep their literal
text, and a string read from text keeps its literal beside its characters: a decimal
field reads that literal exactly, escapes and all, while every other reader sees the
characters.
-/

set_option autoImplicit false

namespace ChargeLedger

/-- A JSON value. A number is held as its literal text; a string as its characters and,
when it was read from text, the literal written between its quotes. -/
inductive Json where
  | null
  | bool (b : Bool)
  | num (text : String)
  | string (s : String) (written : Option String)
  | arr (items : List Json)
  | obj (fields : List (String × Json))
  deriving Inhabited

namespace Json

def str (s : String) : Json := .string s none

def int (n : Int) : Json := .num (toString n)

def nat (n : Nat) : Json := .num (toString n)

def optStr : Option String → Json
  | some s => str s
  | none => .null

def field? (j : Json) (key : String) : Option Json :=
  match j with
  | .obj fs => (fs.reverse.find? (fun p => p.1 == key)).map Prod.snd
  | _ => none

def kindWord : Json → String
  | .null => "null"
  | .bool _ => "bool"
  | .num _ => "number"
  | .string _ _ => "string"
  | .arr _ => "array"
  | .obj _ => "object"

end Json

end ChargeLedger
