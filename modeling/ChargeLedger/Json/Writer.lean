import ChargeLedger.Json.Value

/-!
# Writing JSON text

Compact text: no blanks between tokens. A string escapes the quote, the backslash,
the control characters and the two line separators U+2028 and U+2029; `<`, `>` and
`&` stand as they are. `Json.canonical` puts every object in the form an answer
takes: members sorted by key, octet by octet, and of two members with one key only
the later kept.
-/

set_option autoImplicit false

namespace ChargeLedger.Json

def hexDigit (n : Nat) : Char :=
  if n < 10 then Char.ofNat ('0'.toNat + n) else Char.ofNat ('a'.toNat + n - 10)

def hex4Text (n : Nat) : String :=
  String.ofList [hexDigit (n / 4096 % 16), hexDigit (n / 256 % 16), hexDigit (n / 16 % 16),
    hexDigit (n % 16)]

def escapeChar (c : Char) : String :=
  if c == '"' then "\\\""
  else if c == '\\' then "\\\\"
  else if c == '\n' then "\\n"
  else if c == '\r' then "\\r"
  else if c == '\t' then "\\t"
  else if c.toNat < 0x20 || c.toNat == 0x2028 || c.toNat == 0x2029 then "\\u" ++ hex4Text c.toNat
  else c.toString

def quote (s : String) : String :=
  "\"" ++ String.join (s.toList.map escapeChar) ++ "\""

mutual

def write (asWritten : Bool) : Json → String
  | .null => "null"
  | .bool b => if b then "true" else "false"
  | .num t => t
  | .string s w =>
    match asWritten, w with
    | true, some t => "\"" ++ t ++ "\""
    | _, _ => quote s
  | .arr xs => "[" ++ writeItems asWritten xs ++ "]"
  | .obj fs => "\x7b" ++ writeMembers asWritten fs ++ "\x7d"

def writeItems (asWritten : Bool) : List Json → String
  | [] => ""
  | [x] => write asWritten x
  | x :: xs => write asWritten x ++ "," ++ writeItems asWritten xs

def writeMembers (asWritten : Bool) : List (String × Json) → String
  | [] => ""
  | [(k, v)] => quote k ++ ":" ++ write asWritten v
  | (k, v) :: fs => quote k ++ ":" ++ write asWritten v ++ "," ++ writeMembers asWritten fs

end

/-- Compact JSON text of a value, every string written afresh: the text of an answer. -/
def render (j : Json) : String := write false j

def renderAsWritten (j : Json) : String := write true j

def keepLast : List (String × Json) → List (String × Json)
  | [] => []
  | (k, v) :: fs => if fs.any (fun p => p.1 == k) then keepLast fs else (k, v) :: keepLast fs

def sortMembers (fs : List (String × Json)) : List (String × Json) :=
  fs.mergeSort (fun a b => decide (a.1 ≤ b.1))

mutual

/-- Every object with its keys sorted and made unique, at every depth. -/
def canonical : Json → Json
  | .arr xs => .arr (canonicalItems xs)
  | .obj fs => .obj (sortMembers (keepLast (canonicalMembers fs)))
  | j => j

def canonicalItems : List Json → List Json
  | [] => []
  | x :: xs => canonical x :: canonicalItems xs

def canonicalMembers : List (String × Json) → List (String × Json)
  | [] => []
  | (k, v) :: fs => (k, canonical v) :: canonicalMembers fs

end

end ChargeLedger.Json
