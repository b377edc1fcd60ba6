import ChargeLedger.Json.Value

/-!
# Reading JSON text

`Json.parse` reads a whole document; `Json.parseFirst` reads the first value of a
stream and leaves what follows an object or an array unread, as a streaming decoder
does. Both follow RFC 8259 strictly: no trailing commas, no leading zeros, no raw
control characters in strings. An escaped surrogate pair reads as one character; a
surrogate escape that is not half of a pair reads as U+FFFD. A string keeps, beside its
characters, its literal as written between the quotes.

The reader counts its steps: each step reads at least one character before the next
one starts, so twice the length of the text bounds them. Arrays and objects may nest at most
10000 deep; a deeper text is refused.
-/

set_option autoImplicit false

namespace ChargeLedger.Json

def isBlank (c : Char) : Bool := c == ' ' || c == '\t' || c == '\n' || c == '\r'

def skipBlank : List Char → List Char
  | c :: cs => if isBlank c then skipBlank cs else c :: cs
  | [] => []

def spanDigits (cs : List Char) : List Char × List Char :=
  (cs.takeWhile Char.isDigit, cs.dropWhile Char.isDigit)

def scanExponent (cs : List Char) : Option (List Char × List Char) :=
  match cs with
  | e :: r =>
    if e == 'e' || e == 'E' then
      let (sg, r') : List Char × List Char := match r with
        | '+' :: q => (['+'], q)
        | '-' :: q => (['-'], q)
        | q => ([], q)
      let (ds, r'') := spanDigits r'
      if ds.isEmpty then none else some (e :: sg ++ ds, r'')
    else some ([], cs)
  | [] => some ([], [])

def scanFraction (cs : List Char) : Option (List Char × List Char) :=
  match cs with
  | '.' :: r =>
    let (ds, r') := spanDigits r
    if ds.isEmpty then none else some ('.' :: ds, r')
  | _ => some ([], cs)

def scanNumber (cs : List Char) : Option (List Char × List Char) := do
  let (sign, r0) : List Char × List Char := match cs with
    | '-' :: r => (['-'], r)
    | r => ([], r)
  let (ip, r1) ← match r0 with
    | '0' :: r => some (['0'], r)
    | c :: _ => if c.isDigit then some (spanDigits r0) else none
    | [] => none
  let (frac, r2) ← scanFraction r1
  let (ex, r3) ← scanExponent r2
  some (sign ++ ip ++ frac ++ ex, r3)

def hexValue (c : Char) : Option Nat :=
  if '0' ≤ c && c ≤ '9' then some (c.toNat - '0'.toNat)
  else if 'a' ≤ c && c ≤ 'f' then some (c.toNat - 'a'.toNat + 10)
  else if 'A' ≤ c && c ≤ 'F' then some (c.toNat - 'A'.toNat + 10)
  else none

def hex4 (a b c d : Char) : Option Nat := do
  let w ← hexValue a
  let x ← hexValue b
  let y ← hexValue c
  let z ← hexValue d
  some (((w * 16 + x) * 16 + y) * 16 + z)

def escapeOf (e : Char) : Option Char :=
  if e == '"' then some '"' else if e == '\\' then some '\\' else if e == '/' then some '/'
  else if e == 'b' then some (Char.ofNat 8) else if e == 'f' then some (Char.ofNat 12)
  else if e == 'n' then some '\n' else if e == 'r' then some '\r'
  else if e == 't' then some '\t' else none

def isSurrogate (u : Nat) : Bool := 0xD800 ≤ u && u < 0xE000

def unitChar (u : Nat) : Char := if isSurrogate u then '�' else Char.ofNat u

def flushPending (pending : Option Nat) (acc : List Char) : List Char :=
  if pending.isSome then '�' :: acc else acc

def readString : List Char → Option Nat → List Char → Option (String × List Char)
  | [], _, _ => none
  | '"' :: r, p, acc => some (String.ofList (flushPending p acc).reverse, r)
  | '\\' :: 'u' :: a :: b :: c :: d :: r, p, acc =>
    match hex4 a b c d with
    | none => none
    | some u =>
      match p with
      | some hi =>
        if 0xDC00 ≤ u && u < 0xE000 then
          readString r none (Char.ofNat (0x10000 + (hi - 0xD800) * 0x400 + (u - 0xDC00)) :: acc)
        else if 0xD800 ≤ u && u < 0xDC00 then readString r (some u) ('�' :: acc)
        else readString r none (unitChar u :: '�' :: acc)
      | none =>
        if 0xD800 ≤ u && u < 0xDC00 then readString r (some u) acc
        else readString r none (unitChar u :: acc)
  | '\\' :: e :: r, p, acc =>
    match escapeOf e with
    | some c => readString r none (c :: flushPending p acc)
    | none => none
  | c :: r, p, acc => if c.toNat < 0x20 then none else readString r none (c :: flushPending p acc)

mutual

def readValue : Nat → List Char → Option (Json × List Char)
  | 0, _ => none
  | n + 1, cs =>
    match skipBlank cs with
    | '{' :: r =>
      match skipBlank r with
      | '}' :: r' => some (.obj [], r')
      | r' => readMembers n r' []
    | '[' :: r =>
      match skipBlank r with
      | ']' :: r' => some (.arr [], r')
      | r' => readItems n r' []
    | '"' :: r => (readString r none []).map fun p =>
      (.string p.1 (some (String.ofList (r.take (r.length - p.2.length - 1)))), p.2)
    | 't' :: 'r' :: 'u' :: 'e' :: r => some (.bool true, r)
    | 'f' :: 'a' :: 'l' :: 's' :: 'e' :: r => some (.bool false, r)
    | 'n' :: 'u' :: 'l' :: 'l' :: r => some (.null, r)
    | r => (scanNumber r).map fun p => (.num (String.ofList p.1), p.2)

def readItems : Nat → List Char → List Json → Option (Json × List Char)
  | 0, _, _ => none
  | n + 1, cs, acc =>
    match readValue n cs with
    | none => none
    | some (v, r) =>
      match skipBlank r with
      | ',' :: r' => readItems n r' (v :: acc)
      | ']' :: r' => some (.arr (v :: acc).reverse, r')
      | _ => none

def readMembers : Nat → List Char → List (String × Json) → Option (Json × List Char)
  | 0, _, _ => none
  | n + 1, cs, acc =>
    match skipBlank cs with
    | '"' :: r =>
      match readString r none [] with
      | none => none
      | some (k, r1) =>
        match skipBlank r1 with
        | ':' :: r2 =>
          match readValue n r2 with
          | none => none
          | some (v, r3) =>
            match skipBlank r3 with
            | ',' :: r4 => readMembers n r4 ((k, v) :: acc)
            | '}' :: r4 => some (.obj ((k, v) :: acc).reverse, r4)
            | _ => none
        | _ => none
    | _ => none

end

mutual

def depth : Json → Nat
  | .arr xs => 1 + itemsDepth xs
  | .obj fs => 1 + membersDepth fs
  | _ => 0

def itemsDepth : List Json → Nat
  | [] => 0
  | x :: xs => max (depth x) (itemsDepth xs)

def membersDepth : List (String × Json) → Nat
  | [] => 0
  | (_, v) :: fs => max (depth v) (membersDepth fs)

end

def maxDepth : Nat := 10000

def readFront (cs : List Char) : Option (Json × List Char) :=
  match readValue (2 * cs.length + 4) cs with
  | some (v, r) => if depth v ≤ maxDepth then some (v, r) else none
  | none => none

/-- Reads a whole document: one value with only blanks around it. -/
def parse (s : String) : Option Json :=
  match readFront s.toList with
  | some (v, r) => if skipBlank r = [] then some v else none
  | none => none

/-- Reads the first value of a stream. After an object or an array the rest is left unread;
after any other value the next character, if there is one, must be a blank, since it is
what ends the value. -/
def parseFirst (s : String) : Option Json :=
  match readFront s.toList with
  | some (.obj fs, _) => some (.obj fs)
  | some (.arr xs, _) => some (.arr xs)
  | some (v, r) =>
    match r with
    | [] => some v
    | c :: _ => if isBlank c then some v else none
  | none => none

end ChargeLedger.Json
