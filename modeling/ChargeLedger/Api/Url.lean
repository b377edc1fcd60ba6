import ChargeLedger.Text.Utf8
import ChargeLedger.Text.Quoted

/-!
# Request paths

A request target is a path, then optionally `?` and a query, then optionally `#` and a
fragment; only the path routes a request. The path is percent-decoded octet by octet: `%`
and two hex digits stand for one octet. A target cannot be read when the text before its
fragment holds a control character, or when its path or its fragment holds a `%` not
followed by two hex digits; the query is not checked. A failure names the URL it was found
in: the whole URL for the fragment, the URL without its fragment otherwise. The decoded
octets are read as UTF-8, an invalid sequence standing for the replacement character.

Writing a path back escapes every octet that is not a letter, a digit or one of
`- _ . ~ $ & + , / : ; = @` as `%` and two upper-case hex digits.

Behind a proxy that forwards a path prefix, a redirect names the prefix (cleaned, and cut down
to letters, digits, `/` and `-`) before the path.
-/

set_option autoImplicit false

namespace ChargeLedger

namespace Url

def hexValue (c : UInt8) : Option Nat :=
  if 0x30 ≤ c && c ≤ 0x39 then some (c.toNat - 0x30)
  else if 0x41 ≤ c && c ≤ 0x46 then some (c.toNat - 0x41 + 10)
  else if 0x61 ≤ c && c ≤ 0x66 then some (c.toNat - 0x61 + 10)
  else none

def unescape : List UInt8 → Except (List UInt8) (List UInt8)
  | [] => .ok []
  | 0x25 :: a :: b :: rest =>
    match hexValue a, hexValue b with
    | some x, some y => (unescape rest).map ((x * 16 + y).toUInt8 :: ·)
    | _, _ => .error [0x25, a, b]
  | 0x25 :: rest => .error (0x25 :: rest)
  | c :: rest => (unescape rest).map (c :: ·)

def isControl (c : UInt8) : Bool := c < 0x20 || c == 0x7F

/-- Why a request target cannot be read. -/
inductive TargetError where
  /-- The text before the fragment holds a control character. -/
  | control
  /-- A `%` in the path is not followed by two hex digits; the octets from it on, at most
  three. -/
  | badEscape (octets : List UInt8)
  /-- A `%` in the fragment is not followed by two hex digits. -/
  | badFragment (octets : List UInt8)
  deriving DecidableEq, Repr

def TargetError.reason : TargetError → String
  | .control => "net/url: invalid control character in URL"
  | .badEscape e | .badFragment e => "invalid URL escape " ++ Quoted.quoteOctets e

def TargetError.message (e : TargetError) (host target : String) : String :=
  let url := match e with
    | .badFragment _ => host ++ target
    | _ => host ++ Utf8.toText ((Utf8.octets target).takeWhile (· != 0x23))
  "parse " ++ Quoted.quote url ++ ": " ++ e.reason

/-- A request target as read: its decoded path, its query with the `?` or empty, and its
fragment as written, without the `#`. -/
structure Target where
  path : String
  query : String := ""
  fragment : List UInt8 := []
  deriving Inhabited

def readTarget (target : String) : Except TargetError Target :=
  let bs := Utf8.octets target
  let beforeFragment := bs.takeWhile (· != 0x23)
  let fragment := (bs.dropWhile (· != 0x23)).drop 1
  if beforeFragment.any isControl then .error .control
  else
    match unescape (beforeFragment.takeWhile (· != 0x3F)), unescape fragment with
    | .error e, _ => .error (.badEscape e)
    | .ok _, .error e => .error (.badFragment e)
    | .ok path, .ok _ =>
      .ok ⟨Utf8.toText path, Utf8.toText (beforeFragment.dropWhile (· != 0x3F)), fragment⟩

def keeps (c : UInt8) : Bool :=
  (0x41 ≤ c && c ≤ 0x5A) || (0x61 ≤ c && c ≤ 0x7A) || (0x30 ≤ c && c ≤ 0x39) ||
    [0x2D, 0x5F, 0x2E, 0x7E, 0x24, 0x26, 0x2B, 0x2C, 0x2F, 0x3A, 0x3B, 0x3D, 0x40].contains c

def hexDigit (n : Nat) : Char :=
  if n < 10 then Char.ofNat ('0'.toNat + n) else Char.ofNat ('A'.toNat + n - 10)

def escapeBy (keep : UInt8 → Bool) (bs : List UInt8) : String :=
  String.ofList <| bs.flatMap fun c =>
    if keep c then [Char.ofNat c.toNat]
    else ['%', hexDigit (c.toNat / 16), hexDigit (c.toNat % 16)]

def escapePath (p : String) : String := escapeBy keeps (Utf8.octets p)

def fragmentKeeps (c : UInt8) : Bool :=
  keeps c || [0x3F, 0x21, 0x28, 0x29, 0x2A].contains c

def fragmentWritten (c : UInt8) : Bool :=
  fragmentKeeps c || [0x25, 0x27, 0x5B, 0x5D].contains c

def fragmentSuffix (raw : List UInt8) : String :=
  if raw.isEmpty then ""
  else if raw.all fragmentWritten then "#" ++ Utf8.toText raw
  else
    match unescape raw with
    | .ok decoded => "#" ++ escapeBy fragmentKeeps decoded
    | .error _ => "#" ++ Utf8.toText raw

/-! ## Paths behind a proxy -/

def cleanElements (rooted : Bool) : List String → List String → List String
  | [], acc => acc
  | e :: es, acc =>
    if e == "" || e == "." then cleanElements rooted es acc
    else if e == ".." then
      match acc with
      | top :: rest =>
        if top == ".." then cleanElements rooted es (".." :: acc) else cleanElements rooted es rest
      | [] => cleanElements rooted es (if rooted then [] else [".."])
    else cleanElements rooted es (e :: acc)

def cleanPath (p : String) : String :=
  if p.isEmpty then "."
  else
    let rooted := p.startsWith "/"
    let body := "/".intercalate (cleanElements rooted (p.splitOn "/") []).reverse
    if rooted then "/" ++ body else if body.isEmpty then "." else body

def prefixKeeps (c : Char) : Bool := c.isAlphanum || c == '/' || c == '-'

def singleSlashes : List Char → List Char
  | [] => []
  | c :: rest =>
    match singleSlashes rest with
    | '/' :: more => if c == '/' then '/' :: more else c :: '/' :: more
    | more => c :: more

def forwardedPath (pre path : String) : String :=
  let cleaned := cleanPath pre
  if cleaned == "." then path
  else String.ofList (singleSlashes (cleaned.toList.filter prefixKeeps)) ++ "/" ++ path

end Url

end ChargeLedger
