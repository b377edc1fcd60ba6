/-!
# White space

The characters Unicode counts as white space: the ASCII blanks (tab, line feed, vertical
tab, form feed, carriage return, space), next line U+0085 and the space separators
(no-break space, ogham space, the spaces of U+2000 to U+200A, the narrow no-break
space, the medium mathematical space, the ideographic space) with the line and
paragraph separators. `trim` drops them at both ends of a text.
-/

set_option autoImplicit false

namespace ChargeLedger.Space

def isSpace (c : Char) : Bool :=
  let n := c.toNat
  (0x09 ≤ n && n ≤ 0x0D) || n == 0x20 || n == 0x85 || n == 0xA0 || n == 0x1680 ||
    (0x2000 ≤ n && n ≤ 0x200A) || n == 0x2028 || n == 0x2029 || n == 0x202F ||
    n == 0x205F || n == 0x3000

def trimList (cs : List Char) : List Char :=
  ((cs.dropWhile isSpace).reverse.dropWhile isSpace).reverse

/-- A text without white space at either end. -/
def trim (s : String) : String := String.ofList (trimList s.toList)

end ChargeLedger.Space
