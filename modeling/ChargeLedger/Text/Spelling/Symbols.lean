import ChargeLedger.Text.Spelling.Block

/-!
# ASCII spellings of punctuation and symbols

Punctuation is written as the ASCII punctuation it resembles, a number form as its digits or
letters, and most other symbols as nothing.
-/

set_option autoImplicit false

namespace ChargeLedger.Spelling

def punctuation : Block where
  first := 0x2000
  spellings :=
    [" ", " ", " ", " ", " ", " ", " ", " ", " ", " ", " ", "", "", "", "", "", "-", "-", "-", "-",
      "--", "--", "||", "_", "'", "'", ",", "'", "\"", "\"", ",,", "\"", "+", "++", "*", "*>", ".",
      "..", "...", ".", "\n", "\n\n", "", "", "", "", "", " ", "%0", "%00", "'", "''", "'''", "`",
      "``", "```", "^", "<", ">", "*", "!!", "!?", "-", "_", "-", "^", "***", "--", "/", "-[", "]-",
      "", "?!", "!?", "7", "PP", "(]", "[)"]

def scripts : Block where
  first := 0x2070
  spellings :=
    ["0", "", "", "", "4", "5", "6", "7", "8", "9", "+", "-", "=", "(", ")", "n", "0", "1", "2",
      "3", "4", "5", "6", "7", "8", "9", "+", "-", "=", "(", ")"]

def currency : Block where
  first := 0x20A0
  spellings :=
    ["ECU", "CL", "Cr", "FF", "L", "mil", "N", "Pts", "Rs", "W", "NS", "D", "EU", "K", "T", "Dr"]

def letterlike : Block where
  first := 0x212A
  spellings :=
    ["K", "AA"]

def numberForms : Block where
  first := 0x2153
  spellings :=
    [" 1/3 ", " 2/3 ", " 1/5 ", " 2/5 ", " 3/5 ", " 4/5 ", " 1/6 ", " 5/6 ", " 1/8 ", " 3/8 ",
      " 5/8 ", " 7/8 ", " 1/", "I", "II", "III", "IV", "V", "VI", "VII", "VIII", "IX", "X", "XI",
      "XII", "L", "C", "D", "M", "i", "ii", "iii", "iv", "v", "vi", "vii", "viii", "ix", "x", "xi",
      "xii", "l", "c", "d", "m", "(D", "D)", "((|))", ")"]

def arrows : Block where
  first := 0x2190
  spellings :=
    ["-", "|", "-", "|", "-", "|", "\\", "/", "\\", "/", "-", "-", "~", "~", "-", "|", "-", "|",
      "-", "-", "-", "|", "-", "|", "|", "-", "-", "-", "-", "-", "-", "|", "|", "|", "|", "|", "|",
      "|", "^", "V", "\\", "=", "V", "^", "-", "-", "|", "|", "-", "-", "|", "|", "=", "|", "=",
      "=", "|", "=", "|", "=", "=", "=", "=", "=", "=", "|", "=", "|", "=", "|", "=", "|", "=", "|",
      "=", "|", "=", "|", "=", "|", "-", "|", "-", "|", "-", "|", "-", "|", "-", "|", "-"]

def mathematical : Block where
  first := 0x2212
  spellings :=
    ["-", "", "", "/", "\\", "*", "", "", "", "", "", "", "", "", "", "", "", "|", "", "||", "", "",
      "", "", "", "", "", "", "", "", "", "", "", "", "", "", ":", "", "", "", "", "", "~", "", "",
      "", "", "", "", "", "", "", "", "", "", "", "", "", "", "", "", "", "", "", "", "", "", "",
      "", "", "", "", "", "", "", "", "", "", "", "", "", "", "<=", ">=", "<=", ">=", "", "", "<<",
      ">>", "", "", "", "", "", "", "", "", "", "", "", "", "", "", "", "", "", "", "", "", "", "",
      "", "", "", "", "", "", "", "", "", "", "", "", "", "", "", "", "", "", "", "", "", "", "",
      "", "", "", "", "", "", "", "", "", "", "", "", "", "", "", "", "", "", "", "", "", "", "",
      "", "", "", "", "", "", "", "", "", "", "", "", "", "", "", "", "", "", "", "", "", "", "",
      "", "", "", "", "", "", "", "", "", "", "", "", "", "", "", "", "", "<<<", ">>>"]

def technical : Block where
  first := 0x2329
  spellings :=
    ["<", ">"]

def enclosedAlphanumerics : Block where
  first := 0x2460
  spellings :=
    ["(1)", "(2)", "(3)", "(4)", "(5)", "(6)", "(7)", "(8)", "(9)", "(10)", "(11)", "(12)", "(13)",
      "(14)", "(15)", "(16)", "(17)", "(18)", "(19)", "(20)", "(1)", "(2)", "(3)", "(4)", "(5)",
      "(6)", "(7)", "(8)", "(9)", "(10)", "(11)", "(12)", "(13)", "(14)", "(15)", "(16)", "(17)",
      "(18)", "(19)", "(20)", "1.", "2.", "3.", "4.", "5.", "6.", "7.", "8.", "9.", "10.", "11.",
      "12.", "13.", "14.", "15.", "16.", "17.", "18.", "19.", "20.", "(a)", "(b)", "(c)", "(d)",
      "(e)", "(f)", "(g)", "(h)", "(i)", "(j)", "(k)", "(l)", "(m)", "(n)", "(o)", "(p)", "(q)",
      "(r)", "(s)", "(t)", "(u)", "(v)", "(w)", "(x)", "(y)", "(z)", "(A)", "(B)", "(C)", "(D)",
      "(E)", "(F)", "(G)", "(H)", "(I)", "(J)", "(K)", "(L)", "(M)", "(N)", "(O)", "(P)", "(Q)",
      "(R)", "(S)", "(T)", "(U)", "(V)", "(W)", "(X)", "(Y)", "(Z)", "(a)", "(b)", "(c)", "(d)",
      "(e)", "(f)", "(g)", "(h)", "(i)", "(j)", "(k)", "(l)", "(m)", "(n)", "(o)", "(p)", "(q)",
      "(r)", "(s)", "(t)", "(u)", "(v)", "(w)", "(x)", "(y)", "(z)", "(0)"]

def boxDrawing : Block where
  first := 0x2500
  spellings :=
    ["-", "-", "|", "|", "-", "-", "|", "|", "-", "-", "|", "|", "+", "+", "+", "+", "+", "+", "+",
      "+", "+", "+", "+", "+", "+", "+", "+", "+", "+", "+", "+", "+", "+", "+", "+", "+", "+", "+",
      "+", "+", "+", "+", "+", "+", "+", "+", "+", "+", "+", "+", "+", "+", "+", "+", "+", "+", "+",
      "+", "+", "+", "+", "+", "+", "+", "+", "+", "+", "+", "+", "+", "+", "+", "+", "+", "+", "+",
      "-", "-", "|", "|", "-", "|", "+", "+", "+", "+", "+", "+", "+", "+", "+", "+", "+", "+", "+",
      "+", "+", "+", "+", "+", "+", "+", "+", "+", "+", "+", "+", "+", "+", "+", "+", "+", "+", "/",
      "\\", "X", "-", "|", "-", "|", "-", "|", "-", "|", "-", "|", "-", "|"]

def blockElements : Block where
  first := 0x2580
  spellings :=
    ["#", "#", "#", "#", "#", "#", "#", "#", "#", "#", "#", "#", "#", "#", "#", "#", "#", "#", "#",
      "#", "#", "#"]

def geometricShapes : Block where
  first := 0x25A0
  spellings :=
    ["#", "#", "#", "#", "#", "#", "#", "#", "#", "#", "#", "#", "#", "#", "#", "#", "#", "#", "^",
      "^", "^", "^", ">", ">", ">", ">", ">", ">", "V", "V", "V", "V", "<", "<", "<", "<", "<", "<",
      "*", "*", "*", "*", "*", "*", "*", "*", "*", "*", "*", "*", "*", "*", "*", "*", "*", "*", "*",
      "*", "*", "*", "*", "*", "*", "*", "*", "*", "*", "*", "*", "*", "*", "#", "#", "#", "#", "#",
      "^", "^", "^", "O", "#", "#", "#", "#", "#", "#", "#", "#", "#", "#", "#", "#", "#", "#", "#",
      "#"]

def braille : Block where
  first := 0x2800
  spellings :=
    [" ", "a", "1", "b", "'", "k", "2", "l", "@", "c", "i", "f", "/", "m", "s", "p", "\"", "e", "3",
      "h", "9", "o", "6", "r", "^", "d", "j", "g", ">", "n", "t", "q", ",", "*", "5", "<", "-", "u",
      "8", "v", ".", "%", "[", "$", "+", "x", "!", "&", ";", ":", "4", "\\", "0", "z", "7", "(",
      "_", "?", "w", "]", "#", "y", ")", "="]

def smallForms : Block where
  first := 0xFE50
  spellings :=
    [",", ", ", ".", "", ";", ":", "?", "!", "--", "(", ")", "\x7b", "\x7d", "[", "] ", "#", "&",
      "*", "+", "-", "<", ">", "=", "", "\\", "$", "%", "@"]

def fullwidthSigns : Block where
  first := 0xFFE0
  spellings :=
    ["/C", "PS", "!", "-", "|", "Y=", "W=", "", "|", "-", "|", "-", "|", "#", "O"]

def brailleDots (k : Nat) : String :=
  let dots := (List.range 8).filter fun b => k.testBit b
  "[d" ++ String.join (dots.map fun b => Nat.repr (b + 1)) ++ "]"

def fullwidth (n : Nat) : String := (Char.ofNat (n - 0xFEE0)).toString

end ChargeLedger.Spelling
