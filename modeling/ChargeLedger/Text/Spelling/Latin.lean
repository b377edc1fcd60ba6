import ChargeLedger.Text.Spelling.Block

/-!
# ASCII spellings of Latin letters

A letter with marks is written as its base letter, a ligature as its letters (`æ` as ae,
`ß` as ss), and a sign as the ASCII text nearest to it (`©` as (c)).
-/

set_option autoImplicit false

namespace ChargeLedger.Spelling

def latin1 : Block where
  first := 0xA0
  spellings :=
    [" ", "!", "C/", "PS", "$?", "Y=", "|", "SS", "\"", "(c)", "a", "<<", "!", "", "(r)", "-",
      "deg", "+-", "2", "3", "'", "u", "P", "*", ",", "1", "o", ">>", " 1/4", " 1/2", " 3/4", "?",
      "A", "A", "A", "A", "A", "A", "AE", "C", "E", "E", "E", "E", "I", "I", "I", "I", "D", "N",
      "O", "O", "O", "O", "O", "x", "O", "U", "U", "U", "U", "Y", "Th", "ss", "a", "a", "a", "a",
      "a", "a", "ae", "c", "e", "e", "e", "e", "i", "i", "i", "i", "d", "n", "o", "o", "o", "o",
      "o", "/", "o", "u", "u", "u", "u", "y", "th", "y"]

def latinExtendedA : Block where
  first := 0x100
  spellings :=
    ["A", "a", "A", "a", "A", "a", "C", "c", "C", "c", "C", "c", "C", "c", "D", "d", "D", "d", "E",
      "e", "E", "e", "E", "e", "E", "e", "E", "e", "G", "g", "G", "g", "G", "g", "G", "g", "H", "h",
      "H", "h", "I", "i", "I", "i", "I", "i", "I", "i", "I", "i", "IJ", "ij", "J", "j", "K", "k",
      "q", "L", "l", "L", "l", "L", "l", "L", "l", "L", "l", "N", "n", "N", "n", "N", "n", "'n",
      "NG", "ng", "O", "o", "O", "o", "O", "o", "OE", "oe", "R", "r", "R", "r", "R", "r", "S", "s",
      "S", "s", "S", "s", "S", "s", "T", "t", "T", "t", "T", "t", "U", "u", "U", "u", "U", "u", "U",
      "u", "U", "u", "U", "u", "W", "w", "Y", "y", "Y", "Z", "z", "Z", "z", "Z", "z", "s"]

def latinExtendedB : Block where
  first := 0x180
  spellings :=
    ["b", "B", "B", "b", "6", "6", "O", "C", "c", "D", "D", "D", "d", "d", "3", "@", "E", "F", "f",
      "G", "G", "hv", "I", "I", "K", "k", "l", "l", "W", "N", "n", "O", "O", "o", "OI", "oi", "P",
      "p", "YR", "2", "2", "SH", "sh", "t", "T", "t", "T", "U", "u", "Y", "V", "Y", "y", "Z", "z",
      "ZH", "ZH", "zh", "zh", "2", "5", "5", "ts", "w", "|", "||", "|=", "!", "DZ", "Dz", "dz",
      "LJ", "Lj", "lj", "NJ", "Nj", "nj", "A", "a", "I", "i", "O", "o", "U", "u", "U", "u", "U",
      "u", "U", "u", "U", "u", "@", "A", "a", "A", "a", "AE", "ae", "G", "g", "G", "g", "K", "k",
      "O", "o", "O", "o", "ZH", "zh", "j", "DZ", "Dz", "dz", "G", "g", "HV", "W", "N", "n", "A",
      "a", "AE", "ae", "O", "o", "A", "a", "A", "a", "E", "e", "E", "e", "I", "i", "I", "i", "O",
      "o", "O", "o", "R", "r", "R", "r", "U", "u", "U", "u", "S", "s", "T", "t", "Y", "y", "H", "h",
      "N", "d", "OU", "ou", "Z", "z", "A", "a", "E", "e", "O", "o", "O", "o", "O", "o", "O", "o",
      "Y", "y", "l", "n", "t", "j", "db", "qp", "A", "C", "c", "L", "T", "s", "z", "", "", "B", "U",
      "^", "E", "e", "J", "j", "q", "q", "R", "r", "Y", "y"]

def phonetic : Block where
  first := 0x250
  spellings :=
    ["a", "a", "a", "b", "o", "c", "d", "d", "e", "@", "@", "e", "e", "e", "e", "j", "g", "g", "g",
      "g", "u", "Y", "h", "h", "i", "i", "I", "l", "l", "l", "lZ", "W", "W", "m", "n", "n", "n",
      "o", "OE", "O", "F", "r", "r", "r", "r", "r", "r", "r", "R", "R", "s", "S", "j", "S", "S",
      "t", "t", "u", "U", "v", "^", "w", "y", "Y", "z", "z", "Z", "Z", "?", "?", "?", "C", "@", "B",
      "E", "G", "H", "j", "k", "L", "q", "?", "?", "dz", "dZ", "dz", "ts", "tS", "tC", "fN", "ls",
      "lz", "WW", "]]", "", "", "h", "h", "j", "r", "r", "r", "R", "w", "y", "'", "\"", "`", "'",
      "`", "`", "'", "?", "?", "<", ">", "^", "V", "^", "V", "'", "-", "/", "\\", ",", "_", "\\",
      "/", ":", ".", "`", "'", "^", "V", "+", "-", "V", ".", "@", ",", "~", "\"", "R", "X", "G",
      "l", "s", "x", "?", "", "", "", "", "", "", "", "V", "=", "\""]

def latinAdditional : Block where
  first := 0x1E00
  spellings :=
    ["A", "a", "B", "b", "B", "b", "B", "b", "C", "c", "D", "d", "D", "d", "D", "d", "D", "d", "D",
      "d", "E", "e", "E", "e", "E", "e", "E", "e", "E", "e", "F", "f", "G", "g", "H", "h", "H", "h",
      "H", "h", "H", "h", "H", "h", "I", "i", "I", "i", "K", "k", "K", "k", "K", "k", "L", "l", "L",
      "l", "L", "l", "L", "l", "M", "m", "M", "m", "M", "m", "N", "n", "N", "n", "N", "n", "N", "n",
      "O", "o", "O", "o", "O", "o", "O", "o", "P", "p", "P", "p", "R", "r", "R", "r", "R", "r", "R",
      "r", "S", "s", "S", "s", "S", "s", "S", "s", "S", "s", "T", "t", "T", "t", "T", "t", "T", "t",
      "U", "u", "U", "u", "U", "u", "U", "u", "U", "u", "V", "v", "V", "v", "W", "w", "W", "w", "W",
      "w", "W", "w", "W", "w", "X", "x", "X", "x", "Y", "y", "Z", "z", "Z", "z", "Z", "z", "h", "t",
      "w", "y", "a", "S", "", "", "Ss", "", "A", "a", "A", "a", "A", "a", "A", "a", "A", "a", "A",
      "a", "A", "a", "A", "a", "A", "a", "A", "a", "A", "a", "A", "a", "E", "e", "E", "e", "E", "e",
      "E", "e", "E", "e", "E", "e", "E", "e", "E", "e", "I", "i", "I", "i", "O", "o", "O", "o", "O",
      "o", "O", "o", "O", "o", "O", "o", "O", "o", "O", "o", "O", "o", "O", "o", "O", "o", "O", "o",
      "U", "u", "U", "u", "U", "u", "U", "u", "U", "u", "U", "u", "U", "u", "Y", "y", "Y", "y", "Y",
      "y", "Y", "y"]

def latinLigatures : Block where
  first := 0xFB00
  spellings :=
    ["ff", "fi", "fl", "ffi", "ffl", "st", "st"]

end ChargeLedger.Spelling
