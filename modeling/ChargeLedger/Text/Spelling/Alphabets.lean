import ChargeLedger.Text.Spelling.Block

/-!
# ASCII spellings of smaller alphabets

Armenian, Georgian, Ogham, runes and Mongolian: each letter is written as its sound in
Latin letters.
-/

set_option autoImplicit false

namespace ChargeLedger.Spelling

def armenian : Block where
  first := 0x531
  spellings :=
    ["A", "B", "G", "D", "E", "Z", "E", "E", "T`", "Zh", "I", "L", "Kh", "Ts", "K", "H", "Dz", "Gh",
      "Ch", "M", "Y", "N", "Sh", "O", "Ch`", "P", "J", "Rh", "S", "V", "T", "R", "Ts`", "W", "P`",
      "K`", "O", "F", "", "", "<", "'", "/", "!", ",", "?", ".", "", "a", "b", "g", "d", "e", "z",
      "e", "e", "t`", "zh", "i", "l", "kh", "ts", "k", "h", "dz", "gh", "ch", "m", "y", "n", "sh",
      "o", "ch`", "p", "j", "rh", "s", "v", "t", "r", "ts`", "w", "p`", "k`", "o", "f", "ew", "",
      ":", "-"]

def armenianLigatures : Block where
  first := 0xFB13
  spellings :=
    ["mn", "me", "mi", "vn", "mkh"]

def georgian : Block where
  first := 0x10A0
  spellings :=
    ["A", "B", "G", "D", "E", "V", "Z", "T`", "I", "K", "L", "M", "N", "O", "P", "Zh", "R", "S",
      "T", "U", "P`", "K`", "G'", "Q", "Sh", "Ch`", "C`", "Z'", "C", "Ch", "X", "J", "H", "E", "Y",
      "W", "Xh", "OE", "", "", "", "", "", "", "", "", "", "", "a", "b", "g", "d", "e", "v", "z",
      "t`", "i", "k", "l", "m", "n", "o", "p", "zh", "r", "s", "t", "u", "p`", "k`", "g'", "q",
      "sh", "ch`", "c`", "z'", "c", "ch", "x", "j", "h", "e", "y", "w", "xh", "oe", "f", "", "", "",
      "", " // "]

def ogham : Block where
  first := 0x1680
  spellings :=
    [" ", "b", "l", "f", "s", "n", "h", "d", "t", "c", "q", "m", "g", "ng", "z", "r", "a", "o", "u",
      "e", "i", "ch", "th", "ph", "p", "x", "p", "<", ">"]

def runic : Block where
  first := 0x16A0
  spellings :=
    ["f", "v", "u", "yr", "y", "w", "th", "th", "a", "o", "ac", "ae", "o", "o", "o", "oe", "on",
      "r", "k", "c", "k", "g", "ng", "g", "g", "w", "h", "h", "h", "h", "n", "n", "n", "i", "e",
      "j", "g", "ae", "a", "eo", "p", "z", "s", "s", "s", "c", "z", "t", "t", "d", "b", "b", "p",
      "p", "e", "m", "m", "m", "l", "l", "ng", "ng", "d", "o", "ear", "ior", "qu", "qu", "qu", "s",
      "yr", "yr", "yr", "q", "x", " . ", " : ", " + ", "17", "18", "19"]

def mongolian : Block where
  first := 0x1800
  spellings :=
    [" @ ", " ... ", ", ", ". ", ": ", " // ", "", "-", ", ", ". ", "", "", "", "", "", "", "0",
      "1", "2", "3", "4", "5", "6", "7", "8", "9", "", "", "", "", "", "", "a", "e", "i", "o", "u",
      "O", "U", "ee", "n", "ng", "b", "p", "q", "g", "m", "l", "s", "sh", "t", "d", "ch", "j", "y",
      "r", "w", "f", "k", "kha", "ts", "z", "h", "zr", "lh", "zh", "ch", "-", "e", "i", "o", "u",
      "O", "U", "ng", "b", "p", "q", "g", "m", "t", "d", "ch", "j", "ts", "y", "w", "k", "g", "h",
      "jy", "ny", "dz", "e", "i", "iy", "U", "u", "ng", "k", "g", "h", "p", "sh", "t", "d", "j",
      "f", "g", "h", "ts", "z", "r", "ch", "zh", "i", "k", "r", "f", "zh", "", "", "", "", "", "",
      "", "", "", "H", "X", "W", "M", " 3 ", " 333 ", "a", "i", "k", "ng", "c", "tt", "tth", "dd",
      "nn", "t", "d", "p", "ph", "ss", "zh", "z", "a", "t", "zh", "gh", "ng", "c", "jh", "tta",
      "ddh", "t", "dh", "ss", "cy", "zh", "z", "u", "y", "bh", "'"]

end ChargeLedger.Spelling
