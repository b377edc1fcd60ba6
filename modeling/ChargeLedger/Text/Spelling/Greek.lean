import ChargeLedger.Text.Spelling.Block

/-!
# ASCII spellings of Greek letters

Each Greek letter is written as its Latin counterpart (`θ` as th, `ψ` as ps); the
breathings and accents of polytonic Greek are dropped.
-/

set_option autoImplicit false

namespace ChargeLedger.Spelling

def greek : Block where
  first := 0x374
  spellings :=
    ["'", ",", "", "", "", "", "", "", "", "", "?", "", "", "", "", "", "'", "\"", "A", ";", "E",
      "E", "I", "", "O", "", "U", "O", "I", "A", "B", "G", "D", "E", "Z", "E", "Th", "I", "K", "L",
      "M", "N", "Ks", "O", "P", "R", "", "S", "T", "U", "Ph", "Kh", "Ps", "O", "I", "U", "a", "e",
      "e", "i", "u", "a", "b", "g", "d", "e", "z", "e", "th", "i", "k", "l", "m", "n", "x", "o",
      "p", "r", "s", "s", "t", "u", "ph", "kh", "ps", "o", "i", "u", "o", "u", "o", "", "b", "th",
      "Y", "Y", "Y", "ph", "p", "&", "", "", "St", "st", "W", "w", "Q", "q", "Sp", "sp", "Sh", "sh",
      "F", "f", "Kh", "kh", "H", "h", "G", "g", "CH", "ch", "Ti", "ti", "k", "r", "c", "j"]

def greekExtended : Block where
  first := 0x1F00
  spellings :=
    ["a", "a", "a", "a", "a", "a", "a", "a", "A", "A", "A", "A", "A", "A", "A", "A", "e", "e", "e",
      "e", "e", "e", "", "", "E", "E", "E", "E", "E", "E", "", "", "e", "e", "e", "e", "e", "e",
      "e", "e", "E", "E", "E", "E", "E", "E", "E", "E", "i", "i", "i", "i", "i", "i", "i", "i", "I",
      "I", "I", "I", "I", "I", "I", "I", "o", "o", "o", "o", "o", "o", "", "", "O", "O", "O", "O",
      "O", "O", "", "", "u", "u", "u", "u", "u", "u", "u", "u", "", "U", "", "U", "", "U", "", "U",
      "o", "o", "o", "o", "o", "o", "o", "o", "O", "O", "O", "O", "O", "O", "O", "O", "a", "a", "e",
      "e", "e", "e", "i", "i", "o", "o", "u", "u", "o", "o", "", "", "a", "a", "a", "a", "a", "a",
      "a", "a", "A", "A", "A", "A", "A", "A", "A", "A", "e", "e", "e", "e", "e", "e", "e", "e", "E",
      "E", "E", "E", "E", "E", "E", "E", "o", "o", "o", "o", "o", "o", "o", "o", "O", "O", "O", "O",
      "O", "O", "O", "O", "a", "a", "a", "a", "a", "", "a", "a", "A", "A", "A", "A", "A", "'", "i",
      "'", "~", "\"~", "e", "e", "e", "", "e", "e", "E", "E", "E", "E", "E", "'`", "''", "'~", "i",
      "i", "i", "i", "", "", "i", "i", "I", "I", "I", "I", "", "`'", "`'", "`~", "u", "u", "u", "u",
      "R", "R", "u", "u", "U", "U", "U", "U", "R", "\"`", "\"'", "`", "", "", "o", "o", "o", "",
      "o", "o", "O", "O", "O", "O", "O", "'", "`"]

end ChargeLedger.Spelling
