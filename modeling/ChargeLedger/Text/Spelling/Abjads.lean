import ChargeLedger.Text.Spelling.Block

/-!
# ASCII spellings of abjads

Hebrew, Arabic, Syriac and Thaana: each consonant is written as its sound, and vowel
points as their vowels or as nothing.
-/

set_option autoImplicit false

namespace ChargeLedger.Spelling

def hebrew : Block where
  first := 0x5B0
  spellings :=
    ["@", "e", "a", "o", "i", "e", "e", "a", "a", "o", "", "u", "'", "", "", "", "", "", "", ":",
      "", "", "", "", "", "", "", "", "", "", "", "", "A", "b", "g", "d", "h", "v", "z", "kh", "t",
      "y", "k", "k", "l", "m", "m", "n", "n", "s", "`", "p", "p", "ts", "ts", "q", "r", "sh", "t",
      "", "", "", "", "", "V", "oy", "i", "'", "\""]

def arabic : Block where
  first := 0x60C
  spellings :=
    [",", "", "", "", "", "", "", "", "", "", "", "", "", "", "", ";", "", "", "", "?", "", "", "a",
      "'", "w'", "", "y'", "", "b", "@", "t", "th", "j", "H", "kh", "d", "dh", "r", "z", "s", "sh",
      "S", "D", "T", "Z", "`", "G", "", "", "", "", "", "", "f", "q", "k", "l", "m", "n", "h", "w",
      "~", "y", "an", "un", "in", "a", "u", "i", "W", "", "", "'", "'", "", "", "", "", "", "", "",
      "", "", "", "0", "1", "2", "3", "4", "5", "6", "7", "8", "9", "%", ".", ",", "*", "", "", "",
      "'", "'", "'", "", "'", "'w", "'u", "'y", "tt", "tth", "b", "t", "T", "p", "th", "bh", "'h",
      "H", "ny", "dy", "H", "ch", "cch", "dd", "D", "D", "Dt", "dh", "ddh", "d", "D", "D", "rr",
      "R", "R", "R", "R", "R", "R", "j", "R", "S", "S", "S", "S", "S", "T", "GH", "F", "F", "F",
      "v", "f", "ph", "Q", "Q", "kh", "k", "K", "K", "ng", "K", "g", "G", "N", "G", "G", "G", "L",
      "L", "L", "L", "N", "N", "N", "N", "N", "h", "Ch", "hy", "h", "H", "@", "W", "oe", "oe", "u",
      "yu", "yu", "W", "v", "y", "Y", "Y", "W", "", "", "y", "y'", ".", "ae", "", "", "", "", "",
      "", "", "@", "#", "", "", "", "", "", "", "", "", "", "", "^", "", "", "", "", "", "", "0",
      "1", "2", "3", "4", "5", "6", "7", "8", "9", "Sh", "D", "Gh", "&", "+m"]

def syriac : Block where
  first := 0x700
  spellings :=
    ["//", "/", ",", "!", "!", "-", ",", ",", ";", "?", "~", "\x7b", "\x7d", "*", "", "", "'", "",
      "b", "g", "g", "d", "d", "h", "w", "z", "H", "t", "t", "y", "yh", "k", "l", "m", "n", "s",
      "s", "`", "p", "p", "S", "q", "r", "sh", "t", "", "", "", "a", "a", "a", "A", "A", "A", "e",
      "e", "e", "E", "i", "i", "u", "u", "u", "o", "", "`", "'", "", "", "X", "Q", "@", "@", "|",
      "+"]

def thaana : Block where
  first := 0x780
  spellings :=
    ["h", "sh", "n", "r", "b", "L", "k", "'", "v", "m", "f", "dh", "th", "l", "g", "ny", "s", "d",
      "z", "t", "y", "p", "j", "ch", "tt", "hh", "kh", "th", "z", "sh", "s", "d", "t", "z", "`",
      "gh", "q", "w", "a", "aa", "i", "ee", "u", "oo", "e", "ey", "o", "oa"]

def hebrewForms : Block where
  first := 0xFB1D
  spellings :=
    ["y", "", "i", "`", "A", "d", "h", "k", "l", "m", "r", "t", "+", "sh", "sh", "sh", "sh", "A",
      "A", "A", "b", "g", "d", "h", "v", "z", "", "t", "y", "k", "k", "l", "", "m", "", "n", "s",
      "", "p", "p", "", "ts", "q", "r", "sh", "t", "v", "b", "k", "p", "Al"]

end ChargeLedger.Spelling
