import ChargeLedger.Text.Spelling.Block

/-!
# ASCII spellings of Indic scripts

Each consonant is written without its inherent vowel (`क` as k), an independent vowel or a
vowel sign as its vowel, and a virama as nothing; digits are written as ASCII digits.
-/

set_option autoImplicit false

namespace ChargeLedger.Spelling

def devanagari : Block where
  first := 0x901
  spellings :=
    ["N", "N", "H", "", "a", "aa", "i", "ii", "u", "uu", "R", "L", "eN", "e", "e", "ai", "oN", "o",
      "o", "au", "k", "kh", "g", "gh", "ng", "c", "ch", "j", "jh", "ny", "tt", "tth", "dd", "ddh",
      "nn", "t", "th", "d", "dh", "n", "nnn", "p", "ph", "b", "bh", "m", "y", "r", "rr", "l", "l",
      "lll", "v", "sh", "ss", "s", "h", "", "", "'", "'", "aa", "i", "ii", "u", "uu", "R", "RR",
      "eN", "e", "e", "ai", "oN", "o", "o", "au", "", "", "", "AUM", "'", "'", "`", "'", "", "", "",
      "q", "khh", "ghh", "z", "dddh", "rh", "f", "yy", "RR", "LL", "L", "LL", " / ", " // ", "0",
      "1", "2", "3", "4", "5", "6", "7", "8", "9", "."]

def bengali : Block where
  first := 0x981
  spellings :=
    ["N", "N", "H", "", "a", "aa", "i", "ii", "u", "uu", "R", "RR", "", "", "e", "ai", "", "", "o",
      "au", "k", "kh", "g", "gh", "ng", "c", "ch", "j", "jh", "ny", "tt", "tth", "dd", "ddh", "nn",
      "t", "th", "d", "dh", "n", "", "p", "ph", "b", "bh", "m", "y", "r", "", "l", "", "", "", "sh",
      "ss", "s", "h", "", "", "'", "", "aa", "i", "ii", "u", "uu", "R", "RR", "", "", "e", "ai", "",
      "", "o", "au", "", "", "", "", "", "", "", "", "", "", "+", "", "", "", "", "rr", "rh", "",
      "yy", "RR", "LL", "L", "LL", "", "", "0", "1", "2", "3", "4", "5", "6", "7", "8", "9", "r'",
      "r`", "Rs", "Rs", "1/", "2/", "3/", "4/", " 1 - 1/", "/16"]

def gurmukhi : Block where
  first := 0xA02
  spellings :=
    ["N", "", "", "a", "aa", "i", "ii", "u", "uu", "", "", "", "", "ee", "ai", "", "", "oo", "au",
      "k", "kh", "g", "gh", "ng", "c", "ch", "j", "jh", "ny", "tt", "tth", "dd", "ddh", "nn", "t",
      "th", "d", "dh", "n", "", "p", "ph", "b", "bb", "m", "y", "r", "", "l", "ll", "", "v", "sh",
      "", "s", "h", "", "", "'", "", "aa", "i", "ii", "u", "uu", "", "", "", "", "ee", "ai", "", "",
      "oo", "au", "", "", "", "", "", "", "", "", "", "", "", "", "khh", "ghh", "z", "rr", "", "f",
      "", "", "", "", "", "", "", "0", "1", "2", "3", "4", "5", "6", "7", "8", "9", "N", "H", "",
      "", "G.E.O."]

def gujarati : Block where
  first := 0xA81
  spellings :=
    ["N", "N", "H", "", "a", "aa", "i", "ii", "u", "uu", "R", "", "eN", "", "e", "ai", "oN", "",
      "o", "au", "k", "kh", "g", "gh", "ng", "c", "ch", "j", "jh", "ny", "tt", "tth", "dd", "ddh",
      "nn", "t", "th", "d", "dh", "n", "", "p", "ph", "b", "bh", "m", "ya", "r", "", "l", "ll", "",
      "v", "sh", "ss", "s", "h", "", "", "'", "'", "aa", "i", "ii", "u", "uu", "R", "RR", "eN", "",
      "e", "ai", "oN", "", "o", "au", "", "", "", "AUM", "", "", "", "", "", "", "", "", "", "", "",
      "", "", "", "", "RR", "", "", "", "", "", "0", "1", "2", "3", "4", "5", "6", "7", "8", "9"]

def oriya : Block where
  first := 0xB01
  spellings :=
    ["N", "N", "H", "", "a", "aa", "i", "ii", "u", "uu", "R", "L", "", "", "e", "ai", "", "", "o",
      "au", "k", "kh", "g", "gh", "ng", "c", "ch", "j", "jh", "ny", "tt", "tth", "dd", "ddh", "nn",
      "t", "th", "d", "dh", "n", "", "p", "ph", "b", "bh", "m", "y", "r", "", "l", "ll", "", "",
      "sh", "ss", "s", "h", "", "", "'", "'", "aa", "i", "ii", "u", "uu", "R", "", "", "", "e",
      "ai", "", "", "o", "au", "", "", "", "", "", "", "", "", "", "+", "+", "", "", "", "", "rr",
      "rh", "", "yy", "RR", "LL", "", "", "", "", "0", "1", "2", "3", "4", "5", "6", "7", "8", "9"]

def tamil : Block where
  first := 0xB82
  spellings :=
    ["N", "H", "", "a", "aa", "i", "ii", "u", "uu", "", "", "", "e", "ee", "ai", "", "o", "oo",
      "au", "k", "", "", "", "ng", "c", "", "j", "", "ny", "tt", "", "", "", "nn", "t", "", "", "",
      "n", "nnn", "p", "", "", "", "m", "y", "r", "rr", "l", "ll", "lll", "v", "", "ss", "s", "h",
      "", "", "", "", "aa", "i", "ii", "u", "uu", "", "", "", "e", "ee", "ai", "", "o", "oo", "au",
      "", "", "", "", "", "", "", "", "", "", "+", "", "", "", "", "", "", "", "", "", "", "", "",
      "", "", "", "1", "2", "3", "4", "5", "6", "7", "8", "9", "+10+", "+100+", "+1000+"]

def telugu : Block where
  first := 0xC01
  spellings :=
    ["N", "N", "H", "", "a", "aa", "i", "ii", "u", "uu", "R", "L", "", "e", "ee", "ai", "", "o",
      "oo", "au", "k", "kh", "g", "gh", "ng", "c", "ch", "j", "jh", "ny", "tt", "tth", "dd", "ddh",
      "nn", "t", "th", "d", "dh", "n", "", "p", "ph", "b", "bh", "m", "y", "r", "rr", "l", "ll", "",
      "v", "sh", "ss", "s", "h", "", "", "", "", "aa", "i", "ii", "u", "uu", "R", "RR", "", "e",
      "ee", "ai", "", "o", "oo", "au", "", "", "", "", "", "", "", "", "+", "+", "", "", "", "", "",
      "", "", "", "", "RR", "LL", "", "", "", "", "0", "1", "2", "3", "4", "5", "6", "7", "8", "9"]

def kannada : Block where
  first := 0xC82
  spellings :=
    ["N", "H", "", "a", "aa", "i", "ii", "u", "uu", "R", "L", "", "e", "ee", "ai", "", "o", "oo",
      "au", "k", "kh", "g", "gh", "ng", "c", "ch", "j", "jh", "ny", "tt", "tth", "dd", "ddh", "nn",
      "t", "th", "d", "dh", "n", "", "p", "ph", "b", "bh", "m", "y", "r", "rr", "l", "ll", "", "v",
      "sh", "ss", "s", "h", "", "", "", "", "aa", "i", "ii", "u", "uu", "R", "RR", "", "e", "ee",
      "ai", "", "o", "oo", "au", "", "", "", "", "", "", "", "", "+", "+", "", "", "", "", "", "",
      "", "lll", "", "RR", "LL", "", "", "", "", "0", "1", "2", "3", "4", "5", "6", "7", "8", "9"]

def malayalam : Block where
  first := 0xD02
  spellings :=
    ["N", "H", "", "a", "aa", "i", "ii", "u", "uu", "R", "L", "", "e", "ee", "ai", "", "o", "oo",
      "au", "k", "kh", "g", "gh", "ng", "c", "ch", "j", "jh", "ny", "tt", "tth", "dd", "ddh", "nn",
      "t", "th", "d", "dh", "n", "", "p", "ph", "b", "bh", "m", "y", "r", "rr", "l", "ll", "lll",
      "v", "sh", "ss", "s", "h", "", "", "", "", "aa", "i", "ii", "u", "uu", "R", "", "", "e", "ee",
      "ai", "", "o", "oo", "au", "", "", "", "", "", "", "", "", "", "", "+", "", "", "", "", "",
      "", "", "", "RR", "LL", "", "", "", "", "0", "1", "2", "3", "4", "5", "6", "7", "8", "9"]

def sinhala : Block where
  first := 0xD82
  spellings :=
    ["N", "H", "", "a", "aa", "ae", "aae", "i", "ii", "u", "uu", "R", "RR", "L", "LL", "e", "ee",
      "ai", "o", "oo", "au", "", "", "", "k", "kh", "g", "gh", "ng", "nng", "c", "ch", "j", "jh",
      "ny", "jny", "nyj", "tt", "tth", "dd", "ddh", "nn", "nndd", "t", "th", "d", "dh", "n", "",
      "nd", "p", "ph", "b", "bh", "m", "mb", "y", "r", "", "l", "", "", "v", "sh", "ss", "s", "h",
      "ll", "f", "", "", "", "", "", "", "", "", "aa", "ae", "aae", "i", "ii", "u", "", "uu", "",
      "R", "e", "ee", "ai", "o", "oo", "au", "L", "", "", "", "", "", "", "", "", "", "", "", "",
      "", "", "", "", "", "", "RR", "LL", " . "]

def tibetan : Block where
  first := 0xF00
  spellings :=
    ["AUM", "", "", "", " // ", " * ", "", "-", " / ", " / ", " // ", " -/ ", " +/ ", " X/ ",
      " /XX/ ", " /X/ ", ", ", "", "", "", "", "", "", "", "", "", "", "", "", "", "", "", "0", "1",
      "2", "3", "4", "5", "6", "7", "8", "9", ".5", "1.5", "2.5", "3.5", "4.5", "5.5", "6.5", "7.5",
      "8.5", "-.5", "+", "*", "^", "_", "", "~", "", "]", "[[", "]]", "", "", "k", "kh", "g", "gh",
      "ng", "c", "ch", "j", "", "ny", "tt", "tth", "dd", "ddh", "nn", "t", "th", "d", "dh", "n",
      "p", "ph", "b", "bh", "m", "ts", "tsh", "dz", "dzh", "w", "zh", "z", "'", "y", "r", "l", "sh",
      "ssh", "s", "h", "a", "kss", "r", "", "", "", "", "", "", "aa", "i", "ii", "u", "uu", "R",
      "RR", "L", "LL", "e", "ee", "o", "oo", "M", "H", "i", "ii", "", "", "", "", "", "", "", "",
      "", "", "", "", "", "", "k", "kh", "g", "gh", "ng", "c", "ch", "j", "", "ny", "tt", "tth",
      "dd", "ddh", "nn", "t", "th", "d", "dh", "n", "p", "ss", "b", "bh", "m", "ts", "tsh", "dz",
      "dzh", "w", "zh", "z", "'", "y", "r", "l", "sh", "ssh", "s", "h", "a", "kss", "w", "y", "r",
      "", "X", " :X: ", " /O/ ", " /o/ ", " \\o\\ ", " (O) "]

end ChargeLedger.Spelling
