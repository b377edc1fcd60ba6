import ChargeLedger.Text.Spelling.Block

/-!
# ASCII spellings of scripts of mainland Southeast Asia

Thai, Lao, Myanmar and Khmer: each consonant is written as its sound, each vowel sign as
its vowel, and digits as ASCII digits.
-/

set_option autoImplicit false

namespace ChargeLedger.Spelling

def thai : Block where
  first := 0xE01
  spellings :=
    ["k", "kh", "kh", "kh", "kh", "kh", "ng", "cch", "ch", "ch", "ch", "ch", "y", "d", "t", "th",
      "th", "th", "n", "d", "t", "th", "th", "th", "n", "b", "p", "ph", "f", "ph", "f", "ph", "m",
      "y", "r", "R", "l", "L", "w", "s", "s", "s", "h", "l", "`", "h", "~", "a", "a", "aa", "am",
      "i", "ii", "ue", "uue", "u", "uu", "'", "", "", "", "", "Bh.", "e", "ae", "o", "ai", "ai",
      "ao", "+", "", "", "", "", "", "", "M", "", " * ", "0", "1", "2", "3", "4", "5", "6", "7",
      "8", "9", " // ", " /// "]

def lao : Block where
  first := 0xE81
  spellings :=
    ["k", "kh", "", "kh", "", "", "ng", "ch", "", "s", "", "", "ny", "", "", "", "", "", "", "d",
      "h", "th", "th", "", "n", "b", "p", "ph", "f", "ph", "f", "", "m", "y", "r", "", "l", "", "w",
      "", "", "s", "h", "", "`", "~", "...", "a", "a", "aa", "am", "i", "ii", "y", "yy", "u", "uu",
      "", "o", "l", "ny", "", "", "e", "ei", "o", "ay", "ai", "", "+", "", "", "", "", "", "", "",
      "", "", "0", "1", "2", "3", "4", "5", "6", "7", "8", "9", "", "", "hn", "hm"]

def myanmar : Block where
  first := 0x1000
  spellings :=
    ["k", "kh", "g", "gh", "ng", "c", "ch", "j", "jh", "ny", "nny", "tt", "tth", "dd", "ddh", "nn",
      "t", "th", "d", "dh", "n", "p", "ph", "b", "bh", "m", "y", "r", "l", "w", "s", "h", "ll", "a",
      "", "i", "ii", "u", "uu", "e", "", "o", "au", "", "aa", "i", "ii", "u", "uu", "e", "ai", "",
      "", "", "N", "'", ":", "", "", "", "", "", "", "", "0", "1", "2", "3", "4", "5", "6", "7",
      "8", "9", " / ", " // ", "n*", "r*", "l*", "e*", "sh", "ss", "R", "RR", "L", "LL", "R", "RR",
      "L", "LL"]

def khmer : Block where
  first := 0x1780
  spellings :=
    ["k", "kh", "g", "gh", "ng", "c", "ch", "j", "jh", "ny", "t", "tth", "d", "ddh", "nn", "t",
      "th", "d", "dh", "n", "p", "ph", "b", "bh", "m", "y", "r", "l", "v", "sh", "ss", "s", "h",
      "l", "q", "a", "aa", "i", "ii", "u", "uk", "uu", "uuv", "ry", "ryy", "ly", "lyy", "e", "ai",
      "oo", "oo", "au", "a", "aa", "aa", "i", "ii", "y", "yy", "u", "uu", "ua", "oe", "ya", "ie",
      "e", "ae", "ai", "oo", "au", "M", "H", "a`", "", "", "", "", "", "", "", "", "", "", "", ".",
      " // ", ":", "+", "++", " * ", " /// ", "KR", "'", "", "", "", "0", "1", "2", "3", "4", "5",
      "6", "7", "8", "9"]

end ChargeLedger.Spelling
