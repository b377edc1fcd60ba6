import ChargeLedger.Text.Spelling.Block

/-!
# ASCII spellings of kana, bopomofo and East Asian signs

Kana are written in romaji (`か` as ka), bopomofo as its Latin letters, East Asian
punctuation as ASCII punctuation, and enclosed and squared forms as what they enclose.
-/

set_option autoImplicit false

namespace ChargeLedger.Spelling

def cjkPunctuation : Block where
  first := 0x3000
  spellings :=
    [" ", ", ", ". ", "\"", "[JIS]", "\"", "/", "0", "<", "> ", "<<", ">> ", "[", "] ", "\x7b",
      "\x7d ", "[(", ")] ", "@", "X ", "[", "] ", "[[", "]] ", "((", ")) ", "[[", "]] ", "~ ", "``",
      "''", ",,", "@", "1", "2", "3", "4", "5", "6", "7", "8", "9", "", "", "", "", "", "", "~",
      "+", "+", "+", "+", "", "@", " // ", "+10+", "+20+", "+30+"]

def hiragana : Block where
  first := 0x3041
  spellings :=
    ["a", "a", "i", "i", "u", "u", "e", "e", "o", "o", "ka", "ga", "ki", "gi", "ku", "gu", "ke",
      "ge", "ko", "go", "sa", "za", "shi", "zi", "su", "zu", "se", "ze", "so", "zo", "ta", "da",
      "chi", "di", "tsu", "tsu", "du", "te", "de", "to", "do", "na", "ni", "nu", "ne", "no", "ha",
      "ba", "pa", "hi", "bi", "pi", "hu", "bu", "pu", "he", "be", "pe", "ho", "bo", "po", "ma",
      "mi", "mu", "me", "mo", "ya", "ya", "yu", "yu", "yo", "yo", "ra", "ri", "ru", "re", "ro",
      "wa", "wa", "wi", "we", "wo", "n", "vu", "", "", "", "", "", "", "\"", "\"", "\"", "\""]

def katakana : Block where
  first := 0x30A1
  spellings :=
    ["a", "a", "i", "i", "u", "u", "e", "e", "o", "o", "ka", "ga", "ki", "gi", "ku", "gu", "ke",
      "ge", "ko", "go", "sa", "za", "shi", "zi", "su", "zu", "se", "ze", "so", "zo", "ta", "da",
      "chi", "di", "tsu", "tsu", "du", "te", "de", "to", "do", "na", "ni", "nu", "ne", "no", "ha",
      "ba", "pa", "hi", "bi", "pi", "hu", "bu", "pu", "he", "be", "pe", "ho", "bo", "po", "ma",
      "mi", "mu", "me", "mo", "ya", "ya", "yu", "yu", "yo", "yo", "ra", "ri", "ru", "re", "ro",
      "wa", "wa", "wi", "we", "wo", "n", "vu", "ka", "ke", "va", "vi", "ve", "vo", "", "-", "\"",
      "\""]

def bopomofo : Block where
  first := 0x3105
  spellings :=
    ["B", "P", "M", "F", "D", "T", "N", "L", "G", "K", "H", "J", "Q", "X", "ZH", "CH", "SH", "R",
      "Z", "C", "S", "A", "O", "E", "EH", "AI", "EI", "AU", "OU", "AN", "EN", "ANG", "ENG", "ER",
      "I", "U", "IU", "V", "NG", "GN"]

def kanbun : Block where
  first := 0x3192
  spellings :=
    ["1", "2", "3", "4", "Shang", "Zhong", "Xia", "Jia", "Yi", "Bing", "Ding", "Tian", "Di", "Ren"]

def bopomofoExtended : Block where
  first := 0x31A0
  spellings :=
    ["BU", "ZI", "JI", "GU", "EE", "ENN", "OO", "ONN", "IR", "ANN", "INN", "UNN", "IM", "NGG",
      "AINN", "AUNN", "AM", "OM", "ONG", "INNN", "P", "T", "K", "H"]

def enclosedCjk : Block where
  first := 0x3200
  spellings :=
    ["(g)", "(n)", "(d)", "(r)", "(m)", "(b)", "(s)", "()", "(j)", "(c)", "(k)", "(t)", "(p)",
      "(h)", "(ga)", "(na)", "(da)", "(ra)", "(ma)", "(ba)", "(sa)", "(a)", "(ja)", "(ca)", "(ka)",
      "(ta)", "(pa)", "(ha)", "(ju)", "", "", "", "(x)", "(x)", "(x)", "(x)", "(x)", "(x)", "(x)",
      "(x)", "(x)", "(x)", "(x)", "(x)", "(x)", "(x)", "(x)", "(x)", "(x)", "(x)", "(x)", "(x)",
      "(x)", "(x)", "(x)", "(x)", "(x)", "(x)", "(x)", "(x)", "(x)", "(x)", "(x)", "(x)", "(x)",
      "(x)", "(x)", "(x)", "", "", "", "", "", "", "", "", "", "", "", "", "", "", "", "", "", "",
      "", "", "", "", "", "", "", "", "", "", "(g)", "(n)", "(d)", "(r)", "(m)", "(b)", "(s)", "()",
      "(j)", "(c)", "(k)", "(t)", "(p)", "(h)", "(ga)", "(na)", "(da)", "(ra)", "(ma)", "(ba)",
      "(sa)", "(a)", "(ja)", "(ca)", "(ka)", "(ta)", "(pa)", "(ha)", "", "", "", "", "x", "x", "x",
      "x", "x", "x", "x", "x", "x", "x", "x", "x", "x", "x", "x", "x", "x", "x", "x", "x", "x", "x",
      "x", "x", "x", "x", "x", "x", "x", "x", "x", "x", "x", "x", "x", "x", "x", "x", "x", "x", "x",
      "x", "x", "x", "x", "x", "x", "x", "x", "", "", "", "", "", "", "", "", "", "", "", "", "",
      "", "", "1x", "2x", "3x", "4x", "5x", "6x", "7x", "8x", "9x", "10x", "11x", "12x", "", "", "",
      "", "a", "i", "u", "e", "o", "ka", "ki", "ku", "ke", "ko", "sa", "shi", "su", "se", "so",
      "ta", "chi", "tsu", "te", "to", "na", "ni", "nu", "ne", "no", "ha", "hi", "hu", "he", "ho",
      "ma", "mi", "mu", "me", "mo", "ya", "yu", "yo", "ra", "ri", "ru", "re", "ro", "wa", "wi",
      "we", "wo"]

def squaredCjk : Block where
  first := 0x3300
  spellings :=
    ["aha-to", "aruhua", "anhea", "a-ru", "ininku", "inchi", "uon", "esuku-to", "e-ka-", "onsu",
      "o-mu", "kairi", "karatsuto", "karori-", "karon", "kanma", "kika", "kini-", "kiyuri-",
      "kiruta-", "kiro", "kirokuramu", "kirome-toru", "kirowatsuto", "kuramu", "kuramuton",
      "kuruseiro", "kuro-ne", "ke-su", "koruna", "ko-ho", "saikuru", "sanchi-mu", "shirinku",
      "senchi", "sento", "ta-su", "teshi", "toru", "ton", "nano", "notsuto", "haitsu", "ha-sento",
      "ha-tsu", "ha-reru", "hiasutoru", "hikuru", "hiko", "hiru", "huaratsuto", "hui-to",
      "hutsushieru", "huran", "hekuta-ru", "heso", "henihi", "herutsu", "hensu", "he-shi", "he-ta",
      "hointo", "horuto", "hon", "honto", "ho-ru", "ho-n", "maikuro", "mairu", "matsuha", "maruku",
      "manshiyon", "mikuron", "miri", "miriha-ru", "meka", "mekaton", "me-toru", "ya-to", "ya-ru",
      "yuan", "ritsutoru", "rira", "ruhi-", "ru-huru", "remu", "rentoken", "watsuto", "0x", "1x",
      "2x", "3x", "4x", "5x", "6x", "7x", "8x", "9x", "10x", "11x", "12x", "13x", "14x", "15x",
      "16x", "17x", "18x", "19x", "20x", "21x", "22x", "23x", "24x", "hPa", "da", "AU", "bar", "oV",
      "pc", "", "", "", "", "xx", "xx", "xx", "xx", "xxxx", "pA", "nA", "mA", "mA", "kA", "KB",
      "MB", "GB", "cal", "kcal", "pF", "nF", "mF", "mg", "mg", "kg", "Hz", "kHz", "MHz", "GHz",
      "THz", "ml", "ml", "dl", "kl", "fm", "nm", "mm", "mm", "cm", "km", "mm2", "cm2", "m2", "km2",
      "mm3", "cm3", "m3", "km3", "m/s", "m/s2", "Pa", "kPa", "MPa", "GPa", "rad", "rad/s", "rad/s2",
      "ps", "ns", "ms", "ms", "pV", "nV", "mV", "mV", "kV", "MV", "pW", "nW", "mW", "mW", "kW",
      "MW", "kO", "MO", "a.m.", "Bq", "cc", "cd", "C/kg", "Co.", "dB", "Gy", "ha", "HP", "in", "KK",
      "KM", "kt", "lm", "ln", "log", "lx", "mb", "mil", "mol", "PH", "p.m.", "PPM", "PR", "sr",
      "Sv", "Wb", "", "", "1x", "2x", "3x", "4x", "5x", "6x", "7x", "8x", "9x", "10x", "11x", "12x",
      "13x", "14x", "15x", "16x", "17x", "18x", "19x", "20x", "21x", "22x", "23x", "24x", "25x",
      "26x", "27x", "28x", "29x", "30x", "31x"]

def verticalForms : Block where
  first := 0xFE30
  spellings :=
    ["..", "--", "-", "_", "_", "(", ")", "\x7b", "\x7d", "[", "] ", "[(", ")] ", "<<", ">> ", "<",
      "> ", "[", "] ", "\x7b", "\x7d ", "", "", "", "", " ", " ", " ", " ", "_", "_", "_"]

def halfwidthKatakana : Block where
  first := 0xFF61
  spellings :=
    [". ", "[", "] ", ", ", "", "wo", "a", "i", "u", "e", "o", "ya", "yu", "yo", "tsu", "-", "a",
      "i", "u", "e", "o", "ka", "ki", "ku", "ke", "ko", "sa", "shi", "su", "se", "so", "ta", "chi",
      "tsu", "te", "to", "na", "ni", "nu", "ne", "no", "ha", "hi", "hu", "he", "ho", "ma", "mi",
      "mu", "me", "mo", "ya", "yu", "yo", "ra", "ri", "ru", "re", "ro", "wa", "n"]

end ChargeLedger.Spelling
