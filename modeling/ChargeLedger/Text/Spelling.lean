import ChargeLedger.Text.Spelling.Block
import ChargeLedger.Text.Spelling.Latin
import ChargeLedger.Text.Spelling.Greek
import ChargeLedger.Text.Spelling.Cyrillic
import ChargeLedger.Text.Spelling.Alphabets
import ChargeLedger.Text.Spelling.Abjads
import ChargeLedger.Text.Spelling.Indic
import ChargeLedger.Text.Spelling.Southeast
import ChargeLedger.Text.Spelling.Syllabaries
import ChargeLedger.Text.Spelling.Hangul
import ChargeLedger.Text.Spelling.EastAsia
import ChargeLedger.Text.Spelling.Symbols

/-!
# ASCII spelling

Every character is written in plain ASCII by one table over the basic multilingual plane. An
ASCII character stands for itself. A letter of another alphabet is written as its Latin
letters (`ж` as zh, `ß` as ss), a syllable as its sound (`か` as ka, `한` as han), and a sign
as the ASCII punctuation it resembles (`«` as <<). A character the table has no spelling for
is written as nothing: combining marks, most symbols, scripts the table does not cover,
private use, and every character beyond the basic plane.

Most of the table is kept in blocks of consecutive code points; five runs are written by
rule instead. A Hangul syllable is spelled from its jamo, a braille cell beyond the six-dot
cells by its raised dots, and a full-width form of an ASCII character as that character. The
unified ideographs (U+4E00 to U+9FA5) have no syllable in the table and are all written [?]
followed by a space. The compatibility ideographs (U+F900 to U+FA2D) are all written x: each
stands for a syllable, and only whether a spelling has letters or digits in it is ever
looked at where the ideograph sits.
-/

set_option autoImplicit false

namespace ChargeLedger.Spelling

def blocks : List Block :=
  [latin1, latinExtendedA, latinExtendedB, phonetic, greek, cyrillic, armenian, hebrew, arabic,
    syriac, thaana, devanagari, bengali, gurmukhi, gujarati, oriya, tamil, telugu, kannada,
    malayalam, sinhala, thai, lao, tibetan, myanmar, georgian, jamo, ethiopic, cherokee, canadian,
    ogham, runic, khmer, mongolian, latinAdditional, greekExtended, punctuation, scripts, currency,
    letterlike, numberForms, arrows, mathematical, technical, enclosedAlphanumerics, boxDrawing,
    blockElements, geometricShapes, braille, cjkPunctuation, hiragana, katakana, bopomofo,
    compatibilityJamo, kanbun, bopomofoExtended, enclosedCjk, squaredCjk, yiSyllables, yiRadicals,
    latinLigatures, armenianLigatures, hebrewForms, verticalForms, smallForms, halfwidthKatakana,
    halfwidthJamo, fullwidthSigns]

def ofChar (c : Char) : String :=
  let n := c.toNat
  if n < 0x80 then c.toString
  else if 0x4E00 ≤ n && n < 0x9FA6 then "[?] "
  else if 0xAC00 ≤ n && n < 0xD7A4 then hangulSyllable (n - 0xAC00)
  else if 0xF900 ≤ n && n < 0xFA2E then "x"
  else if 0x2840 ≤ n && n < 0x2900 then brailleDots (n - 0x2800)
  else if 0xFF01 ≤ n && n < 0xFF5F then fullwidth n
  else (blocks.findSome? fun b => b.spell? n).getD ""

def ofString (s : String) : String := String.join (s.toList.map ofChar)

end ChargeLedger.Spelling
