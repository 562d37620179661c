import ChannelMux.Text.CaseMapping
/-! Letter case and blanks on Unicode text, as option values and header names need them. -/

namespace ChannelMux.Text

/-- The lower-case partner of a character under the simple case mapping. -/
def lowerChar (c : Char) : Char := CaseRun.apply lowerRuns c

/-- The upper-case partner of a character under the simple case mapping. -/
def upperChar (c : Char) : Char := CaseRun.apply upperRuns c

/-- The representative of a character's case orbit under simple case folding. -/
def foldChar (c : Char) : Char := CaseRun.apply foldRuns c

/-- Lower-cases every character of a text. -/
def lower (s : String) : String := String.ofList (s.toList.map lowerChar)

/-- Upper-cases every character of a text. -/
def upper (s : String) : String := String.ofList (s.toList.map upperChar)

/-- Texts equal up to case: the same length, and characters that pair off within case orbits. -/
def equalFold (a b : String) : Bool :=
  a.toList.map foldChar == b.toList.map foldChar

/-- Blank characters: the ASCII blanks and the Unicode space separators, line and paragraph
separators and the next-line control. -/
def isBlank (c : Char) : Bool :=
  let n := c.toNat
  n == 0x20 || (0x09 ≤ n && n ≤ 0x0D) || n == 0x85 || n == 0xA0 || n == 0x1680 ||
    (0x2000 ≤ n && n ≤ 0x200A) || n == 0x2028 || n == 0x2029 || n == 0x202F || n == 0x205F ||
    n == 0x3000

/-- Drops blanks at both ends of a character list. -/
def trimChars (cs : List Char) : List Char :=
  ((cs.dropWhile isBlank).reverse.dropWhile isBlank).reverse

/-- Drops blanks at both ends of a text. -/
def trim (s : String) : String := String.ofList (trimChars s.toList)

end ChannelMux.Text
