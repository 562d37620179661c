import ChannelMux.Text.Printable
import ChannelMux.Text.Bytes
/-! Quoted text as error messages show it. -/

namespace ChannelMux.Text

/-- Lower-case hexadecimal digit of a number below 16. -/
def hexDigit (n : Nat) : Char :=
  if n < 10 then Char.ofNat (0x30 + n) else Char.ofNat (0x61 + n - 10)

/-- The `width` lowest hexadecimal digits of `n`, most significant first. -/
def hexDigits (n : Nat) : Nat → List Char
  | 0 => []
  | w + 1 => hexDigits (n / 16) w ++ [hexDigit (n % 16)]

/-- How one character is written inside quotes. -/
def quoteChar (c : Char) : List Char :=
  if c = '"' then ['\\', '"']
  else if c = '\\' then ['\\', '\\']
  else if isPrintable c then [c]
  else
    let n := c.toNat
    if n == 7 then ['\\', 'a']
    else if n == 8 then ['\\', 'b']
    else if n == 12 then ['\\', 'f']
    else if n == 10 then ['\\', 'n']
    else if n == 13 then ['\\', 'r']
    else if n == 9 then ['\\', 't']
    else if n == 11 then ['\\', 'v']
    else if n < 0x80 then '\\' :: 'x' :: hexDigits n 2
    else if n < 0x10000 then '\\' :: 'u' :: hexDigits n 4
    else '\\' :: 'U' :: hexDigits n 8

/-- How one piece of a byte text is written inside quotes: a stray byte as a `\x` escape. -/
def quotePiece : Piece → List Char
  | .char c => quoteChar c
  | .stray b => '\\' :: 'x' :: hexDigits b.toNat 2

/-- A text between double quotes, escaped as described above. -/
def quote (s : String) : String :=
  String.ofList ('"' :: (s.toList.flatMap quoteChar ++ ['"']))

/-- Pieces of a byte text between double quotes, stray bytes as `\x` escapes. -/
def quotePieces (ps : List Piece) : String :=
  String.ofList ('"' :: (ps.flatMap quotePiece ++ ['"']))

/-- A byte text between double quotes, its stray bytes as `\x` escapes. -/
def ByteText.quote (t : ByteText) : String := quotePieces t.pieces

end ChannelMux.Text
