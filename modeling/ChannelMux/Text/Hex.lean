import ChannelMux.Text.Quote

/-! Hexadecimal text for byte strings: two lower-case digits per byte when writing; when reading,
digits of either case, in pairs. -/

namespace ChannelMux.Text

/-- Writes bytes as lower-case hexadecimal. -/
def hexOfBytes (b : ByteArray) : String :=
  String.ofList (b.toList.flatMap fun x => [hexDigit (x.toNat / 16), hexDigit (x.toNat % 16)])

/-- Value of a hexadecimal digit byte. -/
def hexByteValue? (b : UInt8) : Option Nat :=
  let n := b.toNat
  if 0x30 ≤ n && n ≤ 0x39 then some (n - 0x30)
  else if 0x61 ≤ n && n ≤ 0x66 then some (n - 0x61 + 10)
  else if 0x41 ≤ n && n ≤ 0x46 then some (n - 0x41 + 10)
  else none

/-- How a byte that is not a hexadecimal digit is shown: its code point and, when it prints,
the character in quotes. -/
def showByte (b : UInt8) : String :=
  let code := "U+" ++ String.ofList (hexDigits b.toNat 4 |>.map Char.toUpper)
  let c := Char.ofNat b.toNat
  if isPrintable c then code ++ " " ++ String.ofList [Char.ofNat 0x27, c, Char.ofNat 0x27] else code

/-- Reads pairs of hexadecimal digits. -/
def bytesOfHexList : List UInt8 → Except String (List UInt8)
  | [] => .ok []
  | [p] =>
    match hexByteValue? p with
    | none => .error ("encoding/hex: invalid byte: " ++ showByte p)
    | some _ => .error "encoding/hex: odd length hex string"
  | p :: q :: rest =>
    match hexByteValue? p, hexByteValue? q with
    | none, _ => .error ("encoding/hex: invalid byte: " ++ showByte p)
    | _, none => .error ("encoding/hex: invalid byte: " ++ showByte q)
    | some a, some b => (bytesOfHexList rest).map ((a * 16 + b).toUInt8 :: ·)

/-- Reads a hexadecimal text into bytes. -/
def bytesOfHex (s : String) : Except String ByteArray :=
  (bytesOfHexList s.toUTF8.toList).map fun l => ⟨l.toArray⟩

end ChannelMux.Text
