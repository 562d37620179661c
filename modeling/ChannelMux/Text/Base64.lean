/-! Base64 text (the standard alphabet with `=` padding) decoded to bytes. Line breaks anywhere in
the text are ignored. -/

namespace ChannelMux.Text

/-- The six-bit value of a character of the standard alphabet. -/
def base64Value? (c : Char) : Option Nat :=
  if 'A' ≤ c && c ≤ 'Z' then some (c.toNat - 'A'.toNat)
  else if 'a' ≤ c && c ≤ 'z' then some (c.toNat - 'a'.toNat + 26)
  else if '0' ≤ c && c ≤ '9' then some (c.toNat - '0'.toNat + 52)
  else if c == '+' then some 62
  else if c == '/' then some 63
  else none

/-- The bytes of groups of four characters; `none` at a character outside the alphabet or
misplaced padding. -/
def decodeGroups? : List Char → Option (List UInt8)
  | [] => some []
  | [a, b, '=', '='] => do
    let x ← base64Value? a
    let y ← base64Value? b
    some [(x * 4 + y / 16).toUInt8]
  | [a, b, c, '='] => do
    let x ← base64Value? a
    let y ← base64Value? b
    let z ← base64Value? c
    some [(x * 4 + y / 16).toUInt8, ((y % 16) * 16 + z / 4).toUInt8]
  | a :: b :: c :: d :: rest => do
    let x ← base64Value? a
    let y ← base64Value? b
    let z ← base64Value? c
    let w ← base64Value? d
    let tail ← decodeGroups? rest
    some ([(x * 4 + y / 16).toUInt8, ((y % 16) * 16 + z / 4).toUInt8, ((z % 4) * 64 + w).toUInt8] ++ tail)
  | _ => none

/-- Decodes base64 text to bytes, as described above. -/
def decodeBase64? (s : String) : Option ByteArray :=
  (decodeGroups? (s.toList.filter fun c => c != '\n' && c != '\r')).map fun bs => ⟨bs.toArray⟩

end ChannelMux.Text
