/-! Byte texts: strings of bytes that need not be well-formed UTF-8, as decoded base64 data and
percent-decoded parts of web addresses are. -/

namespace ChannelMux.Text

/-- A piece of a byte text read as UTF-8: a character, or a byte that begins none. -/
inductive Piece where
  | char (c : Char)
  | stray (b : UInt8)
  deriving DecidableEq, Repr, Inhabited

/-- The replacement character, which stands for a stray byte in plain text. -/
def replacementChar : Char := Char.ofNat 0xFFFD

/-- A piece as plain text shows it. -/
def Piece.shown : Piece → Char
  | .char c => c
  | .stray _ => replacementChar

/-- Whether a byte continues a character, within the bounds `lo` to `hi`. -/
def isContinuation (lo hi : Nat) (b : UInt8) : Bool := lo ≤ b.toNat && b.toNat ≤ hi

/-- The character that a lead byte starts, with the number of continuation bytes it takes from the
bytes that follow; `none` when the lead byte and those bytes do not make one. -/
def decodeOne? (b : UInt8) (rest : List UInt8) : Option (Char × Nat) :=
  let n := b.toNat
  let at_ (k : Nat) : UInt8 := rest.getD k 0
  let tail (k : Nat) : Nat := (at_ k).toNat % 64
  if n < 0x80 then some (Char.ofNat n, 0)
  else if 0xC2 ≤ n && n ≤ 0xDF then
    if isContinuation 0x80 0xBF (at_ 0) then some (Char.ofNat ((n % 32) * 64 + tail 0), 1)
    else none
  else if 0xE0 ≤ n && n ≤ 0xEF then
    let lo := if n == 0xE0 then 0xA0 else 0x80
    let hi := if n == 0xED then 0x9F else 0xBF
    if isContinuation lo hi (at_ 0) && isContinuation 0x80 0xBF (at_ 1) then
      some (Char.ofNat ((n % 16) * 4096 + tail 0 * 64 + tail 1), 2)
    else none
  else if 0xF0 ≤ n && n ≤ 0xF4 then
    let lo := if n == 0xF0 then 0x90 else 0x80
    let hi := if n == 0xF4 then 0x8F else 0xBF
    if isContinuation lo hi (at_ 0) && isContinuation 0x80 0xBF (at_ 1) &&
        isContinuation 0x80 0xBF (at_ 2) then
      some (Char.ofNat ((n % 8) * 262144 + tail 0 * 4096 + tail 1 * 64 + tail 2), 3)
    else none
  else none

/-- Bytes read as UTF-8, piece by piece. -/
def decodePieces (bs : List UInt8) : List Piece :=
  match bs with
  | [] => []
  | b :: rest =>
    match decodeOne? b rest with
    | some (c, used) => .char c :: decodePieces (rest.drop used)
    | none => .stray b :: decodePieces rest
termination_by bs.length
decreasing_by
  all_goals simp only [List.length_cons, List.length_drop]
  all_goals omega

/-- A string of bytes. -/
structure ByteText where
  bytes : List UInt8
  deriving DecidableEq, Repr, Inhabited

namespace ByteText

/-- The bytes of a text. -/
def ofString (s : String) : ByteText := ⟨s.toUTF8.toList⟩

instance : Append ByteText := ⟨fun a b => ⟨a.bytes ++ b.bytes⟩⟩

/-- Whether there are no bytes. -/
def isEmpty (t : ByteText) : Bool := t.bytes.isEmpty

/-- Whether an ASCII character is one of the bytes. -/
def contains (t : ByteText) (c : Char) : Bool := t.bytes.contains c.toUInt8

/-- The pieces of the bytes read as UTF-8. -/
def pieces (t : ByteText) : List Piece := decodePieces t.bytes

/-- The bytes as plain text: each stray byte becomes the replacement character. -/
def text (t : ByteText) : String := String.ofList (t.pieces.map Piece.shown)

@[simp] theorem bytes_append (a b : ByteText) : (a ++ b).bytes = a.bytes ++ b.bytes := rfl

end ByteText

end ChannelMux.Text
