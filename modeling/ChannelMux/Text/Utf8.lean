import ChannelMux.Text.Bytes

/-! Decoding UTF-8 with replacement, as the Encoding Standard's UTF-8 decoder does it. -/

namespace ChannelMux.Text

/-- A character begun and not complete: the continuation bytes it still needs, the bits read so far,
and the bounds of its next byte. -/
structure Partial where
  needed : Nat
  bits : Nat
  lo : Nat
  hi : Nat
  needs : 0 < needed
  continues : 0x80 ≤ lo ∧ hi ≤ 0xBF
  lastBeyondAscii : needed = 1 → 0x80 ≤ bits * 64 + lo % 64
  moreBeyondAscii : 1 < needed → 2 ≤ bits * 64 + lo % 64

/-- What a byte read between characters gives: its character or an error's replacement, or the
character it begins. -/
def begin (b : UInt8) : List Char × Option Partial :=
  let n := b.toNat
  if n < 0x80 then ([Char.ofNat n], none)
  else if h2 : 0xC2 ≤ n ∧ n ≤ 0xDF then
    ([], some ⟨1, n % 32, 0x80, 0xBF, by decide, by decide, fun _ => by omega, by omega⟩)
  else if h3 : 0xE0 ≤ n ∧ n ≤ 0xEF then
    ([], some ⟨2, n % 16, if n = 0xE0 then 0xA0 else 0x80, if n = 0xED then 0x9F else 0xBF,
      by decide, by split <;> split <;> decide, by omega, fun _ => by split <;> omega⟩)
  else if h4 : 0xF0 ≤ n ∧ n ≤ 0xF4 then
    ([], some ⟨3, n % 8, if n = 0xF0 then 0x90 else 0x80, if n = 0xF4 then 0x8F else 0xBF,
      by decide, by split <;> split <;> decide, by omega, fun _ => by split <;> omega⟩)
  else ([replacementChar], none)

/-- What a byte read inside a character gives: the character it completes, or the next state of
the character; a byte outside the bounds is an error and is read again between characters. -/
def Partial.take (p : Partial) (b : UInt8) : List Char × Option Partial :=
  let n := b.toNat
  if within : p.lo ≤ n ∧ n ≤ p.hi then
    if last : p.needed = 1 then ([Char.ofNat (p.bits * 64 + n % 64)], none)
    else
      have needs := p.needs
      have more := p.moreBeyondAscii (by omega)
      have bounds := p.continues
      ([], some ⟨p.needed - 1, p.bits * 64 + n % 64, 0x80, 0xBF, by omega, by decide,
        fun _ => by omega, fun _ => by omega⟩)
  else (replacementChar :: (begin b).1, (begin b).2)

/-- One byte read in a state: between characters (`none`) or inside one. -/
def decodeStep : Option Partial → UInt8 → List Char × Option Partial
  | none, b => begin b
  | some p, b => p.take b

/-- What the end of the bytes gives in a state: a replacement inside a character. -/
def decodeEnd : Option Partial → List Char
  | none => []
  | some _ => [replacementChar]

/-- Decodes bytes from a state. -/
def decodeFrom : Option Partial → List UInt8 → List Char
  | q, [] => decodeEnd q
  | q, b :: bs => (decodeStep q b).1 ++ decodeFrom (decodeStep q b).2 bs

/-- Bytes read as UTF-8 text, each error replaced. -/
def utf8Decode (bs : List UInt8) : List Char := decodeFrom none bs

@[simp] theorem decodeFrom_nil (q : Option Partial) : decodeFrom q [] = decodeEnd q := rfl

@[simp] theorem decodeFrom_cons (q : Option Partial) (b : UInt8) (bs : List UInt8) :
    decodeFrom q (b :: bs) = (decodeStep q b).1 ++ decodeFrom (decodeStep q b).2 bs := rfl

theorem decodeStep_ascii (q : Option Partial) {b : UInt8} (ascii : b.toNat < 0x80) :
    decodeStep q b = (decodeEnd q ++ [Char.ofNat b.toNat], none) := by
  have begins : begin b = ([Char.ofNat b.toNat], none) := by simp [begin, ascii]
  cases q with
  | none => simpa [decodeStep, decodeEnd] using begins
  | some p =>
    have outside : ¬(p.lo ≤ b.toNat ∧ b.toNat ≤ p.hi) := by have := p.continues; omega
    simp [decodeStep, decodeEnd, Partial.take, outside, begins]

end ChannelMux.Text
