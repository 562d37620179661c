/-! Floating-point numerals. -/

namespace ChannelMux.Text

/-- Value of a hexadecimal digit. -/
def hexValue? (c : Char) : Option Nat :=
  if '0' ≤ c && c ≤ '9' then some (c.toNat - '0'.toNat)
  else if 'a' ≤ c && c ≤ 'f' then some (c.toNat - 'a'.toNat + 10)
  else if 'A' ≤ c && c ≤ 'F' then some (c.toNat - 'A'.toNat + 10)
  else none

/-- Value of a digit in base 10 or 16. -/
def digitValue? (base : Nat) (c : Char) : Option Nat :=
  if base = 16 then hexValue? c
  else if '0' ≤ c && c ≤ '9' then some (c.toNat - '0'.toNat) else none

/-- Reads digits of a base onto `acc`, stepping over underscores, and returns the value, the
digit count, whether an underscore was seen (or `under` already was), and the rest. -/
def readRun (base acc count : Nat) (under : Bool) : List Char → Nat × Nat × Bool × List Char
  | c :: cs =>
    match digitValue? base c with
    | some d => readRun base (acc * base + d) (count + 1) under cs
    | none =>
      if c = '_' then readRun base acc count true cs else (acc, count, under, c :: cs)
  | [] => (acc, count, under, [])

/-- Reads exponent digits onto `acc`, stepping over underscores. -/
def readExponentDigits (acc : Nat) (under : Bool) : List Char → Nat × Bool × List Char
  | c :: cs =>
    if '0' ≤ c && c ≤ '9' then
      readExponentDigits (if acc < 10000 then acc * 10 + (c.toNat - '0'.toNat) else acc) under cs
    else if c = '_' then readExponentDigits acc true cs
    else (acc, under, c :: cs)
  | [] => (acc, under, [])

/-- An optional sign and decimal digits, as an exponent is written: the first character after the
sign must be a digit, and underscores may follow it. -/
def readExponent (cs : List Char) : Option (Int × Bool × List Char) :=
  let (negative, rest) : Bool × List Char :=
    match cs with
    | '-' :: r => (true, r)
    | '+' :: r => (false, r)
    | _ => (false, cs)
  match rest with
  | c :: _ =>
    if '0' ≤ c && c ≤ '9' then
      let (value, under, tail) := readExponentDigits 0 false rest
      some (if negative then -(value : Int) else value, under, tail)
    else none
  | [] => none

/-- Underscores stand only between two digits, or between the base prefix and a digit. -/
def underscoresFit (hex : Bool) (cs : List Char) : Bool :=
  let digitLike (c : Char) : Bool := ('0' ≤ c && c ≤ '9') || (hex && (hexValue? c).isSome)
  let rec go : Bool → List Char → Bool
    | afterDigit, '_' :: rest =>
      afterDigit &&
        match rest with
        | c :: _ => digitLike c
        | [] => false
    | _, c :: rest => go (digitLike c) rest
    | _, [] => true
  if hex then go true (cs.drop 2) else go false cs

/-- The double nearest to `(m + δ) · 2^e`, ties going to the even neighbour, where `δ` is zero when
`sticky` is false and lies strictly between zero and one when it is true. -/
def roundScaled (m : Nat) (e : Int) (sticky : Bool) : Float :=
  if m = 0 then 0.0
  else
    let bits : Int := m.log2 + 1
    if 1025 < bits + e then 1.0 / 0.0
    else
      let shift : Int := max (bits - 53) (-1074 - e)
      if shift ≤ 0 then Float.scaleB m.toFloat e
      else if bits < shift then 0.0
      else
        let k := shift.toNat
        let q := m >>> k
        let r := m % Nat.pow 2 k
        let half := Nat.pow 2 (k - 1)
        let up := half < r || (r = half && (sticky || q % 2 = 1))
        Float.scaleB (if up then q + 1 else q).toFloat (e + shift)

/-- The double nearest to `m · 2^e`. -/
def binaryScaled (m : Nat) (e : Int) : Float := roundScaled m e false

/-- The double nearest to `p / q`: the quotient is taken with at least 64 bits, and a nonzero
remainder only breaks ties. -/
def ratioScaled (p q : Nat) : Float :=
  let s : Int := 64 + (q.log2 : Int) - p.log2
  if 0 ≤ s then
    let n := p <<< s.toNat
    roundScaled (n / q) (-s) (n % q ≠ 0)
  else
    let d := q <<< (-s).toNat
    roundScaled (p / d) (-s) (p % d ≠ 0)

/-- The double nearest to `m · 10^e`. A value whose leading digit lies more than 400 places
below the point is zero; one whose leading digit lies more than 400 places above it is infinite. -/
def decimalScaled (m : Nat) (e : Int) : Float :=
  let digits : Int := (Nat.toDigits 10 m).length
  if m = 0 || digits + e < -400 then 0.0
  else if 400 < digits + e then 1.0 / 0.0
  else if e < 0 then ratioScaled m (Nat.pow 10 e.natAbs)
  else roundScaled (m * Nat.pow 10 e.toNat) 0 false

/-- Whether a character list starts with a word, ignoring ASCII case. -/
def startsWithWord (cs : List Char) (word : String) : Bool :=
  (cs.take word.length).map Char.toLower == word.toList

/-- The unsigned numeral after the sign, or `none` if the text is not one. -/
def readUnsignedReal (cs : List Char) : Option Float :=
  match cs with
  | '0' :: x :: rest =>
    if x = 'x' || x = 'X' then
      let (whole, wholeCount, u1, afterWhole) := readRun 16 0 0 false rest
      let (mantissa, fracCount, u2, afterFrac) : Nat × Nat × Bool × List Char :=
        match afterWhole with
        | '.' :: r => readRun 16 whole 0 u1 r
        | _ => (whole, 0, u1, afterWhole)
      if wholeCount + fracCount = 0 then none
      else match afterFrac with
        | p :: r =>
          if p = 'p' || p = 'P' then
            match readExponent r with
            | some (exp, u3, []) =>
              if (u2 || u3) && !underscoresFit true cs then none
              else some (binaryScaled mantissa (exp - 4 * fracCount))
            | _ => none
          else none
        | [] => none
    else readDecimalReal cs
  | _ => readDecimalReal cs
where
  /-- The decimal form. -/
  readDecimalReal (cs : List Char) : Option Float :=
    let (whole, wholeCount, u1, afterWhole) := readRun 10 0 0 false cs
    let (mantissa, fracCount, u2, afterFrac) : Nat × Nat × Bool × List Char :=
      match afterWhole with
      | '.' :: r => readRun 10 whole 0 u1 r
      | _ => (whole, 0, u1, afterWhole)
    let fits (under : Bool) : Bool := !under || underscoresFit false cs
    if wholeCount + fracCount = 0 then none
    else match afterFrac with
      | [] => if fits u2 then some (decimalScaled mantissa (-(fracCount : Int))) else none
      | e :: r =>
        if e = 'e' || e = 'E' then
          match readExponent r with
          | some (exp, u3, []) =>
            if fits (u2 || u3) then some (decimalScaled mantissa (exp - fracCount)) else none
          | _ => none
        else none

/-- Reads a floating-point numeral as described above. A finite numeral whose nearest double is
infinite is refused as out of range. -/
def readReal (s : String) : Option Float :=
  let cs := s.toList
  let (negative, signed, rest) : Bool × Bool × List Char :=
    match cs with
    | '-' :: r => (true, true, r)
    | '+' :: r => (false, true, r)
    | _ => (false, false, cs)
  let infinity : Float := 1.0 / 0.0
  let word :=
    if startsWithWord rest "infinity" && rest.length == 8 then some infinity
    else if startsWithWord rest "inf" && rest.length == 3 then some infinity
    else if !signed && startsWithWord rest "nan" && rest.length == 3 then some (0.0 / 0.0)
    else none
  let value := match word with
    | some w => some w
    | none => (readUnsignedReal rest).filter fun v => !v.isInf
  value.map fun v => if negative then -v else v

/-- A double as a 64-bit integer, rounded toward zero. A value outside the 64-bit range, and NaN,
give the smallest 64-bit integer, as the machine conversion does. -/
def truncInt64 (x : Float) : Int :=
  if x.isNaN || x ≥ 9223372036854775808.0 || x < -9223372036854775808.0 then -9223372036854775808
  else x.toInt64.toInt

end ChannelMux.Text
