import ChannelMux.Text.Quote

/-! Durations written with units. -/

namespace ChannelMux.Text

/-- Why a duration text was refused. -/
inductive DurationFault where
  /-- Bad shape or a value out of range. -/
  | invalid
  /-- A number with no unit after it. -/
  | missingUnit
  /-- A unit that is not one of the known ones. -/
  | unknownUnit (unit : String)
  deriving DecidableEq, Repr

/-- Nanoseconds in one of the known units. -/
def unitNanos : String → Option Nat
  | "ns" => some 1
  | "us" => some 1000
  | "µs" => some 1000
  | "μs" => some 1000
  | "ms" => some 1000000
  | "s" => some 1000000000
  | "m" => some 60000000000
  | "h" => some 3600000000000
  | _ => none

/-- Quotes a text for a duration message: non-ASCII and control characters are written as
`\x` escapes of their UTF-8 bytes, a quote or backslash gets a backslash. -/
def quoteBytes (s : String) : String :=
  let byteEscape (b : UInt8) : List Char := ['\\', 'x', hexDigit (b.toNat / 16), hexDigit (b.toNat % 16)]
  let one (c : Char) : List Char :=
    if c.toNat < 0x20 || 0x80 ≤ c.toNat then (String.singleton c).toUTF8.toList.flatMap byteEscape
    else if c = '"' || c = '\\' then ['\\', c]
    else [c]
  String.ofList ('"' :: (s.toList.flatMap one ++ ['"']))

/-- The message for a refused duration text. -/
def DurationFault.message (original : String) : DurationFault → String
  | .invalid => "time: invalid duration " ++ quoteBytes original
  | .missingUnit => "time: missing unit in duration " ++ quoteBytes original
  | .unknownUnit u => "time: unknown unit " ++ quoteBytes u ++ " in duration " ++ quoteBytes original

/-- Whole digits of a term; `none` once the value passes 2^63. -/
def readWhole (acc : Nat) : List Char → Option (Nat × List Char)
  | c :: cs =>
    if '0' ≤ c && c ≤ '9' then
      if Nat.pow 2 63 / 10 < acc then none
      else
        let next := acc * 10 + (c.toNat - '0'.toNat)
        if Nat.pow 2 63 < next then none else readWhole next cs
    else some (acc, c :: cs)
  | [] => some (acc, [])

/-- Fraction digits of a term: the value kept, its scale as a power of ten, the rest. Digits past
the precision that fits below 2^63 are skipped. -/
def readFraction (acc : Nat) (scale : Float) (full : Bool) : List Char → Nat × Float × List Char
  | c :: cs =>
    if '0' ≤ c && c ≤ '9' then
      if full then readFraction acc scale true cs
      else if (Nat.pow 2 63 - 1) / 10 < acc then readFraction acc scale true cs
      else
        let next := acc * 10 + (c.toNat - '0'.toNat)
        if Nat.pow 2 63 < next then readFraction acc scale true cs
        else readFraction next (scale * 10) false cs
    else (acc, scale, c :: cs)
  | [] => (acc, scale, [])

/-- Whether a character ends a unit. -/
def endsUnit (c : Char) : Bool := c = '.' || ('0' ≤ c && c ≤ '9')

/-- Reads the terms of a duration, adding their nanoseconds onto `total`. Each term consumes at
least one character, so the length of the text bounds the recursion. -/
def readTerms (total : Nat) : List Char → Except DurationFault Nat
  | [] => .ok total
  | c :: tail =>
    let cs := c :: tail
    if !(c = '.' || ('0' ≤ c && c ≤ '9')) then .error .invalid
    else
      match readWhole 0 cs with
      | none => .error .invalid
      | some (whole, afterWhole) =>
        let sawWhole := afterWhole.length < cs.length
        let (fraction, scale, afterFrac, sawFrac) : Nat × Float × List Char × Bool :=
          match afterWhole with
          | '.' :: r =>
            let (f, sc, rest) := readFraction 0 1 false r
            (f, sc, rest, rest.length < r.length)
          | _ => (0, 1, afterWhole, false)
        if !sawWhole && !sawFrac then .error .invalid
        else
          let unitChars := afterFrac.takeWhile (fun c => !endsUnit c)
          let rest := afterFrac.dropWhile (fun c => !endsUnit c)
          if unitChars.isEmpty then .error .missingUnit
          else
            let unitText := String.ofList unitChars
            match unitNanos unitText with
            | none => .error (.unknownUnit unitText)
            | some unit =>
              if Nat.pow 2 63 / unit < whole then .error .invalid
              else
                let v := whole * unit
                let v := if fraction > 0 then
                    v + (fraction.toFloat * (unit.toFloat / scale)).toUInt64.toNat
                  else v
                if Nat.pow 2 63 < v then .error .invalid
                else
                  let total := total + v
                  if Nat.pow 2 63 < total then .error .invalid
                  else if _h : rest.length < cs.length then readTerms total rest
                  else .error .invalid
termination_by cs => cs.length
decreasing_by assumption

/-- Reads a duration text as a count of nanoseconds. -/
def readDuration (s : String) : Except DurationFault Int :=
  let cs := s.toList
  let (negative, rest) : Bool × List Char :=
    match cs with
    | '-' :: r => (true, r)
    | '+' :: r => (false, r)
    | _ => (false, cs)
  if rest = ['0'] then .ok 0
  else if rest.isEmpty then .error .invalid
  else
    match readTerms 0 rest with
    | .error e => .error e
    | .ok d =>
      if negative then .ok (-(d : Int))
      else if Nat.pow 2 63 - 1 < d then .error .invalid
      else .ok d

end ChannelMux.Text
