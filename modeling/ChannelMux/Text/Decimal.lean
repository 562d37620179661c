import ChannelMux.Text.Quote

/-! Decimal integers as option values write them: an optional sign, then one or more ASCII digits,
nothing else. A value must fit in 64-bit two's complement. -/

namespace ChannelMux.Text

/-- Why a text is not a 64-bit decimal integer. -/
inductive NumberFault where
  | malformed
  | outOfRange
  deriving DecidableEq, Repr

/-- The word a number reader uses for a fault. -/
def NumberFault.describe : NumberFault → String
  | .malformed => "invalid syntax"
  | .outOfRange => "value out of range"

/-- Reads ASCII digits onto `acc`, failing with a range fault as soon as the value passes `bound`
and with a syntax fault at the first non-digit. -/
def readDigits (bound : Nat) : Nat → List Char → Except NumberFault Nat
  | acc, [] => .ok acc
  | acc, c :: cs =>
    if '0' ≤ c && c ≤ '9' then
      let next := acc * 10 + (c.toNat - '0'.toNat)
      if bound < next then .error .outOfRange else readDigits bound next cs
    else .error .malformed

/-- A signed decimal integer in the 64-bit range. -/
def readInt64 (cs : List Char) : Except NumberFault Int :=
  let (negative, digits) : Bool × List Char :=
    match cs with
    | '-' :: rest => (true, rest)
    | '+' :: rest => (false, rest)
    | _ => (false, cs)
  if digits.isEmpty then .error .malformed
  else
    match readDigits (Nat.pow 2 64 - 1) 0 digits with
    | .ok n =>
      if negative then (if Nat.pow 2 63 < n then .error .outOfRange else .ok (-(n : Int)))
      else (if Nat.pow 2 63 - 1 < n then .error .outOfRange else .ok n)
    | .error e => .error e

/-- The message of a number reader that gave up: which reader, the quoted text and the fault. -/
def numberMessage (reader text : String) (fault : NumberFault) : String :=
  "strconv." ++ reader ++ ": parsing " ++ quote text ++ ": " ++ fault.describe

end ChannelMux.Text
