import ChannelMux.Text.Real
import ChannelMux.Text.Bytes

/-! What the text of a scalar stands for, and under which tag. -/

namespace ChannelMux.Yaml

/-- What a scalar's text stands for. -/
inductive ScalarValue where
  | null
  | bool (b : Bool)
  /-- An integer in the signed 64-bit range. -/
  | int (n : Int)
  /-- An integer above the signed 64-bit range that fits in 64 bits unsigned. -/
  | uint (n : Nat)
  | float (x : Float)
  | timestamp
  | text (s : String)
  /-- The bytes a binary scalar's base64 text encodes. -/
  | binary (data : Text.ByteText)
  deriving Inhabited

/-- The text a value stands for when it is text or binary data, binary data read as plain text.
Reading it so loses only stray bytes, which no word or number holds. -/
def ScalarValue.text? : ScalarValue → Option String
  | .text s => some s
  | .binary d => some d.text
  | _ => none

/-- The value of a digit in any base up to 36, or `none`. -/
def digitValue (c : Char) : Option Nat :=
  if '0' ≤ c && c ≤ '9' then some (c.toNat - '0'.toNat)
  else if 'a' ≤ c.toLower && c.toLower ≤ 'z' then some (c.toLower.toNat - 'a'.toNat + 10)
  else none

/-- Reads digits of a base onto `acc`; `none` at a character that is not such a digit or when
the value passes 2^64 - 1. -/
def readBaseDigits? (base : Nat) : Nat → List Char → Option Nat
  | acc, [] => some acc
  | acc, c :: cs =>
    match digitValue c with
    | some d =>
      if d < base then
        let next := acc * base + d
        if next < Nat.pow 2 64 then readBaseDigits? base next cs else none
      else none
    | none => none

/-- An unsigned integer with its base read from a prefix: `0b`, `0o`, `0x` (when digits
follow), a bare leading `0` for octal, and base 10 otherwise. -/
def readUnsignedPrefixed? (cs : List Char) : Option Nat :=
  match cs with
  | [] => none
  | '0' :: p :: rest@(_ :: _) =>
    if p.toLower == 'b' then readBaseDigits? 2 0 rest
    else if p.toLower == 'o' then readBaseDigits? 8 0 rest
    else if p.toLower == 'x' then readBaseDigits? 16 0 rest
    else readBaseDigits? 8 0 (p :: rest)
  | '0' :: rest => readBaseDigits? 8 0 rest
  | _ => readBaseDigits? 10 0 cs

/-- A signed integer in the 64-bit range, with an optional sign before the prefixed digits. -/
def readSignedPrefixed? (cs : List Char) : Option Int :=
  let (negative, rest) : Bool × List Char :=
    match cs with
    | '+' :: r => (false, r)
    | '-' :: r => (true, r)
    | _ => (false, cs)
  match readUnsignedPrefixed? rest with
  | none => none
  | some n =>
    if negative then (if n ≤ Nat.pow 2 63 then some (-(n : Int)) else none)
    else (if n < Nat.pow 2 63 then some n else none)

/-- Digits of a base after an optional sign, as a reading in a given base takes them: a value in
the signed 64-bit range, or `none`. -/
def readSignedDigits? (base : Nat) (cs : List Char) : Option Int :=
  let (negative, rest) : Bool × List Char :=
    match cs with
    | '+' :: r => (false, r)
    | '-' :: r => (true, r)
    | _ => (false, cs)
  if rest.isEmpty then none
  else match readBaseDigits? base 0 rest with
    | none => none
    | some n =>
      if negative then (if n ≤ Nat.pow 2 63 then some (-(n : Int)) else none)
      else (if n < Nat.pow 2 63 then some n else none)

/-- The later reading of the `0b` and `0o` forms, for texts the prefixed readings refuse. -/
def readBaseFallback? (cs : List Char) : Option ScalarValue :=
  let baseOf (p : Char) : Nat := if p == 'b' then 2 else 8
  match cs with
  | '0' :: p :: rest =>
    if p == 'b' || p == 'o' then
      match readSignedDigits? (baseOf p) rest with
      | some n => some (.int n)
      | none =>
        if rest.isEmpty then none else (readBaseDigits? (baseOf p) 0 rest).map ScalarValue.uint
    else none
  | '-' :: '0' :: p :: rest =>
    if p == 'b' || p == 'o' then (readSignedDigits? (baseOf p) ('-' :: rest)).map ScalarValue.int
    else none
  | _ => none

/-- Whether a list starts with at least one decimal digit, answering the rest after them. -/
def dropDigits (cs : List Char) : Nat × List Char :=
  let digits := cs.takeWhile Char.isDigit
  (digits.length, cs.drop digits.length)

/-- The decimal fraction form: an optional sign, then a dot with digits or digits with an
optional dot and digits, then an optional exponent. -/
def isDecimalFraction (cs : List Char) : Bool :=
  let afterSign := match cs with
    | '+' :: r | '-' :: r => r
    | _ => cs
  let afterMantissa : Option (List Char) :=
    match afterSign with
    | '.' :: r =>
      let (n, rest) := dropDigits r
      if n = 0 then none else some rest
    | _ =>
      let (n, rest) := dropDigits afterSign
      if n = 0 then none
      else match rest with
        | '.' :: r => some (dropDigits r).2
        | _ => some rest
  match afterMantissa with
  | none => false
  | some [] => true
  | some (e :: r) =>
    if e == 'e' || e == 'E' then
      let r := match r with
        | '+' :: t | '-' :: t => t
        | _ => r
      let (n, rest) := dropDigits r
      n > 0 && rest.isEmpty
    else false

/-- One or two digits as a number, with the rest; with `fixed` exactly two are required. -/
def readShortNumber? (fixed : Bool) : List Char → Option (Nat × List Char)
  | a :: b :: rest =>
    if a.isDigit then
      if b.isDigit then some ((a.toNat - 48) * 10 + (b.toNat - 48), rest)
      else if fixed then none else some (a.toNat - 48, b :: rest)
    else none
  | [a] => if a.isDigit && !fixed then some (a.toNat - 48, []) else none
  | [] => none

/-- The number of days of a month in a year of the Gregorian calendar. -/
def daysInMonth (month year : Nat) : Nat :=
  if month == 2 then
    (if year % 4 == 0 && (year % 100 != 0 || year % 400 == 0) then 29 else 28)
  else if month == 4 || month == 6 || month == 9 || month == 11 then 30
  else 31

/-- The time of day after a date: hour, minute and second of one or two digits each, then an
optional fraction of digits after a dot or comma. Answers the rest. -/
def readClock? (cs : List Char) : Option (List Char) := do
  let (hour, r) ← readShortNumber? false cs
  let r ← match r with | ':' :: t => some t | _ => none
  let (minute, r) ← readShortNumber? false r
  let r ← match r with | ':' :: t => some t | _ => none
  let (second, r) ← readShortNumber? false r
  if hour ≥ 24 || minute ≥ 60 || second ≥ 60 then none
  match r with
  | p :: d :: t =>
    if (p == '.' || p == ',') && d.isDigit then some (t.dropWhile Char.isDigit) else some r
  | _ => some r

/-- A zone after a time: `Z`, or a sign with two-digit hours and minutes around a colon. -/
def readZone? : List Char → Option (List Char)
  | 'Z' :: rest => some rest
  | s :: h1 :: h2 :: ':' :: m1 :: m2 :: rest => do
    let (hour, _) ← readShortNumber? true [h1, h2]
    let (minute, _) ← readShortNumber? true [m1, m2]
    if hour > 24 || minute > 60 || !(s == '+' || s == '-') then none else some rest
  | _ => none

/-- Whether a text is a date (`YYYY-M-D`), a date and time joined by `T` or `t` with a zone, or a
date and time joined by spaces without a zone. -/
def isTimestamp (s : String) : Bool :=
  let cs := s.toList
  let year := cs.takeWhile Char.isDigit
  if year.length != 4 then false
  else
    match cs.drop 4 with
    | '-' :: rest =>
      let parsed : Option (Nat × Nat × List Char) := do
        let (month, r) ← readShortNumber? false rest
        let r ← match r with | '-' :: t => some t | _ => none
        let (day, r) ← readShortNumber? false r
        if month == 0 || month > 12 then none
        some (month, day, r)
      match parsed with
      | none => false
      | some (month, day, tail) =>
        let yearValue := year.foldl (fun acc c => acc * 10 + (c.toNat - 48)) 0
        let dayFits := 1 ≤ day && day ≤ daysInMonth month yearValue
        let timeFits : Bool :=
          match tail with
          | [] => true
          | t :: more =>
            if t == 'T' || t == 't' then
              match readClock? more with
              | some r => (readZone? r).any List.isEmpty
              | none => false
            else if t == ' ' then
              (readClock? (more.dropWhile (· == ' '))).any List.isEmpty
            else false
        dayFits && timeFits
    | _ => false

/-- The words looked up before anything else, with their tags and values. -/
def knownWord? (s : String) : Option (String × ScalarValue) :=
  if s == "true" || s == "True" || s == "TRUE" then some ("!!bool", .bool true)
  else if s == "false" || s == "False" || s == "FALSE" then some ("!!bool", .bool false)
  else if s == "" || s == "~" || s == "null" || s == "Null" || s == "NULL" then some ("!!null", .null)
  else if s == ".nan" || s == ".NaN" || s == ".NAN" then some ("!!float", .float (0.0 / 0.0))
  else if s == ".inf" || s == ".Inf" || s == ".INF" || s == "+.inf" || s == "+.Inf" || s == "+.INF" then
    some ("!!float", .float (1.0 / 0.0))
  else if s == "-.inf" || s == "-.Inf" || s == "-.INF" then some ("!!float", .float (-1.0 / 0.0))
  else none

/-- How the first character of a text directs resolution. -/
inductive Hint where
  | none
  | word
  | dot
  | number
  deriving DecidableEq

/-- The hint of a text's first character: the empty text and `yYnNtTfFoO~` are looked up as
words, a dot may start a fraction, and a digit or sign may start a number. -/
def hintOf (s : String) : Hint :=
  match s.toList with
  | [] => .word
  | c :: _ =>
    if c.isDigit || c == '+' || c == '-' then .number
    else if c == '.' then .dot
    else if "yYnNtTfFoO~".toList.contains c then .word
    else .none

/-- The tag and value a text resolves to when read under a tag that asks for no particular kind
(`timestampToo` when a date may be read as a timestamp). -/
def resolveText (timestampToo : Bool) (s : String) : String × ScalarValue :=
  let hint := hintOf s
  if hint == .none then ("!!str", .text s)
  else match knownWord? s with
  | some found => found
  | none =>
    match hint with
    | .dot =>
      match Text.readReal s with
      | some x => ("!!float", .float x)
      | none => ("!!str", .text s)
    | .number =>
      if timestampToo && isTimestamp s then ("!!timestamp", .timestamp)
      else
        let plain := s.toList.filter (· != '_')
        match readSignedPrefixed? plain with
        | some n => ("!!int", .int n)
        | none =>
          match readUnsignedPrefixed? plain with
          | some n => ("!!int", .uint n)
          | none =>
            let fraction :=
              if isDecimalFraction plain then Text.readReal (String.ofList plain) else none
            match fraction with
            | some x => ("!!float", .float x)
            | none =>
              match readBaseFallback? plain with
              | some v => ("!!int", v)
              | none => ("!!str", .text s)
    | _ => ("!!str", .text s)

/-- The tag a plain scalar without an explicit tag gets. -/
def plainTag (s : String) : String := (resolveText true s).1

/-- Tags that resolution checks a text against: the standard scalar tags. -/
def resolvableTag (tag : String) : Bool :=
  ["", "!!str", "!!bool", "!!int", "!!float", "!!timestamp", "!!null"].contains tag

/-- Resolves a scalar's text under its tag. Under a tag that resolution does not know, the text
stands for itself. -/
def resolveTagged (tag s : String) : Except String (String × ScalarValue) :=
  if !resolvableTag tag then .ok (tag, .text s)
  else if tag == "!!str" then .ok ("!!str", .text s)
  else
    let (found, value) := resolveText (tag == "" || tag == "!!timestamp") s
    if tag == "" || tag == found then .ok (found, value)
    else match tag, value with
      | "!!float", .int n => .ok ("!!float", .float (Float.ofInt n))
      | _, _ =>
        .error ("cannot decode " ++ found ++ " `" ++ s ++ "` as a " ++ tag)

end ChannelMux.Yaml
