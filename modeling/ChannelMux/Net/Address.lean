import ChannelMux.Text.Quote
import ChannelMux.Text.Real

/-! IP address literals, read and written. A text is an IPv4 address when a `.` comes before any `:`
or `%`: four decimal fields from 0 to 255, none with a leading zero. -/

namespace ChannelMux.Net

open Text (Piece ByteText)

/-- An IP address: four octets, or eight 16-bit groups with a zone (empty when there is none). -/
inductive IpAddress where
  | v4 (octets : List Nat)
  | v6 (groups : List Nat) (zone : String)
  deriving DecidableEq, Repr

/-- A text being read as an address: all of it, which a problem quotes, and the part being read,
whose rest a problem quotes from where reading stopped. -/
structure Reading where
  input : List Piece
  part : List Piece

/-- The same reading, narrowed to the last `n` pieces of its part. -/
def Reading.suffix (r : Reading) (n : Nat) : Reading :=
  { r with part := r.part.drop (r.part.length - n) }

/-- The message of a text that is no address: the reason, and the rest of the part being read where
reading stopped, when that is not empty. -/
def Reading.problem (r : Reading) (reason : String) (rest : List Char) : String :=
  "ParseAddr(" ++ Text.quotePieces r.input ++ "): " ++ reason ++
    (if rest.isEmpty then ""
     else " (at " ++ Text.quotePieces (r.suffix rest.length).part ++ ")")

/-- Reads the dotted fields of an IPv4 address in `s`, the rest of the part being read. -/
def readV4Fields (r : Reading) :
    List Char → Option Char → Nat → Nat → List Nat → Except String (List Nat)
  | [], _, value, _, done =>
    if done.length < 3 then .error (r.problem "IPv4 address too short" [])
    else .ok (value :: done).reverse
  | c :: rest, prev, value, digits, done =>
    if c.isDigit then
      if digits == 1 && value == 0 then
        .error (r.problem "IPv4 field has octet with leading zero" [])
      else
        let v := value * 10 + (c.toNat - 48)
        if v > 255 then .error (r.problem "IPv4 field has value >255" [])
        else readV4Fields r rest (some c) v (digits + 1) done
    else if c == '.' then
      if prev.isNone || rest.isEmpty || prev == some '.' then
        .error (r.problem "IPv4 field must have at least one digit" (c :: rest))
      else if done.length == 3 then .error (r.problem "IPv4 address too long" [])
      else readV4Fields r rest (some c) 0 0 (value :: done)
    else .error (r.problem "unexpected character" (c :: rest))

/-- The hexadecimal digits at the start of a group: their value and the rest, or the problem of a
fifth digit. No digits give none. -/
def readHexGroup (r : Reading) (s : List Char) : Except String (Option Nat × List Char) :=
  let digits := s.takeWhile fun c => (Text.hexValue? c).isSome
  if digits.length > 4 then .error (r.problem "each group must have 4 or less digits" s)
  else if digits.isEmpty then .ok (none, s)
  else .ok (some (digits.foldl (fun acc c => acc * 16 + (Text.hexValue? c).getD 0) 0), s.drop digits.length)

/-- Reads the groups of an IPv6 address from `s`: `groups` are read so far, and `gap` is the
number of groups before a `::`, if one was read. Answers the groups, the gap and what is left. -/
def readV6Groups (r : Reading) : Nat → List Nat → Option Nat → List Char →
    Except String (List Nat × Option Nat × List Char)
  | 0, groups, gap, s => .ok (groups, gap, s)
  | fuel + 1, groups, gap, s =>
    if groups.length ≥ 8 then .ok (groups, gap, s)
    else do
      let (value, after) ← readHexGroup r s
      let some value := value
        | throw (r.problem "each colon-separated field must have at least one digit" s)
      if after.head? == some '.' then
        if gap.isNone && groups.length != 6 then
          throw (r.problem
            "embedded IPv4 address must replace the final 2 fields of the address" s)
        if groups.length + 2 > 8 then
          throw (r.problem
            "too many hex fields to fit an embedded IPv4 at the end of the address" s)
        let octets ← readV4Fields (r.suffix s.length) s none 0 0 []
        let high := octets.getD 0 0 * 256 + octets.getD 1 0
        let low := octets.getD 2 0 * 256 + octets.getD 3 0
        return (groups ++ [high, low], gap, [])
      let groups := groups ++ [value]
      match after with
      | [] => return (groups, gap, [])
      | c :: rest =>
        if c != ':' then throw (r.problem "unexpected character, want colon" after)
        match rest with
        | [] => throw (r.problem "colon must be followed by more characters" after)
        | ':' :: more =>
          if gap.isSome then throw (r.problem "multiple :: in address" rest)
          if more.isEmpty then return (groups, some groups.length, [])
          readV6Groups r fuel groups (some groups.length) more
        | _ => readV6Groups r fuel groups gap rest

/-- Reads an IPv6 address, its zone included: the eight groups, zero groups put in place of the
`::`, and the zone. -/
def readV6 (input : List Piece) : Except String IpAddress := do
  let cs := input.map Piece.shown
  let (body, zone) := match cs.span (· != '%') with
    | (b, []) => (b, none)
    | (b, _ :: z) => (b, some z)
  let r : Reading := { input, part := input.take body.length }
  if zone == some [] then throw (r.problem "zone must be a non-empty string" [])
  let zoneText := String.ofList (zone.getD [])
  let (gap, s) : Option Nat × List Char :=
    match body with
    | ':' :: ':' :: rest => (some 0, rest)
    | _ => (none, body)
  if gap.isSome && s.isEmpty then return .v6 (List.replicate 8 0) zoneText
  let (groups, gap, rest) ← readV6Groups r 8 [] gap s
  if !rest.isEmpty then throw (r.problem "trailing garbage after address" rest)
  match gap with
  | none =>
    if groups.length < 8 then throw (r.problem "address string too short" [])
    return .v6 groups zoneText
  | some at_ =>
    if groups.length ≥ 8 then
      throw (r.problem "the :: must expand to at least one field of zeros" [])
    return .v6 (groups.take at_ ++ List.replicate (8 - groups.length) 0 ++ groups.drop at_) zoneText

/-- Reads an IP address literal, or says why the bytes are none. The first `.`, `:` or `%`
decides how they are read. -/
def readIp (input : ByteText) : Except String IpAddress :=
  let ps := input.pieces
  let cs := ps.map Piece.shown
  let r : Reading := { input := ps, part := ps }
  match cs.find? fun c => c == '.' || c == ':' || c == '%' with
  | some '.' => (readV4Fields r cs none 0 0 []).map IpAddress.v4
  | some ':' => readV6 ps
  | some _ => .error (r.problem "missing IPv6 address" [])
  | none => .error (r.problem "unable to parse IP" [])

/-- The first longest run of two or more zero groups: where it starts and how long it is. -/
def zeroRun (groups : List Nat) : Option (Nat × Nat) :=
  let step (best : Option (Nat × Nat)) (i : Nat) : Option (Nat × Nat) :=
    let len := ((groups.drop i).takeWhile (· == 0)).length
    let longer := match best with
      | none => true
      | some (_, l) => len > l
    if len ≥ 2 && longer then some (i, len) else best
  (List.range groups.length).foldl step none

/-- An address as text. -/
def IpAddress.render : IpAddress → String
  | .v4 octets => ".".intercalate (octets.map toString)
  | .v6 groups zone =>
    let mapped := groups.take 5 == [0, 0, 0, 0, 0] && groups.getD 5 0 == 0xFFFF
    let octets := [groups.getD 6 0 / 256, groups.getD 6 0 % 256, groups.getD 7 0 / 256, groups.getD 7 0 % 256]
    let hex (g : Nat) : String := String.ofList (Nat.toDigits 16 g)
    let body :=
      if mapped then ".".intercalate (octets.map toString)
      else match zeroRun groups with
        | none => ":".intercalate (groups.map hex)
        | some (start, len) =>
          ":".intercalate ((groups.take start).map hex) ++ "::" ++
            ":".intercalate ((groups.drop (start + len)).map hex)
    if zone.isEmpty then body else body ++ "%" ++ zone

end ChannelMux.Net
