import ChannelMux.Text.Quote
import ChannelMux.Text.Hex
import ChannelMux.Net.Address

/-! Web addresses (`scheme://user@host:port/path?query#fragment`) as HTTP clients read and write
them. -/

namespace ChannelMux.Net

open Text (ByteText)

/-- The parts of a web address that encode characters differently. -/
inductive UrlPart where
  | host
  | path
  | fragment
  /-- A user name or password. -/
  | userinfo
  /-- The zone of an IPv6 address in brackets, from its `%25` on. -/
  | zone
  deriving DecidableEq, Repr

/-- Whether a byte stands for itself in a part, or must be percent-encoded. -/
def keepsByte (part : UrlPart) (b : Nat) : Bool :=
  let alnum := (0x61 ≤ b && b ≤ 0x7A) || (0x41 ≤ b && b ≤ 0x5A) || (0x30 ≤ b && b ≤ 0x39)
  let c := Char.ofNat b
  let hostLike := part = .host || part = .zone
  if alnum then true
  else if hostLike && "!$&()*+,;=:[]<>\"".toList.contains c then true
  else if hostLike && b == 0x27 then true
  else if "-_.~".toList.contains c then true
  else if "$&+,/:;=?@".toList.contains c then
    match part with
    | .path => c != '?'
    | .fragment => true
    | .host | .zone => false
    | .userinfo => !"@/?:".toList.contains c
  else if part = .fragment && "!()*".toList.contains c then true
  else false

/-- Percent-encodes the bytes that do not stand for themselves in a part. -/
def escapePart (part : UrlPart) (s : ByteText) : String :=
  String.ofList (s.bytes.flatMap fun b =>
    if keepsByte part b.toNat then [Char.ofNat b.toNat]
    else ['%', (Text.hexDigit (b.toNat / 16)).toUpper, (Text.hexDigit (b.toNat % 16)).toUpper])

/-- Why a text is not a web address. -/
inductive UrlError where
  | control
  | missingScheme
  | colonInFirstSegment
  | badEscape (text : ByteText)
  | badPort (text : String)
  | badHostChar (text : String)
  | missingBracket
  | badUserinfo
  /-- What is in brackets is no IP address. -/
  | badHost (reason : String)
  /-- What is in brackets is an IPv4 address. -/
  | ipLiteral
  deriving DecidableEq, Repr

/-- The message of an address that does not read. -/
def UrlError.text : UrlError → String
  | .control => "net/url: invalid control character in URL"
  | .missingScheme => "missing protocol scheme"
  | .colonInFirstSegment => "first path segment in URL cannot contain colon"
  | .badEscape t => "invalid URL escape " ++ t.quote
  | .badPort t => "invalid port " ++ Text.quote t ++ " after host"
  | .badHostChar t => "invalid character " ++ Text.quote t ++ " in host name"
  | .missingBracket => "missing ']' in host"
  | .badUserinfo => "net/url: invalid userinfo"
  | .badHost r => "invalid host: " ++ r
  | .ipLiteral => "invalid IP-literal"

/-- The user part of a web address: a name, and a password when one was written. -/
structure UserInfo where
  name : ByteText
  password : Option ByteText := none
  deriving DecidableEq, Repr, Inhabited

/-- How a user part is written: the name, then `:` and the password when there is one. -/
def UserInfo.render (i : UserInfo) : String :=
  escapePart .userinfo i.name ++ (match i.password with
    | some pw => ":" ++ escapePart .userinfo pw
    | none => "")

/-- A parsed web address. -/
structure WebUrl where
  scheme : String := ""
  opaqueText : String := ""
  user : Option UserInfo := none
  host : ByteText := default
  path : ByteText := default
  rawPath : String := ""
  omitHost : Bool := false
  forceQuery : Bool := false
  rawQuery : String := ""
  fragment : ByteText := default
  rawFragment : String := ""
  deriving DecidableEq, Repr, Inhabited

/-- Bytes of a text. -/
def bytesOf (s : String) : List Nat := s.toUTF8.toList.map UInt8.toNat

/-- Bytes given as numbers below 256. -/
def byteTextOf (bs : List Nat) : ByteText := ⟨bs.map Nat.toUInt8⟩

/-- Whether a byte is a hexadecimal digit. -/
def isHexByte (b : Nat) : Bool := (Text.hexByteValue? b.toUInt8).isSome

/-- Checks the percent escapes of a part and decodes them. -/
def unescapeBytes (part : UrlPart) : List Nat → Except UrlError (List Nat)
  | [] => .ok []
  | 0x25 :: rest =>
    match rest with
    | a :: b :: more =>
      if isHexByte a && isHexByte b then
        let v := ((Text.hexByteValue? a.toUInt8).getD 0) * 16 + ((Text.hexByteValue? b.toUInt8).getD 0)
        let percent := a == 0x32 && b == 0x35
        if part = .host && ((Text.hexByteValue? a.toUInt8).getD 0) < 8 && !percent then
          .error (.badEscape (byteTextOf [0x25, a, b]))
        else if part = .zone && !percent && v != 0x20 && !keepsByte .host v then
          .error (.badEscape (byteTextOf [0x25, a, b]))
        else (unescapeBytes part more).map (v :: ·)
      else .error (.badEscape (byteTextOf (0x25 :: (rest.take 2))))
    | _ => .error (.badEscape (byteTextOf (0x25 :: rest.take 2)))
  | b :: rest =>
    if (part = .host || part = .zone) && b < 0x80 && !keepsByte .host b then
      .error (.badHostChar (String.singleton (Char.ofNat b)))
    else (unescapeBytes part rest).map (b :: ·)

/-- Decodes the percent escapes of a part. -/
def unescape (part : UrlPart) (s : String) : Except UrlError ByteText :=
  (unescapeBytes part (bytesOf s)).map byteTextOf

/-- A port written after a host: empty, or `:` and digits. -/
def validPort (s : String) : Bool :=
  match s.toList with
  | [] => true
  | ':' :: ds => ds.all Char.isDigit
  | _ => false

/-- Whether a user part uses only the characters it admits. -/
def validUserinfo (s : String) : Bool :=
  s.toList.all fun c => c.isAlphanum || "-._:~!$&()*+,;=%@".toList.contains c || c.toNat == 0x27

/-- The index of the last occurrence of a character. -/
def lastIndex? (c : Char) (cs : List Char) : Option Nat :=
  (cs.zipIdx.filter (·.1 == c)).getLast?.map (·.2)

/-- The index of the first `%25` in a text. -/
def percentIndex? : List Char → Option Nat
  | '%' :: '2' :: '5' :: _ => some 0
  | _ :: rest => (percentIndex? rest).map (· + 1)
  | [] => none

/-- Reads an IPv6 address written in brackets, its zone from the first `%25` on: the address
decoded, which must be an IPv6 address. -/
def bracketedAddress (cs : List Char) : Except UrlError ByteText := do
  let name ← match percentIndex? cs with
    | some i => do
      let address ← unescape .host (String.ofList (cs.take i))
      let zone ← unescape .zone (String.ofList (cs.drop i))
      pure (address ++ zone)
    | none => unescape .host (String.ofList cs)
  match readIp name with
  | .error r => throw (.badHost r)
  | .ok (.v4 _) => throw .ipLiteral
  | .ok (.v6 _ _) => pure name

/-- Reads a host with its port. A host with a `[` holds an IPv6 address between its `[`, which must
come first, and its last `]`, and only an optional port after them. -/
def parseHost (host : String) : Except UrlError ByteText :=
  let cs := host.toList
  match lastIndex? '[' cs with
  | some opening =>
    if opening != 0 then .error .ipLiteral
    else match lastIndex? ']' cs with
    | none => .error .missingBracket
    | some closing =>
      let colonPort := String.ofList (cs.drop (closing + 1))
      if !validPort colonPort then .error (.badPort colonPort)
      else
        (bracketedAddress ((cs.drop (opening + 1)).take (closing - (opening + 1)))).map
          fun name => .ofString "[" ++ name ++ .ofString ("]" ++ colonPort)
  | none =>
    let checked : Except UrlError Unit :=
      match lastIndex? ':' cs with
      | some i =>
        let colonPort := String.ofList (cs.drop i)
        if validPort colonPort then .ok () else .error (.badPort colonPort)
      | none => .ok ()
    checked.bind fun _ => unescape .host host

/-- Splits at the first occurrence of a character. -/
def cutAt (c : Char) (cs : List Char) : List Char × Option (List Char) :=
  match cs.span (· != c) with
  | (a, []) => (a, none)
  | (a, _ :: b) => (a, some b)

/-- The scheme before the first `:`, when the text starts with one. -/
def schemeOf (cs : List Char) : Except UrlError (String × List Char) :=
  let rec go (acc : List Char) : List Char → Except UrlError (String × List Char)
    | [] => .ok ("", acc.reverse)
    | c :: rest =>
      if c.isAlpha then go (c :: acc) rest
      else if c.isDigit || c = '+' || c = '-' || c = '.' then
        if acc.isEmpty then .ok ("", cs) else go (c :: acc) rest
      else if c = ':' then
        if acc.isEmpty then .error .missingScheme else .ok (String.ofList acc.reverse, rest)
      else .ok ("", cs)
  match go [] cs with
  | .ok ("", _) => .ok ("", cs)
  | r => r

/-- Whether a path written with escapes is a valid spelling of itself in a part. -/
def validEncoded (part : UrlPart) (s : String) : Bool :=
  (bytesOf s).all fun b =>
    "!$&()*+,;=:@[]%".toList.contains (Char.ofNat b) || b == 0x27 || keepsByte part b

/-- How a decoded part is written: its original spelling when that is a valid encoding of it,
otherwise the default encoding. -/
def spelled (part : UrlPart) (decoded : ByteText) (raw : String) : String :=
  let sameText := match unescape part raw with
    | .ok d => d == decoded
    | .error _ => false
  if !raw.isEmpty && validEncoded part raw && sameText then raw
  else escapePart part decoded

namespace WebUrl

/-- Reads an address that is not split at `#`. -/
def parseWhole (raw : String) : Except UrlError WebUrl := do
  if (bytesOf raw).any (fun b => b < 0x20 || b == 0x7F) then throw .control
  if raw == "*" then return { path := .ofString "*" }
  let (scheme, rest) ← schemeOf raw.toList
  let scheme := scheme.toLower
  let (rest, forceQuery, rawQuery) : List Char × Bool × String :=
    if rest.getLast? = some '?' && rest.count '?' == 1 then (rest.dropLast, true, "")
    else
      match cutAt '?' rest with
      | (a, some q) => (a, false, String.ofList q)
      | (a, none) => (a, false, "")
  let base : WebUrl := { scheme, forceQuery, rawQuery }
  if rest.head? != some '/' then
    if !scheme.isEmpty then return { base with opaqueText := String.ofList rest }
    if (cutAt '/' rest).1.contains ':' then throw .colonInFirstSegment
  let (withAuthority, pathChars) ←
    if (!scheme.isEmpty || !(rest.take 3 == ['/', '/', '/'])) && rest.take 2 == ['/', '/'] then do
      let authority := rest.drop 2
      let (auth, tail) : List Char × List Char :=
        match cutAt '/' authority with
        | (a, some t) => (a, '/' :: t)
        | (a, none) => (a, [])
      let (info, hostText) : Option (List Char) × List Char :=
        match lastIndex? '@' auth with
        | some i => (some (auth.take i), auth.drop (i + 1))
        | none => (none, auth)
      let host ← parseHost (String.ofList hostText)
      let user ← match info with
        | none => pure none
        | some cs => do
          if !validUserinfo (String.ofList cs) then throw .badUserinfo
          match cutAt ':' cs with
          | (n, none) => pure (some { name := ← unescape .userinfo (String.ofList n) })
          | (n, some pw) =>
            pure (some { name := ← unescape .userinfo (String.ofList n),
                         password := some (← unescape .userinfo (String.ofList pw)) })
      pure ({ base with user, host }, tail)
    else if !scheme.isEmpty && rest.head? = some '/' then pure ({ base with omitHost := true }, rest)
    else pure (base, rest)
  let p := String.ofList pathChars
  let path ← unescape .path p
  return { withAuthority with path, rawPath := if escapePart .path path == p then "" else p }

/-- A text that does not read as a web address: the text the reading failed on, and why. -/
structure ParseError where
  subject : String
  reason : UrlError
  deriving DecidableEq, Repr

/-- The message of an address that does not read, as a client reports it. -/
def ParseError.message (e : ParseError) : String :=
  "parse " ++ Text.quote e.subject ++ ": " ++ e.reason.text

/-- Reads a web address. The fragment after the first `#` is cut off first: a failure before it
names the text without the fragment, a failure in the fragment names the whole text. -/
def parse (raw : String) : Except ParseError WebUrl := do
  let (body, frag) := cutAt '#' raw.toList
  let bodyText := String.ofList body
  let u ← (parseWhole bodyText).mapError (ParseError.mk bodyText)
  match frag with
  | none => pure u
  | some f =>
    let f := String.ofList f
    let decoded ← (unescape .fragment f).mapError (ParseError.mk raw)
    pure { u with fragment := decoded, rawFragment := if escapePart .fragment decoded == f then "" else f }

/-- The path as written. -/
def escapedPath (u : WebUrl) : String :=
  if u.path == .ofString "*" && u.rawPath.isEmpty then "*" else spelled .path u.path u.rawPath

/-- Writes an address. -/
def render (u : WebUrl) : String :=
  let schemePart := if u.scheme.isEmpty then "" else u.scheme ++ ":"
  let body :=
    if !u.opaqueText.isEmpty then u.opaqueText
    else
      let authority :=
        if !u.scheme.isEmpty || !u.host.isEmpty || u.user.isSome then
          if u.omitHost && u.host.isEmpty && u.user.isNone then ""
          else
            (if !u.host.isEmpty || !u.path.isEmpty || u.user.isSome then "//" else "") ++
              (match u.user with | some i => i.render ++ "@" | none => "") ++
              escapePart .host u.host
        else ""
      let path := u.escapedPath
      let sep := if !path.isEmpty && path.toList.head? != some '/' && !u.host.isEmpty then "/" else ""
      let lead := if (schemePart ++ authority ++ sep).isEmpty && (cutAt '/' path.toList).1.contains ':'
        then "./" else ""
      authority ++ sep ++ lead ++ path
  let query := if u.forceQuery || !u.rawQuery.isEmpty then "?" ++ u.rawQuery else ""
  let fragment := if u.fragment.isEmpty then "" else "#" ++ spelled .fragment u.fragment u.rawFragment
  schemePart ++ body ++ query ++ fragment

/-- Writes an address as a client reports it: when a password was written, the first
occurrence of the written user part and its `@` becomes the decoded user name, then `:***@`. -/
def renderHidingPassword (u : WebUrl) : ByteText :=
  match u.user with
  | some i@{ password := some _, .. } =>
    match u.render.splitOn (i.render ++ "@") with
    | first :: rest@(_ :: _) =>
      .ofString first ++ i.name ++ .ofString (":***@" ++ (i.render ++ "@").intercalate rest)
    | _ => .ofString u.render
  | _ => .ofString u.render

/-- The host with an empty port (a trailing `:`) removed. -/
def trimEmptyPort (u : WebUrl) : WebUrl :=
  if u.host.bytes.getLast? = some ':'.toUInt8 then { u with host := ⟨u.host.bytes.dropLast⟩ }
  else u

/-- The host split at its last `:` when only digits follow it: the name and the port. -/
def splitPort (u : WebUrl) : ByteText × Option String :=
  let bs := u.host.bytes
  match (bs.zipIdx.filter (·.1 == ':'.toUInt8)).getLast? with
  | some (_, i) =>
    let digits := bs.drop (i + 1)
    if digits.all fun b => '0'.toUInt8 ≤ b && b ≤ '9'.toUInt8 then
      (⟨bs.take i⟩, some (String.ofList (digits.map fun b => Char.ofNat b.toNat)))
    else (u.host, none)
  | none => (u.host, none)

/-- The port written in the host, if any. -/
def port? (u : WebUrl) : Option String := u.splitPort.2

/-- The host without its port, and without brackets around an IPv6 address. -/
def hostname (u : WebUrl) : ByteText :=
  let bs := u.splitPort.1.bytes
  if bs.head? = some '['.toUInt8 && bs.getLast? = some ']'.toUInt8 then ⟨(bs.drop 1).dropLast⟩
  else ⟨bs⟩

end WebUrl

end ChannelMux.Net
