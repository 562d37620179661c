import ChannelMux.Options
import ChannelMux.Net.Host

/-! Listening channels: where they listen and what a listen produces. -/

namespace ChannelMux.Socket

/-- The `host:port` a listening channel binds, from its host: the part before a `/`, which must
hold a `:`; a `*` before the last `:` means every interface. -/
def listenAddress (host : String) : Except Failure String :=
  let cs := (host.toList.span (· != '/')).1
  match Net.lastIndex? ':' cs with
  | none => .error (Failure.config ("invalid host:port pair " ++ Text.quote (String.ofList cs)))
  | some i => .ok (if cs.take i == ['*'] then String.ofList (cs.drop i) else String.ofList cs)

/-- Where a listener ends up: the address family, the host and the port. -/
structure Bound where
  family : String
  host : String
  port : Nat
  deriving DecidableEq, Repr

/-- The count that port digits reach, starting from `n`: `none` when a character that is no digit
comes first. -/
def portDigits : List Char → Nat → Option Nat
  | [], n => some n
  | c :: rest, n =>
    if !c.isDigit then none
    else if Nat.pow 2 30 ≤ n then some n
    else portDigits rest (n * 10 + (c.toNat - 48))

/-- A port text as the network reads it: an optional sign, then decimal digits, none of them meaning
zero. Counts from 2^30 on are no port either way. `none` when the text is a service name. -/
def portNumber? (t : String) : Option Int :=
  let (neg, digits) : Bool × List Char :=
    match t.toList with
    | '+' :: rest => (false, rest)
    | '-' :: rest => (true, rest)
    | cs => (false, cs)
  (portDigits digits 0).map fun n =>
    let n := min n (Nat.pow 2 30)
    if neg then -(n : Int) else n

/-- Binds a listener at `address:port` on a network host. The error is the network's message. -/
def bindListener (n : Net.NetHost) (address : String) : Except String (Bound × Net.NetHost) :=
  let cs := address.toList
  match Net.lastIndex? ':' cs with
  | none => .error ("listen tcp " ++ address ++ ": address " ++ address ++ ": missing port in address")
  | some i =>
    let hostPart := cs.take i
    let portPart := String.ofList (cs.drop (i + 1))
    if hostPart.contains ':' && hostPart.head? != some '[' then
      .error ("listen tcp: address " ++ address ++ ": too many colons in address")
    else match portNumber? portPart with
    | none => .error ("listen tcp: lookup tcp/" ++ portPart ++ ": unknown port")
    | some number =>
      if number < 0 || 65535 < number then
        .error ("listen tcp: address " ++ portPart ++ ": invalid port")
      else
        let port := number.toNat
        let hostText := String.ofList hostPart
        let (family, shown) : String × String :=
          if hostText.isEmpty || hostText == "[::]" then ("ipv6", "::")
          else if hostText == "localhost" then ("ipv4", "127.0.0.1")
          else if hostText.startsWith "[" then ("ipv6", String.ofList (hostPart.drop 1 |>.dropLast))
          else ("ipv4", hostText)
        match Net.readIp (.ofString shown) with
        | .error _ => .error ("listen tcp: lookup " ++ hostText ++ ": no such host")
        | .ok ip =>
          match n.listen address port with
          | .ok (p, n) => .ok (⟨family, ip.render, p⟩, n)
          | .error e => .error e

/-- The information a bound listener publishes under a prefix. -/
def Bound.publish (b : Bound) (pre : String) (info : Options) : Options :=
  ((info.insert (pre ++ ".af") b.family).insert (pre ++ ".host") b.host).insert (pre ++ ".port") (toString b.port)

end ChannelMux.Socket
