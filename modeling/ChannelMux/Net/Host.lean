import ChannelMux.Net.Url

/-! The network a session runs on, as the recorded sessions see it. -/

namespace ChannelMux.Net

/-- The first port handed to a listener that asks for any port. -/
def firstFreePort : Nat := 45219

/-- The listening ports of a session and the next fresh port. -/
structure NetHost where
  bound : List Nat := []
  nextPort : Nat := firstFreePort
  deriving DecidableEq, Repr, Inhabited

/-- The default port of a scheme, as dialers fill it in. -/
def defaultPort (scheme : String) : String :=
  if scheme == "http" then "80"
  else if scheme == "https" then "443"
  else if scheme == "socks5" || scheme == "socks5h" then "1080"
  else ""

/-- Host and port joined for a dial, with brackets around an IPv6 address. -/
def joinHostPort (host port : String) : String :=
  if host.toList.contains ':' then "[" ++ host ++ "]:" ++ port else host ++ ":" ++ port

/-- Why a dial failed: its message and the failure code a client reports for it (6 when a name
does not resolve, 7 when the connection is not made, 28 when the dial ran out of time). -/
structure DialFailure where
  message : String
  code : Nat
  deriving DecidableEq, Repr

/-- The connect timeouts, in nanoseconds, that have passed before a dial starts: a negative one,
or a positive one shorter than the dialer's own set-up. Zero means no timeout. -/
def expiredConnectTimeout (timeout : Int) : Bool := timeout < 0 || (0 < timeout && timeout ≤ 100)

/-- The failure of a dial to a web address's host and port, the scheme's default port when none is
written. A port above 65535 is refused before anything else. -/
def dialFailure (u : WebUrl) (expired : Bool) : DialFailure :=
  let portText := match u.port? with
    | some p => if p.isEmpty then defaultPort u.scheme else p
    | none => defaultPort u.scheme
  let port := portText.toNat?.getD 0
  let address : Option String :=
    if u.hostname.isEmpty then some ""
    else match readIp u.hostname with
      | .ok a => some a.render
      | .error _ => none
  if 65535 < port then ⟨"dial tcp: address " ++ portText ++ ": invalid port", 7⟩
  else match address, expired with
    | some a, true => ⟨"dial tcp " ++ joinHostPort a (toString port) ++ ": i/o timeout", 28⟩
    | none, true => ⟨"dial tcp: lookup " ++ u.hostname.text ++ ": i/o timeout", 28⟩
    | some a, false =>
      ⟨"dial tcp " ++ joinHostPort a (toString port) ++ ": connect: network is unreachable", 7⟩
    | none, false => ⟨"dial tcp: lookup " ++ u.hostname.text ++ ": no such host", 6⟩

namespace NetHost

/-- Binds a listener to `host:port`; port 0 takes a fresh port. Answers the bound port. -/
def listen (n : NetHost) (address : String) (port : Nat) : Except String (Nat × NetHost) :=
  if port == 0 then
    .ok (n.nextPort, { n with bound := n.nextPort :: n.bound, nextPort := n.nextPort + 1 })
  else if n.bound.contains port then
    .error ("listen tcp " ++ address ++ ": bind: address already in use")
  else .ok (port, { n with bound := port :: n.bound })

/-- Releases a listening port. -/
def unlisten (n : NetHost) (port : Nat) : NetHost :=
  { n with bound := n.bound.filter (· != port) }

end NetHost

end ChannelMux.Net
