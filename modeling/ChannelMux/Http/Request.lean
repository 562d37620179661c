import ChannelMux.Descriptor
import ChannelMux.Header
import ChannelMux.Message
import ChannelMux.Http.Engine
import ChannelMux.Net.Host

/-! HTTP request channels: their options, and the table of exchanges they run. -/

namespace ChannelMux.Http

/-- How a request channel sends, read from its descriptor. -/
structure RequestOptions where
  base : String
  method : Method
  control : Bool
  autoclose : Bool
  headers : List HeaderLine
  expectTimeout : Int
  chunk : Int
  deriving Repr, Inhabited

/-- Reads request options. -/
def RequestOptions.ofDescriptor (d : Descriptor) : Except Failure RequestOptions := do
  if d.protocol != "http" && d.protocol != "https" then
    throw (Failure.config ("unsupported protocol " ++ Text.quote d.protocol ++ ", expected http or https"))
  let base := d.protocol ++ "://" ++ d.host
  let hasHost := match Net.WebUrl.parse base with
    | .ok u => !u.host.isEmpty
    | .error _ => false
  if !hasHost then throw (Failure.config ("invalid url " ++ Text.quote base))
  let o := d.options
  let transfer ← (o.getChoice "transfer" ["data", "control"]).mapError (·.failure)
  let method ← Method.parse (o.getString "method" "GET")
  if method = .undefined then throw (Failure.config "method must be set")
  let autoclose ← (o.getBool "autoclose" false).mapError (·.failure)
  let expectTimeout ← (o.getDuration "expect-timeout" 1000000000).mapError (·.failure)
  let chunk ← (o.getSize "chunk-size" (64 * 1024)).mapError (·.failure)
  if chunk ≤ 0 then throw (Failure.config "chunk-size must be positive")
  return { base, method, control := transfer == "control", autoclose,
           headers := d.headers.map fun (k, v) => ⟨k, v⟩, expectTimeout, chunk }

/-- The name of a transfer mode. -/
def RequestOptions.transferName (o : RequestOptions) : String :=
  if o.control then "control" else "data"

/-- A request about to be sent: method (UNDEFINED for the channel's own), path after the base,
header lines, announced size, and whether its body arrives through later posts. -/
structure Outgoing where
  method : Method := .undefined
  path : String := ""
  headers : List HeaderLine := []
  size : Int := 0
  hasBody : Bool := false
  fed : Bool := false
  deriving Repr, Inhabited

/-- The request a Data post on an idle address starts in data transfer: its bytes are the whole
body, and an empty post sends none. -/
def Outgoing.ofData (size : Nat) : Outgoing := { size, hasBody := size > 0 }

/-- The request a Connect post announces: refused in data transfer and for a body size below
-1; any size but 0 is a body that later Data posts feed. -/
def RequestOptions.announce (o : RequestOptions) (cn : Connect) : Except Failure Outgoing := do
  if !o.control then throw (Failure.protocol "Connect posted with transfer=data")
  if cn.size < -1 then throw (Failure.protocol ("invalid body size " ++ toString cn.size))
  return { method := cn.method, path := cn.path, headers := cn.headers, size := cn.size,
           hasBody := cn.size != 0, fed := cn.size != 0 }

/-- An exchange in flight and the request it sends. -/
structure Exchange where
  serial : Nat
  addr : Int
  method : Method
  target : Net.WebUrl
  headers : HeaderMap
  host : Text.ByteText
  hasBody : Bool
  length : Int
  feed : Option Int
  silenced : Bool := false
  deriving Repr, Inhabited

/-- The request size above which a client asks the server to accept the body first. -/
def expectThreshold : Int := 1024

/-- Whether a header name is a non-empty run of token characters. -/
def validHeaderName (name : String) : Bool := !name.isEmpty && name.toList.all isTokenChar

/-- Whether a header value holds no control character other than a tab. -/
def validHeaderValue (value : String) : Bool :=
  value.toList.all fun c => c == '\t' || (0x20 ≤ c.toNat && c.toNat != 0x7F)

/-- The first header that a client refuses to send, as the message it refuses with. -/
def headerFault? (h : HeaderMap) : Option String :=
  h.entries.findSome? fun (k, vs) =>
    if !validHeaderName k then some ("net/http: invalid header field name " ++ Text.quote k)
    else if vs.any (!validHeaderValue ·) then some ("net/http: invalid header field value for " ++ Text.quote k)
    else none

/-- The longest whole-exchange timeout, in nanoseconds, that runs out before a dial can fail: such
a timeout has passed by the time the client first waits for a connection. -/
def instantTimeout : Int := 100000

/-- Why an exchange ended without a response: its code and text. -/
def Exchange.outcome (x : Exchange) (e : Engine) : Disconnect :=
  let shown := x.target.renderHidingPassword
  let lead := x.method.title ++ " " ++ shown.quote ++ ": "
  let expired := 0 < e.timeout && e.timeout ≤ instantTimeout
  let early : Option String :=
    match headerFault? x.headers with
    | some fault => some fault
    | none => if x.target.host.isEmpty then some "http: no Host in request URL" else none
  let dialExpired := Net.expiredConnectTimeout e.connectTimeout
  let late : Int × String :=
    match e.proxy with
    | some p =>
      let f := Net.dialFailure p dialExpired
      (f.code, "proxyconnect tcp: " ++ f.message)
    | none =>
      let f := Net.dialFailure x.target dialExpired
      (f.code, f.message)
  if expired then
    ⟨28, lead ++ (early.getD "context deadline exceeded") ++
      " (Client.Timeout exceeded while awaiting headers)"⟩
  else
    match early with
    | some reason => ⟨56, lead ++ reason⟩
    | none => ⟨late.1, lead ++ late.2⟩

/-- The live state of an open request channel: options, engine, and the address table with
the cancelled exchanges still running. -/
structure RequestLine where
  options : RequestOptions
  engine : Engine
  privateEngine : Bool
  pending : List Exchange := []
  detached : List Exchange := []
  deriving Repr, Inhabited

namespace RequestLine

/-- The exchange in flight on an address. -/
def find? (l : RequestLine) (addr : Int) : Option Exchange := l.pending.find? (·.addr == addr)

/-- The number of addresses in flight. -/
def outstanding (l : RequestLine) : Nat := l.pending.length

/-- Builds the exchange a request starts on an address. -/
def prepare (l : RequestLine) (serial : Nat) (addr : Int) (r : Outgoing) : Except Failure Exchange := do
  let text := l.options.base ++ r.path
  let target ← match Net.WebUrl.parse text with
    | .ok u => pure u.trimEmptyPort
    | .error e =>
      throw (Failure.protocol ("address " ++ toString addr ++ ": " ++ e.message))
  let expect := l.options.expectTimeout > 0 && (r.size > expectThreshold || r.size < 0)
  let start : HeaderMap := if expect then HeaderMap.set ⟨[]⟩ "Expect" "100-continue" else ⟨[]⟩
  let headers := (start.apply l.options.headers).apply r.headers
  let host := (headers.get "Host").headD ""
  return { serial, addr, method := r.method.orElse l.options.method, target,
           headers := if host != "" then headers.erase "Host" else headers,
           host := if host != "" then Text.ByteText.ofString host else target.host,
           hasBody := r.hasBody, length := if r.hasBody then r.size else 0,
           feed := if r.fed then some r.size else none }

/-- Starts an exchange on an idle address. -/
def start (l : RequestLine) (serial : Nat) (addr : Int) (r : Outgoing) : Except Failure RequestLine := do
  if (l.find? addr).isSome then
    throw (Failure.invalidState ("request on address " ++ toString addr ++ " is already in progress"))
  let x ← l.prepare serial addr r
  return { l with pending := l.pending ++ [x] }

/-- Replaces the exchange on an address. -/
def update (l : RequestLine) (x : Exchange) : RequestLine :=
  { l with pending := l.pending.map fun y => if y.addr == x.addr then x else y }

/-- Feeds body bytes to the exchange of an address. -/
def feed (l : RequestLine) (x : Exchange) (size : Nat) : Except Failure RequestLine :=
  match x.feed with
  | none => .error (Failure.invalidState ("request on address " ++ toString x.addr ++ " is already in progress"))
  | some remaining =>
    if remaining < 0 then
      .ok (if size == 0 then l.update { x with feed := none } else l)
    else if remaining < size then
      .error (Failure.protocol (toString size ++ " bytes posted on address " ++ toString x.addr ++
        ", only " ++ toString remaining ++ " left of the announced size"))
    else
      let left := remaining - size
      .ok (l.update { x with feed := if left == 0 then none else some left })

/-- Cancels an address: its exchange leaves the table and is silenced. -/
def cancel (l : RequestLine) (addr : Int) : RequestLine :=
  match l.find? addr with
  | some x =>
    { l with pending := l.pending.filter (·.addr != addr),
             detached := l.detached ++ [{ x with silenced := true, feed := none }] }
  | none => l

/-- The running exchange with a serial number, in the table or cancelled. -/
def running? (l : RequestLine) (serial : Nat) : Option Exchange :=
  match l.pending.find? (·.serial == serial) with
  | some x => some x
  | none => l.detached.find? (·.serial == serial)

/-- Retires an exchange that ended: it leaves the table if it is still its address's entry, and
the cancelled list. Answers whether the table is then empty. -/
def retire (l : RequestLine) (serial : Nat) : RequestLine × Bool :=
  let l := { l with pending := l.pending.filter (·.serial != serial),
                    detached := l.detached.filter (·.serial != serial) }
  (l, l.pending.isEmpty)

end RequestLine

end ChannelMux.Http
