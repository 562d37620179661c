import ChannelMux.Socket.Serving
import ChannelMux.Socket.Node
import ChannelMux.Lifecycle.Cycle
import ChannelMux.Route

/-! The requests a listening channel handles, and what its nodes hand their subs, over every
interleaving of concurrent requests, node opens and closes, and the replies subs post. -/

namespace ChannelMux.Socket

/-- A request as the listening channel's handler receives it. -/
structure Inbound where
  method : String
  path : String
  target : String
  header : HeaderMap
  length : Int
  upgrade : Bool
  body : List UInt8
  fault : Option String

namespace Inbound

/-- The first value of a header, empty when there is none. -/
def value (r : Inbound) (name : String) : String :=
  ((r.header.get (canonicalName name)).head?).getD ""

/-- The first required header, by name, that the request does not carry with the required
value. -/
def mismatch? (r : Inbound) (required : List (String × String)) : Option String :=
  (required.find? fun p => r.value p.1 != p.2).map (·.1)

/-- The Connect of an accepted request: its method, or none that the channel knows, its target,
its announced length and its normalised header. -/
def connect (r : Inbound) : Connect :=
  { method := match Method.parse r.method with
      | .ok m => m
      | .error _ => .undefined,
    path := r.target, size := r.length, headers := r.header.normalize }

end Inbound

/-- How a socket's read loop ends: a close frame from the peer, with its code and text, or
another read error. -/
inductive ReadEnd where
  | closeFrame (code : Int) (text : String)
  | broken (message : String)

/-- The Disconnect a read loop's end gives: no code for a normal or going-away close, the peer's
code and text for another close, code 1006 and the error otherwise. -/
def ReadEnd.disconnect : ReadEnd → Disconnect
  | .closeFrame code text => if code = 1000 ∨ code = 1001 then {} else ⟨code, text⟩
  | .broken message => ⟨1006, message⟩

/-- Why a request is turned away without a session. -/
inductive Refusal where
  | unknownPath
  /-- An upgrade asked of a plain node. -/
  | httpNode
  /-- A plain request to a socket node. -/
  | socketNode
  /-- A required header missing or with another value. -/
  | mismatch (name : String)
  /-- A plain node whose group is closed. -/
  | closing
  | upgradeFailed
  /-- A socket node whose group is closed: the connection is closed. -/
  | shut
  deriving DecidableEq, Repr

/-- The status and text of the error reply to a refusal; a failed upgrade is answered by the
socket library, and a socket that cannot join has its connection closed. -/
def Refusal.reply? : Refusal → Option (Int × String)
  | .unknownPath => some (404, "Requested url not found")
  | .httpNode => some (400, "HTTP node")
  | .socketNode => some (400, "WebSocket node")
  | .mismatch name => some (400, "Header " ++ name ++ " mismatch")
  | .closing => some (503, "Service closing")
  | .upgradeFailed | .shut => none

/-- Where a handler is. -/
inductive Phase where
  /-- The path is looked up next. -/
  | arrived
  /-- Routed to a node of the right kind; the required headers are checked next. -/
  | routed
  /-- A socket node's upgrade is next. -/
  | upgrading
  /-- An address is taken next. -/
  | allocating
  /-- The session joins the node's group and table next. -/
  | joining
  /-- The Connect is delivered next. -/
  | greeting
  /-- The body is delivered in pieces of `chunk` bytes: what is left of it, and whether a piece
  went out. -/
  | feeding (chunk : Nat) (rest : List UInt8) (sent : Bool)
  /-- The reply loop of a plain exchange, with the status chosen so far. -/
  | answering (code : Int)
  /-- The loop of an event stream. -/
  | streaming
  /-- The read loop of a socket. -/
  | reading
  /-- A loop ended with this Disconnect; the session leaves the table next. -/
  | leaving (d : Disconnect)
  /-- The session shuts down and the Disconnect is delivered next. -/
  | ending (d : Disconnect)
  /-- Returned after delivering its Disconnect. -/
  | finished (d : Disconnect)
  /-- Returned without a session. -/
  | turnedAway (why : Refusal)
  /-- Panicked, with the panic's message. -/
  | panicked (message : String)
  deriving DecidableEq, Repr

/-- A request being handled. -/
structure Handler where
  request : Inbound
  phase : Phase := .arrived
  node : Option Nat := none
  serial : Option Nat := none
  group : Option Nat := none
  writer : Http.Writer
  queue : List Message := []
  stopping : Bool := false
  sent : List ByteArray := []
  frames : List ByteArray := []
  taken : List Message := []

/-- The address with a number: the number as a 64-bit integer. -/
def address (k : Nat) : Int := Options.wrap64 k

/-- The address of a handler's session. -/
def Handler.addr (h : Handler) : Int := address (h.serial.getD 0)

/-- Whether a handler has returned. -/
def Handler.returned (h : Handler) : Bool :=
  match h.phase with
  | .finished _ | .turnedAway _ | .panicked _ => true
  | _ => false

/-- A node as the requests it serves see it. -/
structure Node where
  kind : NodeKind
  pattern : String
  cycle : Cycle := {}
  settings : NodeSettings := {}
  required : List (String × String) := []
  group : Option Nat := none
  groups : Nat := 0
  table : List (Int × Nat) := []

/-- The table of a node with the session of handler `i` under address `a`. -/
def Node.enter (node : Node) (a : Int) (i : Nat) : Node :=
  { node with table := node.table.filter (·.1 != a) ++ [(a, i)] }

/-- The table of a node without address `a`. -/
def Node.drop (node : Node) (a : Int) : Node :=
  { node with table := node.table.filter (·.1 != a) }

/-- A message a node handed its callbacks: the node, the handler that delivered it, the message,
and whether its address was in the node's table as it went out. -/
structure Delivery where
  node : Nat
  handler : Nat
  message : Message
  listed : Bool

/-- A listening channel as its requests see it. -/
structure Server where
  logger : Logger
  routes : RouteTable Nat := {}
  nodes : List Node
  handlers : List Handler := []
  allocated : Nat := 0
  log : List Delivery := []

/-- What happens next. -/
inductive ServerEvent where
  | arrive (r : Inbound)
  | step (i : Nat)
  | upgrade (i : Nat) (ok : Bool)
  | take (i : Nat)
  | gone (i : Nat)
  | notice (i : Nat)
  | frame (i : Nat) (data : ByteArray)
  | hangUp (i : Nat) (e : ReadEnd)
  | stop (i : Nat)
  | post (n : Nat) (m : Message)
  | open (n : Nat) (options : Options)
  | close (n : Nat)
  | closed (n : Nat)

/-- One turn of the reply loop of a plain exchange: the outcome it ends with, or the writer and
status it goes on with. -/
def answerTurn (w : Http.Writer) (code : Int) : Turn → Outcome ⊕ (Http.Writer × Int)
  | .clientGone => .inl (.done w clientLeft)
  | .closing =>
    .inl (match w.error "Service closing" 503 with
      | .ok w => .done w ⟨503, "node closed"⟩
      | .error e => .panicked w e)
  | .reply m =>
    match m.asConnect? with
    | some c => .inr ({ w with header := w.header.apply c.headers }, if c.code = 0 then code else c.code)
    | none =>
      if m.asDisconnect?.isSome then .inl (endEmpty w code)
      else if m.kind = .data then .inl (endWithBody w code m.payload.toList)
      else .inr (w, code)

/-- The head of an event stream: its type, no caching, a kept-alive connection, status 200. -/
def eventHead (w : Http.Writer) : Except String Http.Writer :=
  { w with header := ((w.header.set "Content-Type" "text/event-stream").set "Cache-Control"
      "no-cache").set "Connection" "keep-alive" }.writeHeader 200

namespace Handler

/-- A handler turned away, with the error reply the refusal has. -/
def refuse (h : Handler) (why : Refusal) : Handler :=
  match why.reply? with
  | some (code, text) =>
    match h.writer.error text code with
    | .ok w => { h with writer := w, phase := .turnedAway why }
    | .error e => { h with phase := .panicked e }
  | none => { h with phase := .turnedAway why }

/-- A handler whose path routes to node `n` of kind `k`: turned away when the request does not
suit the kind. -/
def routeTo (h : Handler) (n : Nat) (k : NodeKind) : Handler :=
  if h.request.upgrade && !k.socketLike then h.refuse .httpNode
  else if !h.request.upgrade && k.socketLike then h.refuse .socketNode
  else { h with phase := .routed, node := some n }

/-- A handler after checking the required headers of its node as it stands. -/
def check (h : Handler) (node : Node) : Handler :=
  match h.request.mismatch? node.required with
  | some name => h.refuse (.mismatch name)
  | none => { h with phase := if node.kind.socketLike then .upgrading else .allocating }

/-- A handler after its Connect went out: the node's kind of loop starts. -/
def greeted (h : Handler) (node : Node) : Handler :=
  match node.kind with
  | .http => { h with phase := .feeding node.settings.chunk.toNat h.request.body false }
  | .events =>
    match eventHead h.writer with
    | .ok w => { h with writer := w, phase := .streaming }
    | .error e => { h with phase := .panicked e }
  | .socket | .publish => { h with phase := .reading }

/-- A handler after a turn of its exchange's reply loop. -/
def settle (h : Handler) : Outcome ⊕ (Http.Writer × Int) → Handler
  | .inl (.done w d) => { h with writer := w, phase := .leaving d }
  | .inl (.panicked w e) => { h with writer := w, phase := .panicked e }
  | .inl (.waiting w) => { h with writer := w }
  | .inr (w, code) => { h with writer := w, phase := .answering code }

/-- A handler after its event stream takes a reply: a Disconnect ends the stream, a Data is
written as one event, ending the stream with code 42 when the write is refused. -/
def streamReply (h : Handler) (m : Message) : Handler :=
  if m.asDisconnect?.isSome then { h with phase := .leaving {} }
  else if m.kind = .data then
    match h.writer.write (EventStream.encode m.payload.toList) with
    | (w, none) => { h with writer := w }
    | (w, some e) => { h with writer := w, phase := .leaving ⟨codeAborted, e⟩ }
  else h

/-- A handler whose loop takes a turn other than a reply: an exchange as `answerTurn` says, an
event stream ending with `streamEnd`. -/
def turned (h : Handler) (t : Turn) (streamEnd : Disconnect) : Handler :=
  match h.phase with
  | .answering code => h.settle (answerTurn h.writer code t)
  | .streaming => { h with phase := .leaving streamEnd }
  | _ => h

/-- A handler whose loop takes the next reply queued for it. -/
def takeReply (h : Handler) : Handler :=
  match h.queue, h.phase with
  | m :: rest, .answering code =>
    { h with queue := rest, taken := h.taken ++ [m] }.settle (answerTurn h.writer code (.reply m))
  | m :: rest, .streaming => { h with queue := rest, taken := h.taken ++ [m] }.streamReply m
  | _, _ => h

/-- A handler whose read loop ended: with no code when its session was shut down. -/
def endRead (h : Handler) (e : ReadEnd) : Handler :=
  match h.phase with
  | .reading => { h with phase := .leaving (if h.stopping then {} else e.disconnect) }
  | _ => h

end Handler

/-- The listening channel of a session's start: no request yet, and every node closed. -/
def Server.start (logger : Logger) (nodes : List (NodeKind × String)) : Server :=
  { logger, nodes := nodes.map fun (kind, pattern) => { kind, pattern } }

namespace Server

/-- Changes node `n`. -/
def modifyNode (s : Server) (n : Nat) (f : Node → Node) : Server :=
  { s with nodes := s.nodes.modify n f }

/-- Sets handler `i`. -/
def setHandler (s : Server) (i : Nat) (h : Handler) : Server :=
  { s with handlers := s.handlers.set i h }

/-- Node `n` hands a message from handler `i` to its callbacks, unless it is closed. -/
def deliver (s : Server) (n i : Nat) (m : Message) : Server :=
  match s.nodes[n]? with
  | some node =>
    if node.cycle.state = .closed then s
    else { s with log := s.log ++ [⟨n, i, m, node.table.any (·.1 == m.addr)⟩] }
  | none => s

/-- Runs `f` on the node handler `h` was routed to. -/
def onNode (s : Server) (h : Handler) (f : Nat → Node → Server) : Server :=
  match h.node with
  | some n =>
    match s.nodes[n]? with
    | some node => f n node
    | none => s
  | none => s

/-- Turns handler `i` away. -/
def turnAway (s : Server) (i : Nat) (h : Handler) (why : Refusal) : Server :=
  s.setHandler i (h.refuse why)

/-- Looks the path up and checks that the request suits the node's kind. -/
def route (s : Server) (i : Nat) (h : Handler) : Server :=
  match s.routes.lookup h.request.path with
  | none => s.turnAway i h .unknownPath
  | some m =>
    match s.nodes[m.handler]? with
    | some node => s.setHandler i (h.routeTo m.handler node.kind)
    | none => s

/-- Takes the next address. -/
def allocate (s : Server) (i : Nat) (h : Handler) : Server :=
  { s with allocated := s.allocated + 1,
           handlers := s.handlers.set i { h with phase := .joining, serial := some (s.allocated + 1) } }

/-- The session joins the node's group and table, unless the group is closed. -/
def join (s : Server) (i : Nat) (h : Handler) (n : Nat) (node : Node) : Server :=
  match node.group with
  | none => s.turnAway i h (if node.kind.socketLike then .shut else .closing)
  | some g =>
    (s.modifyNode n (·.enter h.addr i)).setHandler i { h with phase := .greeting, group := some g }

/-- Delivers the Connect, then starts the node's kind of loop. -/
def greet (s : Server) (i : Nat) (h : Handler) (n : Nat) (node : Node) : Server :=
  (s.deliver n i (Message.connect h.addr h.request.connect)).setHandler i (h.greeted node)

/-- Delivers the next piece of the body; at its end, an empty Data when none went out, then the
reply loop, or code 42 when reading failed. -/
def feed (s : Server) (i : Nat) (h : Handler) (n chunk : Nat) (rest : List UInt8) (sent : Bool) :
    Server :=
  match rest with
  | [] =>
    match h.request.fault with
    | some e => s.setHandler i { h with phase := .leaving ⟨codeAborted, "read request body: " ++ e⟩ }
    | none =>
      if sent then s.setHandler i { h with phase := .answering 200 }
      else (s.deliver n i (Message.data h.addr ByteArray.empty)).setHandler i
        { h with phase := .answering 200, sent := h.sent ++ [ByteArray.empty] }
  | b :: bs =>
    let piece : ByteArray := ⟨((b :: bs).take chunk).toArray⟩
    (s.deliver n i (Message.data h.addr piece)).setHandler i
      { h with phase := .feeding chunk ((b :: bs).drop chunk) true, sent := h.sent ++ [piece] }

/-- The session leaves the table. -/
def leave (s : Server) (i : Nat) (h : Handler) (n : Nat) (d : Disconnect) : Server :=
  (s.modifyNode n (·.drop h.addr)).setHandler i { h with phase := .ending d }

/-- The session shuts down and the sub gets the Disconnect. -/
def hangUp (s : Server) (i : Nat) (h : Handler) (n : Nat) (d : Disconnect) : Server :=
  (s.deliver n i (Message.disconnect h.addr d)).setHandler i
    { h with phase := .finished d, stopping := true }

/-- Handler `i` takes its next step, when it does not wait for an event. -/
def advance (s : Server) (i : Nat) (h : Handler) : Server :=
  match h.phase with
  | .arrived => s.route i h
  | .routed => s.onNode h fun _ node => s.setHandler i (h.check node)
  | .allocating => s.allocate i h
  | .joining => s.onNode h fun n node => s.join i h n node
  | .greeting => s.onNode h fun n node => s.greet i h n node
  | .feeding chunk rest sent => s.onNode h fun n _ => s.feed i h n chunk rest sent
  | .leaving d => s.onNode h fun n _ => s.leave i h n d
  | .ending d => s.onNode h fun n _ => s.hangUp i h n d
  | _ => s

/-- The read loop of handler `i` reads a frame: delivered as Data unless the node publishes. -/
def readFrame (s : Server) (i : Nat) (h : Handler) (data : ByteArray) : Server :=
  match h.phase with
  | .reading =>
    s.onNode h fun n node =>
      if node.kind = .publish then s.setHandler i { h with frames := h.frames ++ [data] }
      else (s.deliver n i (Message.data h.addr data)).setHandler i
        { h with frames := h.frames ++ [data], sent := h.sent ++ [data] }
  | _ => s

/-- The session of handler `i` starts shutting down: a socket session for reasons of its own, a
plain or event-stream one once its group is closed. -/
def stopSession (s : Server) (i : Nat) (h : Handler) : Server :=
  s.onNode h fun _ node =>
    if h.group.isSome && (node.kind.socketLike || node.group != h.group) then
      s.setHandler i { h with stopping := true }
    else s

/-- A sub posts a message on node `n`: while the node is active, a reply to a plain or
event-stream session is queued for the session of its address when the queue has room. -/
def post (s : Server) (n : Nat) (m : Message) : Server :=
  match s.nodes[n]? with
  | some node =>
    if node.cycle.state = .active && !node.kind.socketLike then
      match node.table.lookup m.addr with
      | some i =>
        match s.handlers[i]? with
        | some h => if h.queue.length < 16 then s.setHandler i { h with queue := h.queue ++ [m] } else s
        | none => s
      | none => s
    else s
  | none => s

/-- Opens a closed node with its options: its settings and required headers are read, a new
group is made and its pattern bound. A failure puts it in `error`. -/
def openNode (s : Server) (n : Nat) (o : Options) : Server :=
  match s.nodes[n]? with
  | some node =>
    if node.cycle.state = .closed then
      let cycle := node.cycle.beginOpen.1
      match node.kind.settings o with
      | .error _ => { s with nodes := s.nodes.set n { node with cycle := cycle.fail.1 } }
      | .ok settings =>
        let node := { node with settings, required := (o.sub "require").entries,
                                group := some node.groups, groups := node.groups + 1 }
        match s.routes.register s.logger node.pattern n with
        | .error _ => { s with nodes := s.nodes.set n { node with cycle := cycle.fail.1 } }
        | .ok routes => { s with routes, nodes := s.nodes.set n { node with cycle := cycle.finishOpen.1 } }
    else s
  | none => s

/-- Starts closing a node that is neither closed nor closing: its pattern is unbound and its
group closed. -/
def closeNode (s : Server) (n : Nat) : Server :=
  match s.nodes[n]? with
  | some node =>
    if node.cycle.state = .closed || node.cycle.state = .closing then s
    else
      { s with routes := (s.routes.unregister node.pattern n).1,
               nodes := s.nodes.set n { node with cycle := node.cycle.beginClose.1, group := none } }
  | none => s

/-- Ends a node's close once every session that joined it has returned. -/
def finishClose (s : Server) (n : Nat) : Server :=
  match s.nodes[n]? with
  | some node =>
    if node.cycle.state = .closing &&
        s.handlers.all (fun h => h.node != some n || h.group.isNone || h.returned) then
      { s with nodes := s.nodes.set n { node with cycle := node.cycle.finishClose.1 } }
    else s
  | none => s

/-- Runs `f` on handler `i`. -/
def onHandler (s : Server) (i : Nat) (f : Handler → Server) : Server :=
  match s.handlers[i]? with
  | some h => f h
  | none => s

/-- Takes one event. -/
def step (s : Server) : ServerEvent → Server
  | .arrive r => { s with handlers := s.handlers ++ [{ request := r, writer := { isHead := r.method == "HEAD" } }] }
  | .step i => s.onHandler i (s.advance i)
  | .upgrade i ok =>
    s.onHandler i fun h =>
      match h.phase with
      | .upgrading => if ok then s.setHandler i { h with phase := .allocating } else s.turnAway i h .upgradeFailed
      | _ => s
  | .take i => s.onHandler i fun h => s.setHandler i h.takeReply
  | .gone i => s.onHandler i fun h => s.setHandler i (h.turned .clientGone clientLeft)
  | .notice i => s.onHandler i fun h => if h.stopping then s.setHandler i (h.turned .closing {}) else s
  | .frame i data => s.onHandler i fun h => s.readFrame i h data
  | .hangUp i e => s.onHandler i fun h => s.setHandler i (h.endRead e)
  | .stop i => s.onHandler i (s.stopSession i)
  | .post n m => s.post n m
  | .open n o => s.openNode n o
  | .close n => s.closeNode n
  | .closed n => s.finishClose n

/-- Takes the events in order. -/
def run (s : Server) (es : List ServerEvent) : Server := es.foldl step s

/-- What the sub of node `n` received on address `a`, in order. -/
def heard (s : Server) (n : Nat) (a : Int) : List Message :=
  (s.log.filter fun d => d.node == n && d.message.addr == a).map (·.message)

end Server

end ChannelMux.Socket
