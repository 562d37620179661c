import ChannelMux.Lifecycle.Threads
import ChannelMux.Socket.Node
import ChannelMux.Header

/-! A socket client channel under concurrent callers: the goroutine that runs its handshake, beside
the lifecycle of the channel. -/

namespace ChannelMux.Socket

open Lifecycle (Machine Dispatch TransportCall Body)

/-- How a dial ends. -/
inductive Shake where
  | accepted (status : Int) (header : HeaderMap) (frames : List ByteArray) (normal : Bool)
  | rejected
  | failed

/-- Where the goroutine of the current open is. -/
inductive Stage where
  /-- No goroutine runs: the client was never opened, or its goroutine returned. -/
  | idle
  | dialing
  /-- The dial returned; the goroutine checks whether its context was cancelled. -/
  | dialed (shake : Shake)
  /-- Connected, and not cancelled at the check: the channel is activated next. -/
  | connected (status : Int) (header : HeaderMap) (frames : List ByteArray) (normal : Bool)
  /-- The activation returned; the Connect is delivered next. -/
  | greeting (status : Int) (header : HeaderMap) (frames : List ByteArray) (normal : Bool)
  /-- The read loop, with the frames still to come. -/
  | reading (frames : List ByteArray) (normal : Bool)
  /-- The read loop returned; the goroutine checks whether its context was cancelled. -/
  | ended (normal : Bool)
  /-- The Disconnect was delivered; the channel's own close is scheduled next. -/
  | hangingUp
  /-- A failed handshake was reported; the goroutine returns with the report. -/
  | failing
  /-- A failed read was reported; the goroutine returns with the report. -/
  | leaving

/-- What the callbacks note of a message the transport hands them. -/
structure Receipt where
  message : Message
  announced : Bool
  state : LifeState
  run : Nat

/-- Takes one state notice into whether the callbacks have been told the channel is active since
they were last told it is opening. -/
def noteState (seen : Bool) : LifeState → Bool
  | .opening => false
  | .active => true
  | _ => seen

/-- Whether, among state notices in order, the last Opening or Active one is Active. -/
def activeSince (notices : List LifeState) : Bool := notices.foldl noteState false

/-- A socket client. -/
structure Client where
  host : String
  machine : Machine := {}
  cancelled : Bool := false
  stage : Stage := .idle
  waitOn : Option Nat := none
  runs : Nat := 0
  received : List Receipt := []

/-- A call the user makes: an open, whose options the channel accepts or not, a close, a release
or a post. -/
inductive Request where
  | open (accepted : Bool)
  | close
  | release
  | post

def Request.call : Request → Lifecycle.Call
  | .open ok => .open ok
  | .close => .close
  | .release => .release
  | .post => .post

/-- What happens next. -/
inductive ClientEvent where
  | request (r : Request)
  | step (i : Nat)
  | openHook (i : Nat) (options : Options)
  | closeHook (i : Nat)
  | postHook (i : Nat)
  | dial (shake : Shake)
  | run
  | cut

/-- Whether a thread waits for its hook at this point of its body. -/
def waitsAt (t : Lifecycle.Thread) (b : Body) : Bool :=
  t.held.isNone && t.work.isEmpty && t.body == b

namespace Client

/-- The address the client dials. -/
def url (c : Client) : String := "ws://" ++ c.host ++ if c.host.contains '/' then "" else "/"

/-- The Connect of a successful handshake. -/
def greetingOf (c : Client) (status : Int) (header : HeaderMap) : Message :=
  Message.connect 0 { method := .get, code := status, path := c.url, headers := header.normalize }

/-- Whether the goroutine may go on: the transport call it made last has returned. -/
def ready (c : Client) : Bool :=
  match c.waitOn with
  | some n => (c.machine.threads n).done
  | none => true

/-- The goroutine makes a transport call on a thread of its own, and waits for it. -/
def call (c : Client) (tc : TransportCall) : Client :=
  { c with machine := c.machine.step (.call (.transport tc)), waitOn := some c.machine.spawned }

/-- The goroutine makes a transport call whose first step, under the state lock alone, runs at
once. -/
def callLocked (c : Client) (tc : TransportCall) : Client :=
  { c with machine := (c.machine.step (.call (.transport tc))).step (.step c.machine.spawned),
           waitOn := some c.machine.spawned }

/-- The goroutine's next step, once its last call has returned. -/
def advance (c : Client) : Client :=
  match c.stage with
  | .idle | .dialing => c
  | .dialed (.accepted status header frames normal) =>
    if c.cancelled then { c with stage := .idle }
    else { c with stage := .connected status header frames normal }
  | .dialed _ =>
    if c.cancelled then { c with stage := .idle }
    else { c.callLocked .setError with stage := .failing }
  | .connected status header frames normal =>
    { c.callLocked .setActive with stage := .greeting status header frames normal }
  | .greeting status header frames normal =>
    { c.call (.deliver (c.greetingOf status header)) with stage := .reading frames normal }
  | .reading (f :: rest) normal => { c.call (.deliver (Message.data 0 f)) with stage := .reading rest normal }
  | .reading [] normal => { c with stage := .ended normal }
  | .ended normal =>
    if c.cancelled then { c with stage := .idle }
    else if normal then { c.call (.deliver (Message.disconnect 0 {})) with stage := .hangingUp }
    else { c.callLocked .setError with stage := .leaving }
  | .hangingUp => { c.callLocked .closeAsync with stage := .idle }
  | .failing | .leaving => { c with stage := .idle }

/-- What the callbacks note as thread `i` takes its step: the message it hands them, if it is
about to. -/
def receipt (c : Client) (i : Nat) : List Receipt :=
  match (c.machine.threads i).held with
  | some (.deliverSend m) =>
    [⟨m, activeSince (c.machine.shared.log.filterMap Dispatch.notice?), c.machine.shared.cycle.state,
      c.runs⟩]
  | _ => []

/-- The open hook: options that do not read fail the open; otherwise the transport defers
activation and a new goroutine starts dialing, with a fresh context. -/
def openHook (c : Client) (i : Nat) (options : Options) : Client :=
  match clientSettings options with
  | .error _ => { c with machine := c.machine.step (.hook i [] true) }
  | .ok () =>
    { c with machine := (c.machine.step (.hook i [.deferActive] false)).step (.step i),
             cancelled := false, stage := .dialing, waitOn := none, runs := c.runs + 1 }

/-- The close hook cancels the goroutine's context and shuts its connection, then returns once
the goroutine has. -/
def closeHook (c : Client) (i : Nat) : Client :=
  match c.stage with
  | .idle => { c with machine := c.machine.step (.hook i [] false) }
  | _ => { c with cancelled := true }

/-- Takes one event. -/
def step (c : Client) : ClientEvent → Client
  | .request r => { c with machine := c.machine.step (.call r.call) }
  | .step i => { c with machine := c.machine.step (.step i), received := c.received ++ c.receipt i }
  | .openHook i options =>
    if waitsAt (c.machine.threads i) .openHook then c.openHook i options else c
  | .closeHook i => if waitsAt (c.machine.threads i) .closeHook then c.closeHook i else c
  | .postHook i =>
    if waitsAt (c.machine.threads i) .postHook then { c with machine := c.machine.step (.hook i [] false) }
    else c
  | .dial shake =>
    match c.stage with
    | .dialing => { c with stage := .dialed shake }
    | _ => c
  | .run => if c.ready then c.advance else c
  | .cut =>
    match c.stage with
    | .reading _ _ => if c.cancelled && c.ready then { c with stage := .ended false } else c
    | _ => c

/-- Takes the events in order. -/
def run (c : Client) (es : List ClientEvent) : Client := es.foldl step c

end Client

end ChannelMux.Socket
