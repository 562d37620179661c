import ChannelMux.Lifecycle.Cycle
import ChannelMux.Mailbox
import ChannelMux.Log
import ChannelMux.Descriptor
import ChannelMux.Http.Request
import ChannelMux.Socket.Listener
import ChannelMux.Socket.Node

/-! The world of a session: every channel created in it, the names they are registered under, the
network they listen on, and the work still running in the background. -/

namespace ChannelMux

/-- The number of a channel in its world. -/
abbrev ChannelId := Nat

/-- What one end of a direct pair holds: its peer, and while open, its queue and capacity. -/
structure DirectEnd where
  peer : Option ChannelId := none
  queue : Option (List Message) := none
  capacity : Nat := 0
  deriving Inhabited

/-- What a channel holds beyond its lifecycle, by kind. -/
inductive Holding where
  /-- One end of a direct pair. -/
  | direct (d : DirectEnd)
  /-- An HTTP client group, with its engine while open. -/
  | group (engine : Option Http.Engine)
  /-- An HTTP request channel: its group, if any, and its live state while open. -/
  | request (group : Option ChannelId) (line : Option Http.RequestLine)
  /-- A listening channel: its routes and, while listening, where it is bound. -/
  | listener (routes : RouteTable ChannelId) (bound : Option Socket.Bound)
  /-- A node of a listening channel, serving one pattern. -/
  | node (kind : Socket.NodeKind) (server : ChannelId) (pattern : String)
      (settings : Socket.NodeSettings)
  /-- A socket client. -/
  | client
  deriving Inhabited

/-- A channel of the world. -/
structure Channel where
  name : String
  scheme : String
  initial : Descriptor
  config : Descriptor
  cycle : Cycle := {}
  info : Options := Options.empty
  master : Option ChannelId := none
  children : List ChannelId := []
  logger : Logger
  mailbox : Option Mailbox := some {}
  holding : Holding
  deriving Inhabited

/-- Work that runs in the background until the session waits. -/
inductive Job where
  /-- An exchange of a request channel runs to its end. -/
  | exchange (id : ChannelId) (serial : Nat)
  /-- A socket client's dial, started in one open cycle, ends. -/
  | dial (id : ChannelId) (generation : Nat)
  /-- A close a channel scheduled for itself in one open cycle. -/
  | closeLater (id : ChannelId) (generation : Nat)
  deriving DecidableEq, Repr, Inhabited

/-- The world of a session. -/
structure World where
  channels : Array Channel := #[]
  names : List (String × ChannelId) := []
  unnamed : Nat := 0
  net : Net.NetHost := {}
  jobs : List Job := []
  serials : Nat := 0
  root : Logger := {}
  deriving Inhabited

/-- Operations on the world that may fail; the world keeps what happened before a failure. -/
abbrev Act := ExceptT Failure (StateM World)

namespace World

/-- The channel with a number. -/
def get? (w : World) (id : ChannelId) : Option Channel := w.channels[id]?

/-- The channel registered under a name. -/
def lookup (w : World) (name : String) : Option ChannelId := (w.names.find? (·.1 == name)).map (·.2)

/-- Changes one channel. -/
def modify (w : World) (id : ChannelId) (f : Channel → Channel) : World :=
  { w with channels := w.channels.modify id f }

/-- Hands a message to the channel's mailbox, if the channel still has one. -/
def dispatch (w : World) (id : ChannelId) (m : Message) : World :=
  w.modify id fun c => { c with mailbox := c.mailbox.map (·.accept m) }

/-- Dispatches state notices in order. -/
def notify (w : World) (id : ChannelId) (states : List LifeState) : World :=
  states.foldl (fun w s => w.dispatch id (Message.ofState s)) w

/-- Applies a lifecycle move to a channel and dispatches the states it entered. -/
def move (w : World) (id : ChannelId) (f : Cycle → Cycle × List LifeState) : World :=
  match w.get? id with
  | some c =>
    let (cycle, entered) := f c.cycle
    (w.modify id fun c => { c with cycle }).notify id entered
  | none => w

/-- Delivers a message from the transport: dropped while the channel is closed. -/
def deliver (w : World) (id : ChannelId) (m : Message) : World :=
  match w.get? id with
  | some c => if c.cycle.state = .closed then w else w.dispatch id m
  | none => w

/-- The state of a channel. -/
def stateOf (w : World) (id : ChannelId) : LifeState :=
  ((w.get? id).map (·.cycle.state)).getD .closed

/-- Sets what a channel holds. -/
def setHolding (w : World) (id : ChannelId) (h : Holding) : World :=
  w.modify id fun c => { c with holding := h }

/-- Queues background work. -/
def schedule (w : World) (j : Job) : World := { w with jobs := w.jobs ++ [j] }

end World

namespace Act

/-- The channel with a number; asking for one that does not exist is a failure. -/
def need (id : ChannelId) : Act Channel := do
  match (← get).get? id with
  | some c => pure c
  | none => throw (Failure.plain ("no channel number " ++ toString id))

/-- Fails with an error, or goes on with the value. -/
def ofExcept {α : Type} (r : Except Failure α) : Act α :=
  match r with
  | .ok a => pure a
  | .error e => throw e

end Act

end ChannelMux
