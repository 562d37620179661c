import ChannelMux.World.Post

/-! The sessions of a socket node, and what a post does to them. -/

namespace ChannelMux.Socket

/-- A frame a session writes to its connection. -/
inductive Frame where
  | data (bytes : ByteArray)
  | close

namespace Frame

/-- The payload of a data frame. -/
def bytes? : Frame → Option ByteArray
  | .data bytes => some bytes
  | .close => none

end Frame

/-- What a broadcast did at a session: queued its payload, or found the backlog full, shutting
the session down (`started`) or finding it shutting down already. -/
inductive Intake where
  | queued
  | overflowed (started : Bool)
  deriving DecidableEq, Repr

/-- A broadcast that reached a session: its number, its payload and what it did there. -/
structure Arrival where
  cast : Nat
  payload : ByteArray
  outcome : Intake

/-- A connection of a node. -/
structure Session where
  addr : Int
  backlog : List ByteArray := []
  writes : List Frame := []
  stopping : Bool := false
  reason : Option Failure := none
  writing : Bool := false
  arrivals : List Arrival := []

namespace Session

/-- Starts the shutdown with a reason, unless it has started already. -/
def stop (s : Session) (reason : Option Failure) : Session :=
  if s.stopping then s else { s with stopping := true, reason }

/-- The failure a session whose backlog is full shuts down with, under its own logger. -/
def backlogFull (s : Session) (logger : Logger) : Failure :=
  (Failure.make .queueFull "backlog full").within
    (logger.fork ("addr 0x" ++ signedHex s.addr)).prefixText

/-- The failure of a frame that could not be written. -/
def writeFailure (cause : String) : Failure :=
  Failure.make .transport ("write frame: " ++ cause)

/-- Writes a frame; a failed write gives its failure. -/
def write (s : Session) (f : Frame) (fault : Option String) : Except Failure Unit × Session :=
  (match fault with
    | none => .ok ()
    | some cause => .error (writeFailure cause),
   { s with writes := s.writes ++ [f] })

/-- Takes a posted message. Data goes into the backlog when the session has one of `room` payloads,
without waiting: a full backlog shuts the session down; without a backlog it is written at once. -/
def post (s : Session) (room : Option Nat) (logger : Logger) (m : Message) (fault : Option String) :
    Except Failure Unit × Session :=
  match m.kind with
  | .data =>
    match room with
    | some n =>
      if s.backlog.length < n then (.ok (), { s with backlog := s.backlog ++ [m.payload] })
      else (.ok (), s.stop (some (s.backlogFull logger)))
    | none => s.write (.data m.payload) fault
  | .control =>
    if m.asDisconnect?.isSome then
      let s := { s with writes := s.writes ++ [.close] }
      (.ok (), if fault.isSome then s.stop none else s)
    else (.ok (), s)
  | _ => (.ok (), s)

/-- The payloads of the data frames written. -/
def dataWrites (s : Session) : List ByteArray := s.writes.filterMap Frame.bytes?

/-- The payloads that broadcasts queued, in the order they arrived. -/
def queued (s : Session) : List ByteArray :=
  (s.arrivals.filter (·.outcome == .queued)).map (·.payload)

/-- The number of times broadcast `c` reached the session. -/
def arrivalsOf (s : Session) (c : Nat) : Nat := s.arrivals.countP (·.cast == c)

end Session

/-- A broadcast: the message, the sessions of the table's snapshot, and those it has still to
reach. -/
structure Cast where
  message : Message
  snapshot : List Nat
  pending : List Nat

/-- A socket node as its posts see it: whether it publishes, its settings and logger, every session
it has accepted, by number; its table from addresses to sessions; and its broadcasts, by number. -/
structure Hub where
  publish : Bool
  settings : NodeSettings
  logger : Logger
  sessions : List Session := []
  table : List (Int × Nat) := []
  casts : List Cast := []

/-- What happens next. -/
inductive HubEvent where
  | connect (addr : Int)
  | leave (addr : Int)
  | stop (i : Nat) (reason : Option Failure)
  | post (m : Message) (fault : Option String)
  | push (c j : Nat)
  | write (i : Nat) (fault : Option String)
  | quit (i : Nat)

namespace Hub

/-- The room of a session's backlog: `ring-size` payloads on a publishing node, none otherwise. -/
def room (h : Hub) : Option Nat := if h.publish then some h.settings.ringSize.toNat else none

/-- The sessions of the table. -/
def snapshot (h : Hub) : List Nat := h.table.map (·.2)

/-- The session of an address, with its number. -/
def sessionAt? (h : Hub) (addr : Int) : Option (Nat × Session) :=
  match h.table.lookup addr with
  | some i => (h.sessions[i]?).map (i, ·)
  | none => none

/-- The failure of a post on an address with no session. -/
def missing (h : Hub) (addr : Int) : Failure :=
  (Failure.make .notFound ("session 0x" ++ signedHex addr ++ " not found")).within
    h.logger.prefixText

/-- Changes session `i`. -/
def modifySession (h : Hub) (i : Nat) (f : Session → Session) : Hub :=
  { h with sessions := h.sessions.modify i f }

/-- Takes a posted message: a publishing node starts a broadcast of a Data that fits to the
sessions of its table; any other message goes to the session of its address. -/
def post (h : Hub) (m : Message) (fault : Option String) : Except Failure Unit × Hub :=
  if h.publish && m.kind == .data then
    match publishFault? h.settings m.payload.size with
    | some f => (.error (f.within h.logger.prefixText), h)
    | none => (.ok (), { h with casts := h.casts ++ [⟨m, h.snapshot, h.snapshot⟩] })
  else
    match h.sessionAt? m.addr with
    | some (i, s) =>
      let (r, s) := s.post h.room h.logger m fault
      (r, { h with sessions := h.sessions.set i s })
    | none => (.error (h.missing m.addr), h)

/-- Broadcast `c` reaches session `i`, which takes its message and records the arrival. -/
def reach (h : Hub) (c : Nat) (cast : Cast) (i : Nat) : Hub :=
  h.modifySession i fun s =>
    let outcome : Intake :=
      if s.backlog.length < h.settings.ringSize.toNat then .queued else .overflowed !s.stopping
    { (s.post h.room h.logger cast.message none).2 with
      arrivals := s.arrivals ++ [⟨c, cast.message.payload, outcome⟩] }

/-- The writer of session `i` writes the head of its backlog; a failed write shuts the session
down and ends the writer. -/
def writeNext (s : Session) (fault : Option String) : Session :=
  match s.writing, s.backlog with
  | true, d :: rest =>
    let s := { (s.write (.data d) fault).2 with backlog := rest }
    match fault with
    | none => s
    | some cause => { s.stop (some (Session.writeFailure cause)) with writing := false }
  | _, _ => s

/-- Takes one event. -/
def step (h : Hub) : HubEvent → Hub
  | .connect addr =>
    { h with sessions := h.sessions ++ [{ addr, writing := h.publish }],
             table := h.table.filter (·.1 != addr) ++ [(addr, h.sessions.length)] }
  | .leave addr => { h with table := h.table.filter (·.1 != addr) }
  | .stop i reason => h.modifySession i (·.stop reason)
  | .post m fault => (h.post m fault).2
  | .push c j =>
    match h.casts[c]? with
    | some cast =>
      match cast.pending[j]? with
      | some i =>
        { h.reach c cast i with casts := h.casts.set c { cast with pending := cast.pending.eraseIdx j } }
      | none => h
    | none => h
  | .write i fault => h.modifySession i (writeNext · fault)
  | .quit i =>
    h.modifySession i fun s => if s.writing && s.stopping then { s with writing := false } else s

/-- Takes the events in order. -/
def run (h : Hub) (es : List HubEvent) : Hub := es.foldl step h

end Hub

end ChannelMux.Socket
