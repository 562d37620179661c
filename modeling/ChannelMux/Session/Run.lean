import ChannelMux.Session.Step

/-! Running a session script. -/

namespace ChannelMux.Session

/-- A running session. -/
structure Run where
  world : World := {}
  held : List (String × ChannelId) := []
  created : List ChannelId := []
  ports : PortNames := []
  deriving Inhabited

/-- Runs a world operation. -/
def perform {α : Type} (w : World) (a : Act α) : Except Failure α × World := (ExceptT.run a).run w

/-- Information as sessions show it: values under keys ending in `.port` masked. -/
def shownInfo (o : Options) : Options :=
  ⟨o.entries.map fun (k, v) => if k.endsWith ".port" then (k, "<port>") else (k, v)⟩

/-- The text of information: its `key=value` entries sorted as texts and joined by `;`. -/
def infoText (o : Options) : String :=
  ";".intercalate ((o.entries.map fun (k, v) => k ++ "=" ++ v).mergeSort (fun a b => decide (a ≤ b)))

/-- A timeout failure of a channel. -/
def timedOut (c : Channel) (text : String) : Failure :=
  (Failure.make .timeout text).within c.logger.prefixText

/-- The states a wait names, written as a list. -/
def stateList (want : List LifeState) : String :=
  "[" ++ " ".intercalate (want.map LifeState.name) ++ "]"

/-- Takes up to `n` messages from a channel's mailbox, oldest first. -/
def takeMessages (w : World) (id : ChannelId) (n : Nat) : List Message × World :=
  match w.get? id with
  | some c =>
    let box := c.mailbox.getD {}
    let taken := box.messages.take n
    (taken, w.modify id fun c => { c with mailbox := c.mailbox.map fun b => { b with messages := b.messages.drop n } })
  | none => ([], w)

/-- Splits messages at the first Disconnect, which ends the first part. -/
def untilDisconnect : List Message → List Message × Option Disconnect × List Message
  | [] => ([], none, [])
  | m :: rest =>
    match m.asDisconnect? with
    | some d => ([], some d, rest)
    | none =>
      let (before, d, after) := untilDisconnect rest
      (m :: before, d, after)

/-- The joined payloads of messages. -/
def joinPayloads (ms : List Message) : ByteArray :=
  ms.foldl (fun acc m => acc ++ m.payload) ByteArray.empty

namespace Run

/-- The channel a session holds under a name. -/
def find? (s : Run) (name : String) : Option ChannelId := s.held.lookup name

/-- Remembers the ports of the listening channels held. -/
def notePorts (s : Run) : Run :=
  s.held.foldl (fun s (name, id) =>
    match s.world.get? id with
    | some { holding := .listener _ (some b), .. } =>
      { s with ports := (name, b.port) :: s.ports.filter (·.1 != name) }
    | _ => s) s

/-- Sets the world. -/
def withWorld (s : Run) (w : World) : Run := { s with world := w }

/-- Steps on a channel the session holds. -/
def onChannel (s : Run) (ch : String) (k : ChannelId → Channel → Run × Answer) : Run × Answer :=
  match s.find? ch with
  | some id =>
    match s.world.get? id with
    | some c => k id c
    | none => (s, .missing ch)
  | none => (s, .missing ch)

/-- Creates a channel. -/
def create (s : Run) (url : String) (master : Option String) (props : Options) : Run × Answer :=
  let masterId : Except String (Option ChannelId) :=
    match master with
    | none => .ok none
    | some name => if name.isEmpty then .ok none else
      match s.find? name with
      | some id => .ok (some id)
      | none => .error name
  match masterId with
  | .error name => (s, .missing name)
  | .ok m =>
    match perform s.world (Act.createFrom url props m) with
    | (.ok id, w) =>
      match w.get? id with
      | some c =>
        let s := { s.withWorld w with held := s.held.filter (·.1 != c.name) ++ [(c.name, id)],
                                      created := s.created ++ [id] }
        let masterName := c.master.bind fun mi => (w.get? mi).map (·.name)
        (s, .created c.name c.scheme c.cycle.state masterName)
      | none => (s.withWorld w, .done)
    | (.error f, w) => (s.withWorld w, .failed f)

/-- Runs one step. -/
def step (s : Run) : Step → Run × Answer
  | .create url master props => s.create url master props
  | .openWith ch props => s.onChannel ch fun id _ =>
    match perform s.world (Act.openWith id props) with
    | (.ok (), w) => (s.withWorld w, .done)
    | (.error f, w) => (s.withWorld w, .openFailed f (w.stateOf id))
  | .close ch => s.onChannel ch fun id _ =>
    let w := s.world.close id
    (s.withWorld w, .closedAs (w.stateOf id))
  | .release ch => s.onChannel ch fun id _ =>
    let w := s.world.release id
    (s.withWorld w, .closedAs (w.stateOf id))
  | .post ch m => s.onChannel ch fun id _ =>
    match perform s.world (Act.post id m) with
    | (.ok (), w) => (s.withWorld w, .done)
    | (.error f, w) => (s.withWorld w, .failed f)
  | .recv ch => s.onChannel ch fun id c =>
    let (taken, w) := takeMessages s.world.settle id 1
    match taken with
    | m :: _ => (s.withWorld w, .message m)
    | [] => (s.withWorld w, .failed (timedOut c "no message received"))
  | .recvMany ch n => s.onChannel ch fun id c =>
    let (taken, w) := takeMessages s.world.settle id n
    if taken.length < n then (s.withWorld w, .failed (timedOut c "no message received"))
    else (s.withWorld w, .messages (taken.mergeSort fun a b => decide (a.addr ≤ b.addr)))
  | .recvExchange ch _ => s.onChannel ch fun id c =>
    let w := s.world.settle
    let queued := ((w.get? id).bind (·.mailbox)).map (·.messages) |>.getD []
    let (before, d, _) := untilDisconnect queued
    let used := match d with
      | some _ => before.length + 1
      | none => queued.length
    let (_, w) := takeMessages w id used
    match d with
    | some d =>
      let connects := before.filterMap Message.asConnect?
      let datas := before.filter fun m => m.kind = .data
      (s.withWorld w, .exchange connects datas.length (joinPayloads datas) d)
    | none => (s.withWorld w, .failed (timedOut c "no message received"))
  | .recvState ch => s.onChannel ch fun id c =>
    let w := s.world.settle
    match (w.get? id).bind (·.mailbox) |>.bind Mailbox.takeState? with
    | some (st, box) => (s.withWorld (w.modify id fun c => { c with mailbox := some box }), .stateName st)
    | none => (s.withWorld w, .failed (timedOut c "no state received"))
  | .awaitState ch want => s.onChannel ch fun id c =>
    let w := s.world.settle
    let now := w.stateOf id
    if want.contains now then (s.withWorld w, .stateName now)
    else (s.withWorld w, .failed (timedOut c ("waiting for state " ++ stateList want ++ " in state " ++ now.name)))
  | .state ch => s.onChannel ch fun _ c => (s, .stateName c.cycle.state)
  | .info ch => s.onChannel ch fun _ c => (s, .info (shownInfo c.info))
  | .infoView ch pre key => s.onChannel ch fun _ c =>
    let shown := shownInfo c.info
    (s, .infoView shown.keys (shown.sub pre) (infoText shown) (shown.get? key))
  | .config ch => s.onChannel ch fun _ c => (s, .config c.config)
  | .children ch => s.onChannel ch fun _ c =>
    (s, .names (c.children.filterMap fun i => (s.world.get? i).map (·.name)))
  | .pending ch => s.onChannel ch fun _ c => (s, .count ((c.mailbox.map Mailbox.pending).getD 0))
  | .routes ch => s.onChannel ch fun _ c =>
    match c.holding with
    | .listener routes _ => (s, .names routes.patterns)
    | _ => (s, .notApplicable ("channel " ++ Text.quote ch ++ " has no routes"))
  | .outstanding ch => s.onChannel ch fun _ c =>
    match c.holding with
    | .request _ line => (s, .count ((line.map Http.RequestLine.outstanding).getD 0))
    | _ => (s, .notApplicable ("channel " ++ Text.quote ch ++ " has no requests"))
  | .schemes => (s, .names knownSchemes)
  | .lookup name =>
    match s.world.lookup name |>.bind s.world.get? with
    | some c => (s, .found (some (c.scheme, c.cycle.state)))
    | none => (s, .found none)
  | .contextClose =>
    let roots := s.world.names.filterMap fun (_, id) =>
      match s.world.get? id with
      | some c => if c.master.isNone then some id else none
      | none => none
    (s.withWorld (roots.foldl World.close s.world), .done)
  | .loopClose =>
    let w := s.created.reverse.foldl (fun w id =>
      (w.modify id fun c => { c with mailbox := none }).release id) s.world
    ({ s.withWorld w with held := [], created := [] }, .done)

/-- Runs one step and remembers the ports of the listening channels. -/
def advance (s : Run) (st : Step) : Run × Answer :=
  let (s, a) := s.step st
  (s.notePorts, a)

end Run

end ChannelMux.Session
