import ChannelMux.World.Create

/-! Opening, closing and releasing channels. -/

namespace ChannelMux

namespace World

/-- Takes down what a channel's kind holds: the queue of a direct end, a group's engine, a
request channel's exchanges, a listener's port, a node's route, a client's dial. -/
def takeDown (w : World) (id : ChannelId) : World :=
  match w.get? id with
  | none => w
  | some c =>
    match c.holding with
    | .direct e => w.setHolding id (.direct { e with queue := none })
    | .group _ => w.setHolding id (.group none)
    | .request g _ =>
      let w := w.setHolding id (.request g none)
      { w with jobs := w.jobs.filter fun
          | .exchange i _ => i != id
          | _ => true }
    | .listener routes bound =>
      let w := w.setHolding id (.listener routes none)
      match bound with
      | some b => { w with net := w.net.unlisten b.port }
      | none => w
    | .node _ server pattern _ =>
      match w.get? server with
      | some s =>
        match s.holding with
        | .listener routes bound => w.setHolding server (.listener (routes.unregister pattern id).1 bound)
        | _ => w
      | none => w
    | .client =>
      { w with jobs := w.jobs.filter fun
          | .dial i _ => i != id
          | _ => true }

/-- Closes channels in order, each with its subtree; `fuel` bounds the depth of the tree. -/
def closeEach : Nat → List ChannelId → World → World
  | 0, _, w => w
  | _ + 1, [], w => w
  | fuel + 1, id :: rest, w =>
    let w :=
      if w.stateOf id = .closed then w
      else
        let w := w.move id Cycle.beginClose
        let children := ((w.get? id).map (·.children)).getD []
        let w := closeEach fuel children w
        (w.takeDown id).move id Cycle.finishClose
    closeEach (fuel + 1) rest w
termination_by fuel ids => (fuel, ids.length)

/-- Closes a channel with its subtree. -/
def close (w : World) (id : ChannelId) : World := closeEach (w.channels.size + 1) [id] w

/-- Runs a close a channel scheduled for itself in generation `g`: only if the channel has not
been opened or closed since and is not closed. -/
def closeLater (w : World) (id : ChannelId) (g : Nat) : World :=
  match w.get? id with
  | some c => if c.cycle.staleFor g then w else w.close id
  | none => w

/-- Detaches a channel from the world: removes it from its master's children and from the name
registry, as described above. -/
def detach (w : World) (id : ChannelId) : World :=
  match w.get? id with
  | none => w
  | some c =>
    let w := match c.master with
      | some m => w.modify m fun mc => { mc with children := mc.children.filter (· != id) }
      | none => w
    let w := if w.lookup c.name == some id then { w with names := w.names.filter (·.1 != c.name) } else w
    match c.holding, c.master with
    | .direct e, some _ =>
      match e.peer with
      | some p =>
        match w.get? p with
        | some pc =>
          match pc.holding with
          | .direct pe => if pe.peer == some id then w.setHolding p (.direct { pe with peer := none }) else w
          | _ => w
        | none => w
      | none => w
    | _, _ => w

/-- Releases a channel: closes it and detaches it. -/
def release (w : World) (id : ChannelId) : World := (w.close id).detach id

end World

namespace Act

/-- Publishes an information entry of a channel. -/
def publish (id : ChannelId) (k v : String) : Act Unit :=
  modify fun w => w.modify id fun c => { c with info := c.info.insert k v }

/-- Applies a lifecycle move. -/
def move (id : ChannelId) (f : Cycle → Cycle × List LifeState) : Act Unit :=
  modify fun w => w.move id f

/-- The engine of a group for a member that opens: the group must be active and hold one. -/
def groupEngine (g : ChannelId) : Act Http.Engine := do
  let gc ← need g
  if gc.cycle.state != .active then
    throw ((Failure.invalidState ("group is " ++ gc.cycle.state.name)).within gc.logger.prefixText)
  match gc.holding with
  | .group (some e) => pure e
  | _ => throw ((Failure.invalidState "group is closed").within gc.logger.prefixText)

/-- Starts an exchange on an address of a request channel. Errors carry the channel's prefix. -/
def startExchange (id : ChannelId) (addr : Int) (r : Http.Outgoing) : Act Unit := do
  let c ← need id
  match c.holding with
  | .request g (some line) =>
    let serial := (← get).serials
    match line.start serial addr r with
    | .ok line =>
      modify fun w => ({ w with serials := serial + 1 }.setHolding id (.request g (some line))).schedule
        (.exchange id serial)
    | .error e => throw (e.within c.logger.prefixText)
  | _ => throw ((Failure.invalidState "channel is closed").within c.logger.prefixText)

/-- Brings up the transport of a channel's kind for an open cycle with descriptor `d`. -/
def bringUp (id : ChannelId) (d : Descriptor) : Act Unit := do
  let c ← need id
  match c.holding with
  | .direct e =>
    let size ← ofExcept (directQueueSize d.options)
    modify fun w => w.setHolding id (.direct { e with queue := some [], capacity := size })
    publish id "size" (toString size)
  | .group _ =>
    let e ← ofExcept (Http.Engine.ofOptions d.options)
    modify fun w => w.setHolding id (.group (some e))
    publish id "max-connections" (toString e.maxConnections)
  | .request g _ =>
    let o ← ofExcept (Http.RequestOptions.ofDescriptor d)
    let (engine, privateEngine) ← match g with
      | none => do pure ((← ofExcept (Http.Engine.ofOptions d.options)), true)
      | some gid => do pure ((← groupEngine gid), false)
    modify fun w => w.setHolding id (.request g (some { options := o, engine, privateEngine }))
    publish id "url" o.base
    publish id "method" o.method.name
    publish id "transfer" o.transferName
    if privateEngine then publish id "max-connections" (toString engine.maxConnections)
    if o.autoclose then
      move id Cycle.activate
      startExchange id 0 {}
  | .listener routes _ =>
    let address ← ofExcept (Socket.listenAddress d.host)
    let _ ← ofExcept ((d.options.getBool "metrics" false).mapError (·.failure))
    let _ ← ofExcept ((d.options.getBool "compress" false).mapError (·.failure))
    match Socket.bindListener (← get).net address with
    | .ok (b, net) =>
      modify fun w => { w.setHolding id (.listener routes (some b)) with net }
      modify fun w => w.modify id fun c => { c with info := b.publish "local" c.info }
    | .error e =>
      let inner := (c.logger.fork "http").prefixed ("Listen on " ++ address ++ " failed: " ++ e)
      throw (Failure.make .transport ("listen on " ++ address ++ ": " ++ inner))
  | .node kind server pattern _ =>
    let settings ← ofExcept (kind.settings d.options)
    modify fun w => w.setHolding id (.node kind server pattern settings)
    let sc ← need server
    match sc.holding with
    | .listener routes bound =>
      let routes ← ofExcept (routes.register sc.logger pattern id)
      modify fun w => w.setHolding server (.listener routes bound)
    | _ => throw (Failure.plain "node without a listening master")
  | .client =>
    ofExcept (Socket.clientSettings d.options)
    modify fun w => w.modify id fun c => { c with cycle := c.cycle.deferActivation }
    let g := (← need id).cycle.generation
    modify fun w => w.schedule (.dial id g)

/-- Opens a channel with options written over its descriptor, as described above. -/
def openWith (id : ChannelId) (extra : Options) : Act Unit := do
  let c ← need id
  if c.cycle.state != .closed then
    throw ((Failure.invalidState ("open in state " ++ c.cycle.state.name)).within c.logger.prefixText)
  let d ← match c.initial.override extra with
    | .ok d => pure d
    | .error e => throw (e.failure.within c.logger.prefixText)
  modify fun w => w.modify id fun c => { c with config := d, info := Options.empty }
  move id Cycle.beginOpen
  tryCatch (bringUp id d) fun e => do
    move id Cycle.fail
    throw e
  move id Cycle.finishOpen

end Act

end ChannelMux
