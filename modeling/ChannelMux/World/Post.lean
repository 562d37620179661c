import ChannelMux.World.Life

/-! Posting messages to channels, and the work that runs when the session waits. -/

namespace ChannelMux

/-- Hexadecimal digits of an integer, with a minus sign in front of a negative one. -/
def signedHex (n : Int) : String :=
  (if n < 0 then "-" else "") ++ String.ofList (Nat.toDigits 16 n.natAbs)

namespace World

/-- Hands everything queued at a direct end to that end. -/
def pump (w : World) (id : ChannelId) : World :=
  match w.get? id with
  | some c =>
    match c.holding with
    | .direct e =>
      let queued := e.queue.getD []
      let w := w.setHolding id (.direct { e with queue := e.queue.map fun _ => [] })
      queued.foldl (fun w m => w.deliver id m) w
    | _ => w
  | none => w

/-- Runs one piece of background work. -/
def runJob (w : World) : Job → World
  | .exchange id serial =>
    match w.get? id with
    | some c =>
      match c.holding with
      | .request g (some line) =>
        match line.running? serial with
        | some x =>
          let (retired, idle) := line.retire serial
          let w := w.setHolding id (.request g (some retired))
          let w := if x.silenced then w else w.deliver id (Message.disconnect x.addr (x.outcome line.engine))
          if line.options.autoclose && idle then w.schedule (.closeLater id (((w.get? id).map (·.cycle.generation)).getD 0))
          else w
        | none => w
      | _ => w
    | none => w
  | .dial id _ => w.move id Cycle.fail
  | .closeLater id g => w.closeLater id g

/-- Runs queued background work, newest work after older, until none is left. -/
def settleWith : Nat → World → World
  | 0, w => w
  | fuel + 1, w =>
    match w.jobs with
    | [] => w
    | j :: rest => settleWith fuel ({ w with jobs := rest }.runJob j)

/-- Runs all background work. Each piece adds at most one more, so twice the queue suffices. -/
def settle (w : World) : World := settleWith (2 * w.jobs.length + 1) w

end World

namespace Act

/-- Takes a posted message by the channel's kind. -/
def takePost (id : ChannelId) (m : Message) : Act Unit := do
  let c ← need id
  let pre := c.logger.prefixText
  let fail {α : Type} (f : Failure) : Act α := throw (f.within pre)
  match c.holding with
  | .direct e =>
    match e.peer with
    | none => fail (Failure.invalidState "no peer attached")
    | some p =>
      let pc ← need p
      match pc.holding with
      | .direct pe =>
        match pe.queue with
        | none => throw ((Failure.invalidState "peer is not open").within pc.logger.prefixText)
        | some q =>
          if pe.capacity ≤ q.length then
            throw ((Failure.make .queueFull ("queue of " ++ toString pe.capacity ++ " messages is full")).within
              pc.logger.prefixText)
          modify fun w => (w.setHolding p (.direct { pe with queue := some (q ++ [m]) })).pump p
      | _ => fail (Failure.invalidState "no peer attached")
  | .group _ => fail (Failure.invalidState (c.scheme ++ " carries no traffic"))
  | .request g line =>
    match line with
    | none => fail (Failure.invalidState "channel is closed")
    | some line =>
      match m.kind with
      | .data =>
        match line.find? m.addr with
        | some x =>
          match line.feed x m.payload.size with
          | .ok line => modify fun w => w.setHolding id (.request g (some line))
          | .error e => fail e
        | none =>
          if line.options.control then
            fail (Failure.protocol ("data on address " ++ toString m.addr ++ " without Connect"))
          startExchange id m.addr (Http.Outgoing.ofData m.payload.size)
      | .control =>
        match m.asConnect?, m.asDisconnect? with
        | some cn, _ =>
          match line.options.announce cn with
          | .ok r => startExchange id m.addr r
          | .error e => fail e
        | none, some _ => modify fun w => w.setHolding id (.request g (some (line.cancel m.addr)))
        | none, none => fail (Failure.protocol ("can not post " ++ m.text))
      | _ => fail (Failure.protocol ("can not post " ++ m.text))
  | .listener _ _ => fail (Failure.invalidState "post to listening channel, use the sub channel")
  | .node kind _ _ settings =>
    match kind, m.kind with
    | .publish, .data =>
      match Socket.publishFault? settings m.payload.size with
      | some f => fail f
      | none => pure ()
    | _, _ => fail (Failure.make .notFound ("session 0x" ++ signedHex m.addr ++ " not found"))
  | .client => fail (Failure.invalidState "not connected")

/-- Posts a message to a channel, as described above. -/
def post (id : ChannelId) (m : Message) : Act Unit := do
  let c ← need id
  if c.cycle.state != .active then
    throw ((Failure.invalidState ("post " ++ m.text ++ " in state " ++ c.cycle.state.name)).within
      c.logger.prefixText)
  takePost id m
  if m.asDisconnect?.isSome then
    modify fun w => w.modify id fun c => { c with mailbox := c.mailbox.map (·.dropAddress m.addr) }

end Act

end ChannelMux
