import ChannelMux.Http.Exchange

/-! A request channel under concurrent callers. -/

namespace ChannelMux.Http

/-- Where an exchange's goroutine is: exchanging, retired with its terminal Disconnect still to
deliver, or done. -/
inductive Stage where
  | exchanging
  | retired
  | done
  deriving DecidableEq, Repr

/-- The goroutine of one exchange. -/
structure Run where
  serial : Nat
  addr : Int
  plan : List Message × Disconnect
  sent : Nat := 0
  withdrawn : Bool := false
  silenced : Bool := false
  stage : Stage := .exchanging

/-- The goroutine an exchange starts, given what the client reports for it. -/
def Run.start (x : Exchange) (reply : Reply) (chunk : Nat) : Run :=
  { serial := x.serial, addr := x.addr, plan := reply.plan x.addr x.target.render chunk }

/-- How far the channel's close has gone: not begun; waiting for the goroutines to return, with
the engine it then shuts if the channel owns it; or returned, with the engine it shut. -/
inductive Closing where
  | notBegun
  | waiting (engine : Engine) (owned : Bool)
  | returned (shut : Option Engine)

/-- A request channel and its reader. -/
structure Traffic where
  line : Option RequestLine
  serials : Nat := 0
  runs : List Run := []
  log : List (Nat × Message) := []
  queue : List (Nat × Message) := []
  received : List (Nat × Message) := []
  closing : Closing := .notBegun

/-- What happens next. -/
inductive Event where
  | start (addr : Int) (r : Outgoing) (reply : Reply)
  | feed (addr : Int) (size : Nat)
  | cancel (addr : Int)
  | drop (addr : Int)
  | step (serial : Nat)
  | recv
  | close
  | unwound

namespace Traffic

/-- A channel just opened with these options and engine: an empty table, nothing started. -/
def opened (o : RequestOptions) (e : Engine) (privateEngine : Bool) : Traffic :=
  { line := some { options := o, engine := e, privateEngine } }

/-- Hands a message of an exchange to the callbacks. -/
def dispatch (t : Traffic) (serial : Nat) (m : Message) : Traffic :=
  { t with log := t.log ++ [(serial, m)], queue := t.queue ++ [(serial, m)] }

/-- Replaces the goroutine with the same serial. -/
def setRun (t : Traffic) (r : Run) : Traffic :=
  { t with runs := t.runs.map fun q => if q.serial = r.serial then r else q }

/-- Sets the silencing flag of the exchanges whose serials `hit` picks. -/
def silence (t : Traffic) (hit : Nat → Bool) : Traffic :=
  { t with runs := t.runs.map fun r => if hit r.serial then { r with silenced := true } else r }

/-- Starts an exchange on an address: refused once the channel is closed, and on an address that
has one. -/
def start? (t : Traffic) (addr : Int) (r : Outgoing) (reply : Reply) : Except Failure Traffic := do
  match t.line with
  | none => throw (Failure.invalidState "channel is closed")
  | some l =>
    let l' ← l.start t.serials addr r
    let x ← l.prepare t.serials addr r
    return { t with line := some l', serials := t.serials + 1,
                    runs := t.runs ++ [Run.start x reply l.options.chunk.toNat] }

/-- Feeds body bytes to the exchange of an address; a refused feed changes nothing. -/
def feed (t : Traffic) (addr : Int) (size : Nat) : Traffic :=
  match t.line with
  | some l =>
    match l.find? addr with
    | some x =>
      match l.feed x size with
      | .ok l' => { t with line := some l' }
      | .error _ => t
    | none => t
  | none => t

/-- Cancels an address: its entry leaves the table and is silenced. -/
def cancel (t : Traffic) (addr : Int) : Traffic :=
  match t.line with
  | some l =>
    { t with line := some (l.cancel addr) }.silence fun s =>
      (l.find? addr).any fun (x : Exchange) => x.serial == s
  | none => t

/-- Begins the close: the table goes away, every exchange in it is silenced, and the close waits. -/
def close (t : Traffic) : Traffic :=
  match t.line with
  | some l =>
    { t with line := none, closing := .waiting l.engine l.privateEngine }.silence fun s =>
      l.pending.any fun (x : Exchange) => x.serial == s
  | none => t

/-- Ends the close's wait once every goroutine has returned: the engine is shut if the channel owns
it, and the close returns. -/
def unwind (t : Traffic) : Traffic :=
  match t.closing with
  | .waiting e owned =>
    if t.runs.all (·.stage == .done) then { t with closing := .returned (if owned then some e else none) }
    else t
  | _ => t

/-- The next step of an exchange's goroutine. -/
def advance (t : Traffic) (r : Run) : Traffic :=
  match r.stage with
  | .exchanging =>
    match r.plan.1[r.sent]?, r.withdrawn with
    | some m, false =>
      if r.silenced then t.setRun { r with withdrawn := true }
      else (t.dispatch r.serial m).setRun { r with sent := r.sent + 1 }
    | _, _ =>
      { t with line := t.line.map fun (l : RequestLine) => (l.retire r.serial).1 }.setRun
        { r with stage := .retired }
  | .retired =>
    let t' := t.setRun { r with stage := .done }
    if r.withdrawn || r.silenced then t'
    else t'.dispatch r.serial (Message.disconnect r.addr r.plan.2)
  | .done => t

/-- Takes one event. -/
def step (t : Traffic) : Event → Traffic
  | .start addr r reply =>
    match t.start? addr r reply with
    | .ok t' => t'
    | .error _ => t
  | .feed addr size => t.feed addr size
  | .cancel addr => t.cancel addr
  | .drop addr => { t with queue := t.queue.filter (·.2.addr != addr) }
  | .step serial =>
    match t.runs.find? (·.serial = serial) with
    | some r => t.advance r
    | none => t
  | .recv =>
    match t.queue with
    | q :: rest => { t with queue := rest, received := t.received ++ [q] }
    | [] => t
  | .close => t.close
  | .unwound => t.unwind

/-- Takes the events in order. -/
def run (t : Traffic) (es : List Event) : Traffic := es.foldl step t

/-- The messages an exchange dispatched, in order. -/
def sentBy (t : Traffic) (serial : Nat) : List Message :=
  (t.log.filter (·.1 = serial)).map (·.2)

end Traffic

end ChannelMux.Http
