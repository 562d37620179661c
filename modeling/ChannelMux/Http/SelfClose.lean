import ChannelMux.Http.Request
import ChannelMux.Lifecycle.Threads

/-! A self-closing request channel under concurrent callers. -/

namespace ChannelMux.Http

open Lifecycle

/-- When a retire triggered its channel's close: the generation the channel was in and how many
exchanges had been started. -/
structure Trigger where
  generation : Nat
  started : Nat
  deriving DecidableEq, Repr

/-- Where an exchange's goroutine is: exchanging; retired, with the close it triggers if its
retire left the table of a self-closing channel empty; or returned. -/
inductive Leg where
  | exchanging
  | retired (trigger : Option Trigger)
  | returned
  deriving DecidableEq, Repr

/-- The goroutine of the exchange with a serial. -/
structure Runner where
  serial : Nat
  leg : Leg := .exchanging
  deriving DecidableEq, Repr

/-- What a post's hook does to the address table. -/
inductive PostAction where
  | start (addr : Int) (r : Outgoing)
  | cancel (addr : Int)
  | other

/-- A call the user makes into the channel. -/
inductive UserCall where
  | open (accepted : Bool)
  | close
  | release
  | post

def UserCall.toCall : UserCall → Call
  | .open ok => .open ok
  | .close => .close
  | .release => .release
  | .post => .post

/-- A self-closing request channel. -/
structure SelfClosing where
  base : Machine := {}
  table : Option RequestLine := none
  serials : Nat := 0
  runners : List Runner := []
  closers : List (Nat × Trigger) := []
  selfCloses : List (Nat × Trigger) := []

namespace SelfClosing

/-- What happens next: the user starts a call, a thread takes a step, the open, close or post hook
of a thread waiting for it runs, or an exchange's goroutine ends its exchange or wraps up. -/
inductive Event where
  | call (c : UserCall)
  | step (i : Nat)
  | opened (i : Nat) (bound : Option (RequestOptions × Engine × Bool))
  | closed (i : Nat)
  | posted (i : Nat) (action : PostAction)
  | finish (serial : Nat)
  | wrapUp (serial : Nat)

/-- The channel's generation. -/
def generation (m : SelfClosing) : Nat := m.base.shared.cycle.generation

/-- Whether thread `i` waits at point `b` of its body, with no turn or frame left. -/
def waitsAt (m : SelfClosing) (i : Nat) (b : Lifecycle.Body) : Bool :=
  (m.base.threads i).held.isNone && (m.base.threads i).work.isEmpty && (m.base.threads i).body == b

/-- Runs the hook of thread `i`: it makes `calls` on that thread, and fails or not. -/
def hook (m : SelfClosing) (i : Nat) (calls : List TransportCall) (fails : Bool) : SelfClosing :=
  { m with base := m.base.step (.hook i calls fails) }

/-- Starts an exchange on an address: refused once the table is gone, and where the table
refuses it. -/
def start (m : SelfClosing) (addr : Int) (r : Outgoing) : Except Failure SelfClosing :=
  match m.table with
  | none => .error (Failure.invalidState "channel is closed")
  | some l =>
    match l.start m.serials addr r with
    | .ok l' => .ok { m with table := some l', serials := m.serials + 1,
                             runners := m.runners ++ [{ serial := m.serials }] }
    | .error e => .error e

/-- Moves the goroutine of an exchange to another leg. -/
def setLeg (m : SelfClosing) (serial : Nat) (leg : Leg) : SelfClosing :=
  { m with runners := m.runners.map fun r => if r.serial = serial then { r with leg } else r }

/-- The goroutine of an exchange. -/
def runner? (m : SelfClosing) (serial : Nat) : Option Runner := m.runners.find? (·.serial = serial)

/-- Whether every exchange's goroutine has returned. -/
def drained (m : SelfClosing) : Bool := m.runners.all (·.leg == .returned)

/-- What is recorded when thread `i` takes a step: a scheduled close that begins closing the
channel, with the generation it closes and its trigger. -/
def begun (m : SelfClosing) (i : Nat) : List (Nat × Trigger) :=
  if m.waitsAt i .closeBegin && m.base.shared.cycle.state != .closed then
    ((m.closers.find? (·.1 = i)).map fun c => (m.generation, c.2)).toList
  else []

/-- Takes one event. A hook event for a thread not waiting for that hook, and an event of a
goroutine not at that point, change nothing. -/
def step (m : SelfClosing) : Event → SelfClosing
  | .call c => { m with base := m.base.step (.call c.toCall) }
  | .step i =>
    if m.waitsAt i .closeFinish && !m.drained then m
    else { m with base := m.base.step (.step i), selfCloses := m.selfCloses ++ m.begun i }
  | .opened i bound =>
    if m.waitsAt i .openHook then
      match bound with
      | none => m.hook i [] true
      | some (o, e, p) =>
        let m := { m with table := some { options := o, engine := e, privateEngine := p } }
        if o.autoclose then
          match m.start 0 {} with
          | .ok m => m.hook i [.setActive] false
          | .error _ => m.hook i [.setActive] true
        else m.hook i [] false
    else m
  | .closed i => if m.waitsAt i .closeHook then { m with table := none }.hook i [] false else m
  | .posted i action =>
    if m.waitsAt i .postHook then
      let m := match action with
        | .start addr r =>
          match m.start addr r with
          | .ok m => m
          | .error _ => m
        | .cancel addr => { m with table := m.table.map (RequestLine.cancel · addr) }
        | .other => m
      m.hook i [] false
    else m
  | .finish s =>
    match m.runner? s with
    | some { leg := .exchanging, .. } =>
      match m.table with
      | some l =>
        let trigger := if (l.retire s).2 && l.options.autoclose then
          some { generation := m.generation, started := m.serials } else none
        { m with table := some (l.retire s).1 }.setLeg s (.retired trigger)
      | none => m.setLeg s (.retired none)
    | _ => m
  | .wrapUp s =>
    match m.runner? s with
    | some { leg := .retired trigger, .. } =>
      let m' := m.setLeg s .returned
      match trigger with
      | some tr =>
        { m' with base := m'.base.spawn { body := .laterLock m'.generation },
                  closers := m'.closers ++ [(m'.base.spawned, tr)] }
      | none => m'
    | _ => m

def run (m : SelfClosing) (es : List Event) : SelfClosing := es.foldl step m

end SelfClosing

end ChannelMux.Http
