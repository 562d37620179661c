import ChannelMux.Lifecycle.Cycle
import ChannelMux.Message
import Mathlib.Logic.Function.Basic

/-! The lifecycle of one channel under concurrent callers. -/

namespace ChannelMux.Lifecycle

/-- What a channel's callbacks receive: a notice of a state the channel entered, or a message
its transport delivers. -/
inductive Dispatch where
  | notice (s : LifeState)
  | delivered (m : Message)

/-- The message the callbacks are handed. -/
def Dispatch.message : Dispatch → Message
  | .notice s => Message.ofState s
  | .delivered m => m

def Dispatch.notice? : Dispatch → Option LifeState
  | .notice s => some s
  | .delivered _ => none

/-- The record a channel's threads share: the lifecycle, the states entered and not yet taken
for dispatch, the holders of the life and delivery locks, and what the callbacks received. -/
structure Shared where
  cycle : Cycle := {}
  pending : List LifeState := []
  lifeLock : Option Nat := none
  deliveryLock : Option Nat := none
  log : List Dispatch := []

/-- Applies a lifecycle move under the state lock and queues the states it entered. -/
def Shared.move (sh : Shared) (f : Cycle → Cycle × List LifeState) : Shared :=
  { sh with cycle := (f sh.cycle).1, pending := sh.pending ++ (f sh.cycle).2 }

@[simp] theorem Shared.move_cycle (sh : Shared) (f : Cycle → Cycle × List LifeState) :
    (sh.move f).cycle = (f sh.cycle).1 := rfl

@[simp] theorem Shared.move_pending (sh : Shared) (f : Cycle → Cycle × List LifeState) :
    (sh.move f).pending = sh.pending ++ (f sh.cycle).2 := rfl

@[simp] theorem Shared.move_lifeLock (sh : Shared) (f : Cycle → Cycle × List LifeState) :
    (sh.move f).lifeLock = sh.lifeLock := rfl

@[simp] theorem Shared.move_deliveryLock (sh : Shared) (f : Cycle → Cycle × List LifeState) :
    (sh.move f).deliveryLock = sh.deliveryLock := rfl

@[simp] theorem Shared.move_log (sh : Shared) (f : Cycle → Cycle × List LifeState) :
    (sh.move f).log = sh.log := rfl

/-- A call a transport makes into its channel. -/
inductive TransportCall where
  | setActive
  | setError
  | deferActive
  | closeAsync
  | deliver (m : Message)

/-- A thread's turn under the delivery lock, from taking it to dropping it: draining the state
queue and dispatching what it took, or checking the lifecycle and then dispatching a message. -/
inductive Held where
  | flushTake
  | flushSend (batch : List LifeState)
  | deliverState (m : Message)
  | deliverSend (m : Message)

/-- What a thread has still to run before its body goes on: transport calls, and flushes of the
state queue waiting for the delivery lock. -/
inductive Frame where
  | flushAcquire
  | setActive
  | setError
  | deferActive
  | closeAsync
  | deliverAcquire (m : Message)

def TransportCall.frame : TransportCall → Frame
  | .setActive => .setActive
  | .setError => .setError
  | .deferActive => .deferActive
  | .closeAsync => .closeAsync
  | .deliver m => .deliverAcquire m

/-- Where a thread is in a user call, or in a close the channel scheduled for itself in
generation `generation`. -/
inductive Body where
  | idle
  | openLock (accepted : Bool)
  | openBegin (accepted : Bool)
  | openHook
  | openFinish
  | closeLock
  | closeBegin
  | closeHook
  | closeFinish
  | unlock
  | laterLock (generation : Nat)
  | laterCheck (generation : Nat)
  | postCheck
  | postHook
  deriving DecidableEq, Repr

/-- A thread: its turn under the delivery lock if it has one, the frames it runs next, innermost
first, and then the rest of its body. -/
structure Thread where
  held : Option Held := none
  work : List Frame := []
  body : Body := .idle

/-- Runs one step of a turn under the delivery lock: the record after it and what is left of the
turn, `none` once the lock is dropped. -/
def Held.exec (sh : Shared) : Held → Shared × Option Held
  | .flushTake => ({ sh with pending := [] }, some (.flushSend sh.pending))
  | .flushSend [] => ({ sh with deliveryLock := none }, none)
  | .flushSend (s :: rest) => ({ sh with log := sh.log ++ [.notice s] }, some (.flushSend rest))
  | .deliverState m =>
    if sh.cycle.state = .closed then ({ sh with deliveryLock := none }, none)
    else (sh, some (.deliverSend m))
  | .deliverSend m => ({ sh with log := sh.log ++ [.delivered m], deliveryLock := none }, none)

/-- Runs a frame on thread `i`: the record after it, the turn it starts under the delivery lock, the
frames that replace it and a thread it starts. -/
def Frame.exec (sh : Shared) (i : Nat) :
    Frame → Option (Shared × Option Held × List Frame × Option Thread)
  | .flushAcquire =>
    if sh.deliveryLock = none then some ({ sh with deliveryLock := some i }, some .flushTake, [], none)
    else none
  | .setActive =>
    if sh.cycle.state = .opening then some (sh.move Cycle.activate, none, [.flushAcquire], none)
    else some (sh, none, [], none)
  | .setError =>
    if sh.cycle.state = .opening ∨ sh.cycle.state = .active then
      some (sh.move Cycle.fail, none, [.flushAcquire], none)
    else some (sh, none, [], none)
  | .deferActive => some ({ sh with cycle := sh.cycle.deferActivation }, none, [], none)
  | .closeAsync => some (sh, none, [], some { body := .laterLock sh.cycle.generation })
  | .deliverAcquire m =>
    if sh.deliveryLock = none then
      some ({ sh with deliveryLock := some i }, some (.deliverState m), [], none)
    else none

/-- Runs the body of thread `i` once its frames are done: the record after it, the frames it
pushes and where the body goes; `none` while it waits for the life lock or for its hook. -/
def Body.exec (sh : Shared) (i : Nat) : Body → Option (Shared × List Frame × Body)
  | .idle => none
  | .openLock ok =>
    if sh.lifeLock = none then some ({ sh with lifeLock := some i }, [], .openBegin ok) else none
  | .openBegin ok =>
    if sh.cycle.state = .closed ∧ ok = true then
      some (sh.move Cycle.beginOpen, [.flushAcquire], .openHook)
    else some (sh, [], .unlock)
  | .openHook => none
  | .openFinish => some (sh.move Cycle.finishOpen, [.flushAcquire], .unlock)
  | .closeLock =>
    if sh.lifeLock = none then some ({ sh with lifeLock := some i }, [], .closeBegin) else none
  | .closeBegin =>
    if sh.cycle.state = .closed then some (sh, [], .unlock)
    else some (sh.move Cycle.beginClose, [.flushAcquire], .closeHook)
  | .closeHook => none
  | .closeFinish => some (sh.move Cycle.finishClose, [.flushAcquire], .unlock)
  | .unlock => some ({ sh with lifeLock := none }, [], .idle)
  | .laterLock g =>
    if sh.lifeLock = none then some ({ sh with lifeLock := some i }, [], .laterCheck g) else none
  | .laterCheck g =>
    if sh.cycle.staleFor g then some (sh, [], .unlock) else some (sh, [], .closeBegin)
  | .postCheck =>
    if sh.cycle.state = .active then some (sh, [], .postHook) else some (sh, [], .idle)
  | .postHook => none

namespace Thread

/-- Runs the next step of thread `i`: its turn under the delivery lock, else its first frame,
else its body. -/
def exec (t : Thread) (sh : Shared) (i : Nat) : Option (Shared × Thread × Option Thread) :=
  match t.held, t.work with
  | some h, _ => some ((h.exec sh).1, { t with held := (h.exec sh).2 }, none)
  | none, f :: rest =>
    (f.exec sh i).map fun (sh', h, fs, spawn) => (sh', { t with held := h, work := fs ++ rest }, spawn)
  | none, [] => (t.body.exec sh i).map fun (sh', fs, body) => (sh', { t with work := fs, body }, none)

/-- The transport's hook runs on a thread that waits for it: it makes `calls` on that thread, and
an open hook that `fails` makes the open report the failure and leave the channel in error. -/
def hook (t : Thread) (calls : List TransportCall) (fails : Bool) : Thread :=
  match t.held, t.work, t.body with
  | none, [], .openHook =>
    if fails then { work := calls.map TransportCall.frame ++ [.setError], body := .unlock }
    else { work := calls.map TransportCall.frame, body := .openFinish }
  | none, [], .closeHook => { work := calls.map TransportCall.frame, body := .closeFinish }
  | none, [], .postHook => { work := calls.map TransportCall.frame, body := .idle }
  | _, _, _ => t

/-- Whether a thread has returned from its call. -/
def done (t : Thread) : Bool := t.held.isNone && t.work.isEmpty && t.body == .idle

end Thread

/-- A call made into the channel on a thread of its own. An open names whether its options are
accepted; a release closes the channel as a close does. -/
inductive Call where
  | open (accepted : Bool)
  | close
  | release
  | post
  | transport (c : TransportCall)

def Call.thread : Call → Thread
  | .open ok => { body := .openLock ok }
  | .close => { body := .closeLock }
  | .release => { body := .closeLock }
  | .post => { body := .postCheck }
  | .transport c => { work := [c.frame] }

/-- What happens next: a call starts on a new thread, a thread takes a step, or a waiting hook of
a thread runs. -/
inductive Event where
  | call (c : Call)
  | step (i : Nat)
  | hook (i : Nat) (calls : List TransportCall) (fails : Bool)

/-- A channel and its threads; threads are numbered in the order they started. -/
structure Machine where
  shared : Shared := {}
  threads : Nat → Thread := fun _ => {}
  spawned : Nat := 0

namespace Machine

def spawn (m : Machine) (t : Thread) : Machine :=
  { m with threads := Function.update m.threads m.spawned t, spawned := m.spawned + 1 }

/-- Thread `i` has taken a step: the record and the thread are what the step left, and a thread
the step started is added. -/
def advance (m : Machine) (i : Nat) : Shared × Thread × Option Thread → Machine
  | (sh, t, started) =>
    let m' : Machine := { m with shared := sh, threads := Function.update m.threads i t }
    match started with
    | some t' => m'.spawn t'
    | none => m'

@[simp] theorem spawn_shared (m : Machine) (t : Thread) : (m.spawn t).shared = m.shared := rfl

@[simp] theorem spawn_spawned (m : Machine) (t : Thread) : (m.spawn t).spawned = m.spawned + 1 := rfl

@[simp] theorem spawn_threads (m : Machine) (t : Thread) :
    (m.spawn t).threads = Function.update m.threads m.spawned t := rfl

@[simp] theorem advance_shared (m : Machine) (i : Nat) (sh : Shared) (t : Thread)
    (started : Option Thread) : (m.advance i (sh, t, started)).shared = sh := by
  cases started <;> rfl

@[simp] theorem advance_none_threads (m : Machine) (i : Nat) (sh : Shared) (t : Thread) :
    (m.advance i (sh, t, none)).threads = Function.update m.threads i t := rfl

@[simp] theorem advance_none_spawned (m : Machine) (i : Nat) (sh : Shared) (t : Thread) :
    (m.advance i (sh, t, none)).spawned = m.spawned := rfl

@[simp] theorem advance_some_threads (m : Machine) (i : Nat) (sh : Shared) (t t' : Thread) :
    (m.advance i (sh, t, some t')).threads =
      Function.update (Function.update m.threads i t) m.spawned t' := rfl

@[simp] theorem advance_some_spawned (m : Machine) (i : Nat) (sh : Shared) (t t' : Thread) :
    (m.advance i (sh, t, some t')).spawned = m.spawned + 1 := rfl

def step (m : Machine) : Event → Machine
  | .call c => m.spawn c.thread
  | .step i =>
    match (m.threads i).exec m.shared i with
    | some r => m.advance i r
    | none => m
  | .hook i calls fails =>
    { m with threads := Function.update m.threads i ((m.threads i).hook calls fails) }

def run (m : Machine) (es : List Event) : Machine := es.foldl step m

/-- Every call made so far has returned. -/
def Settled (m : Machine) : Prop := ∀ i < m.spawned, (m.threads i).done = true

instance (m : Machine) : Decidable m.Settled := inferInstanceAs (Decidable (∀ i < _, _))

/-- The states a run moves the channel into, one for each step that changes the state. -/
def changes (m : Machine) : List Event → List LifeState
  | [] => []
  | e :: es =>
    (if (m.step e).shared.cycle.state = m.shared.cycle.state then []
     else [(m.step e).shared.cycle.state]) ++ (m.step e).changes es

end Machine

end ChannelMux.Lifecycle
