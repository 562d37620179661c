import ChannelMux.Lifecycle.Threads

/-! How a channel hands what it delivers to its callbacks, under concurrent callers. -/

namespace ChannelMux.Lifecycle

/-- A step of a dispatch, as the log records it. -/
inductive Handoff where
  /-- Thread `thread` begins to hand `item` to the callbacks `ids`, in that order. -/
  | begin (thread : Nat) (item : Dispatch) (ids : List Nat)
  /-- Thread `thread` calls callback `id` with `item`, passed on under `guard`. -/
  | call (thread : Nat) (id : Nat) (item : Dispatch) (guard : Option Nat)

/-- The thread that made a step of a dispatch. -/
def Handoff.thread : Handoff → Nat
  | .begin t _ _ => t
  | .call t _ _ _ => t

/-- What a whole dispatch of `item` by thread `t` to the callbacks `ids` logs: its beginning, then
one call of each callback in turn. -/
def Handoff.dispatch (t : Nat) (item : Dispatch) (guard : Option Nat) (ids : List Nat) :
    List Handoff :=
  .begin t item ids :: ids.map fun id => .call t id item guard

/-- Where a thread is in a call into the channel's delivery. A delivery carries its message and
the guard it is passed on under, `none` for one always passed on. -/
inductive Caller where
  /-- A delivery, waiting for the delivery lock. -/
  | deliverLock (m : Message) (guard : Option Nat)
  /-- Holding the delivery lock, about to ask the guard. -/
  | deliverKeep (m : Message) (guard : Option Nat)
  /-- About to read the state. -/
  | deliverState (m : Message) (guard : Option Nat)
  /-- About to take the registered callbacks. -/
  | deliverTake (m : Message) (guard : Option Nat)
  /-- Handing the message to the callbacks `ids`, in order. -/
  | deliverCall (m : Message) (guard : Option Nat) (ids : List Nat)
  /-- Returned, with whether it passed the message on. -/
  | delivered (m : Message) (guard : Option Nat) (passed : Bool)
  /-- A wait for deliveries, waiting for the delivery lock. -/
  | syncLock
  /-- Holding the delivery lock, about to drop it and return. -/
  | syncUnlock
  /-- A state change, about to set the state. -/
  | enter (s : LifeState)
  /-- Waiting for the delivery lock to dispatch the queued states. -/
  | flushLock
  /-- Holding it, about to take the queue. -/
  | flushTake
  /-- About to dispatch the first of `batch`, or to drop the lock when none is left. -/
  | flushNext (batch : List LifeState)
  /-- Handing the notice of `s` to the callbacks `ids`, with `batch` still to go. -/
  | flushCall (s : LifeState) (ids : List Nat) (batch : List LifeState)
  /-- Returned. -/
  | done

/-- A channel's delivery. -/
structure Fanout where
  state : LifeState := .closed
  pending : List LifeState := []
  callbacks : List Nat := []
  nextId : Nat := 0
  holder : Option Nat := none
  kept : Nat → Bool
  threads : List Caller := []
  log : List Handoff := []

/-- What happens next: a delivery, a wait for deliveries or a state change starts on a thread of
its own; thread `i` takes a step; a callback is registered or removed; a guard stops keeping. -/
inductive FanoutEvent where
  | deliverIf (m : Message) (guard : Option Nat)
  | sync
  | setState (s : LifeState)
  | step (i : Nat)
  | addCallback
  | removeCallback (id : Nat)
  | silence (g : Nat)

namespace Fanout

/-- Whether a delivery under `guard` is kept: one with no guard always is. -/
def keeps (m : Fanout) : Option Nat → Bool
  | none => true
  | some g => m.kept g

/-- The callbacks a dispatch takes: the registered ones, by increasing number. -/
def registered (m : Fanout) : List Nat := m.callbacks.mergeSort fun a b => decide (a ≤ b)

/-- Sets the state and queues it for dispatch, unless it is the state already. -/
def enter (m : Fanout) (s : LifeState) : Fanout :=
  if m.state = s then m else { m with state := s, pending := m.pending ++ [s] }

section enter
variable (m : Fanout) (s : LifeState)

@[simp] theorem enter_holder : (m.enter s).holder = m.holder := by unfold enter; split <;> rfl
@[simp] theorem enter_threads : (m.enter s).threads = m.threads := by unfold enter; split <;> rfl
@[simp] theorem enter_log : (m.enter s).log = m.log := by unfold enter; split <;> rfl
@[simp] theorem enter_kept : (m.enter s).kept = m.kept := by unfold enter; split <;> rfl
@[simp] theorem enter_callbacks : (m.enter s).callbacks = m.callbacks := by
  unfold enter; split <;> rfl
@[simp] theorem enter_nextId : (m.enter s).nextId = m.nextId := by unfold enter; split <;> rfl

end enter

/-- One step of thread `i` at `c`: the record after it and where the thread goes; `none` while
the thread waits for the delivery lock, and once it has returned. -/
def exec (m : Fanout) (i : Nat) : Caller → Option (Fanout × Caller)
  | .deliverLock msg g =>
    if m.holder = none then some ({ m with holder := some i }, .deliverKeep msg g) else none
  | .deliverKeep msg g =>
    if m.keeps g then some (m, .deliverState msg g)
    else some ({ m with holder := none }, .delivered msg g false)
  | .deliverState msg g =>
    if m.state = .closed then some ({ m with holder := none }, .delivered msg g false)
    else some (m, .deliverTake msg g)
  | .deliverTake msg g =>
    some ({ m with log := m.log ++ [.begin i (.delivered msg) m.registered] },
      .deliverCall msg g m.registered)
  | .deliverCall msg g (id :: ids) =>
    some ({ m with log := m.log ++ [.call i id (.delivered msg) g] }, .deliverCall msg g ids)
  | .deliverCall msg g [] => some ({ m with holder := none }, .delivered msg g true)
  | .delivered _ _ _ => none
  | .syncLock => if m.holder = none then some ({ m with holder := some i }, .syncUnlock) else none
  | .syncUnlock => some ({ m with holder := none }, .done)
  | .enter s => some (m.enter s, .flushLock)
  | .flushLock => if m.holder = none then some ({ m with holder := some i }, .flushTake) else none
  | .flushTake => some ({ m with pending := [] }, .flushNext m.pending)
  | .flushNext [] => some ({ m with holder := none }, .done)
  | .flushNext (s :: batch) =>
    some ({ m with log := m.log ++ [.begin i (.notice s) m.registered] },
      .flushCall s m.registered batch)
  | .flushCall s (id :: ids) batch =>
    some ({ m with log := m.log ++ [.call i id (.notice s) none] }, .flushCall s ids batch)
  | .flushCall _ [] batch => some (m, .flushNext batch)
  | .done => none

/-- Takes one event. A waiting or returned thread's step changes nothing. -/
def step (m : Fanout) : FanoutEvent → Fanout
  | .deliverIf msg g => { m with threads := m.threads ++ [.deliverLock msg g] }
  | .sync => { m with threads := m.threads ++ [.syncLock] }
  | .setState s => { m with threads := m.threads ++ [.enter s] }
  | .step i =>
    match m.threads[i]? with
    | some c =>
      match m.exec i c with
      | some (m', c') => { m' with threads := m'.threads.set i c' }
      | none => m
    | none => m
  | .addCallback => { m with callbacks := m.callbacks ++ [m.nextId], nextId := m.nextId + 1 }
  | .removeCallback id => { m with callbacks := m.callbacks.erase id }
  | .silence g => { m with kept := fun h => if h = g then false else m.kept h }

/-- Takes the events in order. -/
def run (m : Fanout) (es : List FanoutEvent) : Fanout := es.foldl step m

@[simp] theorem run_nil (m : Fanout) : m.run [] = m := rfl

@[simp] theorem run_cons (m : Fanout) (e : FanoutEvent) (es : List FanoutEvent) :
    m.run (e :: es) = (m.step e).run es := rfl

end Fanout

end ChannelMux.Lifecycle
