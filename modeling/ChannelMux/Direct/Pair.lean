/-! Direct pairs under concurrent callers. -/

namespace ChannelMux.Direct

variable {α : Type}

/-- A queue made by one open, with its pump. -/
structure Queue (α : Type) where
  owner : Nat
  capacity : Nat
  waiting : List α := []
  accepted : List α := []
  dispatched : List α := []
  stopped : Bool := false
  pumping : Bool := true

/-- One end: the first end it was created with, if any, its peer, and its queue while open. -/
structure End where
  master : Option Nat := none
  peer : Option Nat := none
  queue : Option Nat := none

/-- The ends of a pair, and every queue they made. -/
structure Pair (α : Type) where
  ends : List End := []
  queues : List (Queue α) := []

/-- What a post answers. -/
inductive Answer where
  | accepted
  | full
  | invalid
  deriving DecidableEq, Repr

/-- One atomic step of a call. -/
inductive Op (α : Type) where
  /-- A post's first section, under the posting end's lock: reads its peer. -/
  | post (e : Nat) (m : α)
  /-- A post's second section, under the peer's lock: puts the message in the peer's queue. -/
  | enqueue (p : Nat) (m : α)
  /-- A close's first section, under the end's lock: takes its queue away. -/
  | detach (e : Nat)
  /-- Closes the done channel of a queue. -/
  | stop (k : Nat)
  /-- Waits for the pump of a queue to return. -/
  | await (k : Nat)
  /-- A release's first section, under the end's lock: reads its peer. -/
  | release (e : Nat)
  /-- A release's second section, under the first end's lock: detaches the end if it is still
  that end's peer. -/
  | detachPeer (first e : Nat)

/-- What one step of a call does: the pair after it, the steps that replace it, and what a post
answers. -/
structure Effect (α : Type) where
  pair : Pair α
  next : List (Op α) := []
  answer : Option Answer := none

namespace Pair

/-- The peer of an end. -/
def peerOf (p : Pair α) (e : Nat) : Option Nat := p.ends[e]?.bind (·.peer)

/-- The index of an end's queue while it is open. -/
def queueOf (p : Pair α) (e : Nat) : Option Nat := p.ends[e]?.bind (·.queue)

/-- Puts a message in the queue of end `f`, unless it has none or it is full. -/
def enqueue (p : Pair α) (f : Nat) (m : α) : Pair α × Answer :=
  match p.queueOf f with
  | none => (p, .invalid)
  | some k =>
    match p.queues[k]? with
    | none => (p, .invalid)
    | some q =>
      if q.capacity ≤ q.waiting.length then (p, .full)
      else
        let q' := { q with waiting := q.waiting ++ [m], accepted := q.accepted ++ [m] }
        ({ p with queues := p.queues.set k q' }, .accepted)

/-- Creates an end: a first end, or a second end that attaches to its master, which fails when
the master has a peer already. -/
def create (p : Pair α) : Option Nat → Pair α
  | none => { p with ends := p.ends ++ [{}] }
  | some f =>
    match p.ends[f]? with
    | some fe =>
      if fe.peer.isNone then
        { p with ends := p.ends.set f { fe with peer := some p.ends.length } ++
            [{ master := some f, peer := some f }] }
      else p
    | none => p

/-- Opens an end with a queue of `size` messages; a size of 0 is refused. -/
def openEnd (p : Pair α) (e size : Nat) : Pair α :=
  match p.ends[e]? with
  | some en =>
    if 0 < size ∧ en.queue = none ∧ p.queues.all (fun q => q.owner != e || !q.pumping) then
      { ends := p.ends.set e { en with queue := some p.queues.length },
        queues := p.queues ++ [{ owner := e, capacity := size }] }
    else p
  | none => p

/-- The pump of queue `k` takes the next waiting message and dispatches it. -/
def take (p : Pair α) (k : Nat) : Pair α :=
  match p.queues[k]? with
  | some q =>
    match q.pumping, q.waiting with
    | true, m :: rest =>
      let q' := { q with waiting := rest, dispatched := q.dispatched ++ [m] }
      { p with queues := p.queues.set k q' }
    | _, _ => p
  | none => p

/-- The pump of queue `k` returns, its done channel being closed. -/
def exit (p : Pair α) (k : Nat) : Pair α :=
  match p.queues[k]? with
  | some q =>
    if q.pumping && q.stopped then { p with queues := p.queues.set k { q with pumping := false } }
    else p
  | none => p

end Pair

/-- Runs one step of a call; `none` while it waits for a pump. -/
def Op.exec (p : Pair α) : Op α → Option (Effect α)
  | .post e m =>
    match p.peerOf e with
    | none => some { pair := p, answer := some .invalid }
    | some f => some { pair := p, next := [.enqueue f m] }
  | .enqueue f m =>
    let (p, a) := p.enqueue f m
    some { pair := p, answer := some a }
  | .detach e =>
    match p.ends[e]? with
    | some en =>
      some { pair := { p with ends := p.ends.set e { en with queue := none } },
             next := match en.queue with
               | some k => [.stop k, .await k]
               | none => [] }
    | none => some { pair := p }
  | .stop k =>
    some { pair := { p with queues := p.queues.modify k fun q => { q with stopped := true } } }
  | .await k => if (p.queues[k]?.map (·.pumping)).getD false then none else some { pair := p }
  | .release e =>
    match p.ends[e]? with
    | some { master := some _, peer := some f, .. } => some { pair := p, next := [.detachPeer f e] }
    | _ => some { pair := p }
  | .detachPeer f e =>
    match p.ends[f]? with
    | some fe =>
      if fe.peer = some e then
        some { pair := { p with ends := p.ends.set f { fe with peer := none } } }
      else some { pair := p }
    | none => some { pair := p }

/-- A caller's thread: the steps of its call still to run, and what its posts answered. -/
structure Thread (α : Type) where
  ops : List (Op α)
  answers : List Answer := []

/-- Runs the next step of a thread; `none` while it waits or once its call returned. -/
def Thread.exec (t : Thread α) (p : Pair α) : Option (Pair α × Thread α) :=
  match t.ops with
  | [] => none
  | op :: rest =>
    (op.exec p).map fun e =>
      (e.pair, { ops := e.next ++ rest, answers := t.answers ++ e.answer.toList })

/-- A call on a pair, made on a thread of its own: posts one after another on an end, a close, or
the release of an end. -/
inductive Call (α : Type) where
  | post (e : Nat) (ms : List α)
  | close (e : Nat)
  | release (e : Nat)

def Call.ops : Call α → List (Op α)
  | .post e ms => ms.map (Op.post e)
  | .close e => [.detach e]
  | .release e => [.detach e, .release e]

/-- What happens next: an end is created or opened, a call starts, a caller's thread takes a
step, or the pump of a queue takes a message or returns. -/
inductive Event (α : Type) where
  | create (master : Option Nat)
  | openEnd (e size : Nat)
  | call (c : Call α)
  | step (i : Nat)
  | take (k : Nat)
  | exit (k : Nat)

/-- A pair and its callers' threads, numbered in the order the calls started. -/
structure Machine (α : Type) where
  pair : Pair α := {}
  threads : List (Thread α) := []

namespace Machine

def step (m : Machine α) : Event α → Machine α
  | .create f => { m with pair := m.pair.create f }
  | .openEnd e size => { m with pair := m.pair.openEnd e size }
  | .call c => { m with threads := m.threads ++ [{ ops := c.ops }] }
  | .step i =>
    match m.threads[i]? with
    | some t =>
      match t.exec m.pair with
      | some (p, t') => { pair := p, threads := m.threads.set i t' }
      | none => m
    | none => m
  | .take k => { m with pair := m.pair.take k }
  | .exit k => { m with pair := m.pair.exit k }

def run (m : Machine α) (es : List (Event α)) : Machine α := es.foldl step m

@[simp] theorem run_nil (m : Machine α) : m.run [] = m := rfl

@[simp] theorem run_cons (m : Machine α) (e : Event α) (es : List (Event α)) :
    m.run (e :: es) = (m.step e).run es := rfl

end Machine

end ChannelMux.Direct
