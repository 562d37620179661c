import ChannelMux.Http.Upload

/-! A streamed body between the threads that feed it and the one thread that reads it. -/

namespace ChannelMux.Http

/-- A call that feeds the body: a push of a chunk, or a finish with how the body ends. -/
inductive FeedCall where
  | push (data : List UInt8)
  | finish (e : QueueEnd)
  deriving DecidableEq, Repr

/-- Closing the body: it ends as closed by the reading side. -/
def FeedCall.close : FeedCall := .finish .closedPipe

/-- Where a feeding thread is: about to run its call, about to signal after its locked step, or
returned. -/
inductive Feeder where
  | start (c : FeedCall)
  | signal (c : FeedCall)
  | done
  deriving DecidableEq, Repr

/-- Where a feeding thread goes after its step: an empty push returns at once, any other call
signals after its step under the lock, and returns after signalling. -/
def Feeder.next : Feeder → Feeder
  | .start (.push data) => if data.isEmpty then .done else .signal (.push data)
  | .start (.finish e) => .signal (.finish e)
  | .signal _ => .done
  | .done => .done

/-- Where the reader is: between reads, about to check the queue in a read of at most `n` bytes,
or waiting for a token in one. -/
inductive ReaderAt where
  | idle
  | check (n : Nat)
  | wait (n : Nat)
  deriving DecidableEq, Repr

/-- What happens next: the reader starts a read with room for `n` bytes, or takes its next step;
a thread starts a call, or feeding thread `i` takes its next step. -/
inductive FeedEvent where
  | read (n : Nat)
  | reader
  | call (c : FeedCall)
  | feeder (i : Nat)
  deriving DecidableEq, Repr

/-- A body queue with its signal slot, its reader and the threads feeding it. -/
structure Feed where
  queue : BodyQueue := {}
  token : Bool := false
  reader : ReaderAt := .idle
  feeders : List Feeder := []
  /-- The calls that have returned, in order. -/
  returned : List FeedCall := []
  /-- The queue as the reader's last check saw it. -/
  seen : BodyQueue := {}
  /-- How many calls had returned at the reader's last check. -/
  checkedAt : Nat := 0
  /-- The chunks the queue took, in order. -/
  accepted : List (List UInt8) := []
  /-- The ends finishes asked for, in the order they took the lock. -/
  ends : List QueueEnd := []
  /-- What the reads returned, in order. -/
  results : List (Except QueueEnd (List UInt8)) := []

namespace Feed

/-- A call's step under the lock. -/
def locked (f : Feed) : FeedCall → Feed
  | .push data =>
    { f with queue := f.queue.push data,
             accepted := if f.queue.ending.isNone then f.accepted ++ [data] else f.accepted }
  | .finish e => { f with queue := f.queue.finish e, ends := f.ends ++ [e] }

/-- A call returns. -/
def returning (f : Feed) (c : FeedCall) : Feed := { f with returned := f.returned ++ [c] }

/-- What a feeding thread's step does to the queue, the slot and the observations. -/
def act (f : Feed) : Feeder → Feed
  | .start (.push data) => if data.isEmpty then f.returning (.push data) else f.locked (.push data)
  | .start (.finish e) => f.locked (.finish e)
  | .signal c => { f.returning c with token := true }
  | .done => f

/-- The next step of feeding thread `i`. -/
def feederStep (f : Feed) (i : Nat) : Feed :=
  match f.feeders[i]? with
  | some t => { f.act t with feeders := f.feeders.set i t.next }
  | none => f

/-- The reader's next step: a check under the lock, or taking a token it waits for; a reader
with no token to take stays waiting. -/
def readerStep (f : Feed) : Feed :=
  match f.reader with
  | .idle => f
  | .check n =>
    match f.queue.read n with
    | some (r, q) => { f with queue := q, reader := .idle, results := f.results ++ [r] }
    | none => { f with reader := .wait n, seen := f.queue, checkedAt := f.returned.length }
  | .wait n => if f.token then { f with token := false, reader := .check n } else f

/-- Takes one event. A read starts only between reads. -/
def step (f : Feed) : FeedEvent → Feed
  | .read n =>
    match f.reader with
    | .idle => { f with reader := .check n }
    | _ => f
  | .reader => f.readerStep
  | .call c => { f with feeders := f.feeders ++ [.start c] }
  | .feeder i => f.feederStep i

/-- Takes the events in order. -/
def run (f : Feed) (es : List FeedEvent) : Feed := es.foldl step f

@[simp] theorem run_nil (f : Feed) : f.run [] = f := rfl

@[simp] theorem run_cons (f : Feed) (e : FeedEvent) (es : List FeedEvent) :
    f.run (e :: es) = (f.step e).run es := rfl

/-- The bytes the reads returned, in order. -/
def readBytes (f : Feed) : List UInt8 := (f.results.filterMap Except.toOption).flatten

end Feed

end ChannelMux.Http
