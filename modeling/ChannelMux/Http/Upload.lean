import ChannelMux.Http.Request

/-! The body of a control-transfer request, from the posts that feed it to the reads of the
transport. -/

namespace ChannelMux.Http

/-- How a body queue ends: the body is complete, the address was cancelled or the channel
closed, or the transport closed the body. -/
inductive QueueEnd where
  | eof
  | canceled
  | closedPipe
  deriving DecidableEq, Repr

/-- A streamed request body between poster and transport: the chunks not read yet, and how the
queue ended, once it has. -/
structure BodyQueue where
  chunks : List (List UInt8) := []
  ending : Option QueueEnd := none
  deriving DecidableEq, Repr

namespace BodyQueue

/-- Appends a chunk; an empty chunk, and any chunk after the end, is dropped. -/
def push (q : BodyQueue) (data : List UInt8) : BodyQueue :=
  if data.isEmpty || q.ending.isSome then q else { q with chunks := q.chunks ++ [data] }

/-- Ends the queue; only the first end counts. -/
def finish (q : BodyQueue) (e : QueueEnd) : BodyQueue :=
  if q.ending.isSome then q else { q with ending := some e }

/-- One read of at most `n` bytes: the part of the first chunk that fits, the rest of that chunk
staying first; once no chunk is left, how the queue ended. -/
def read (q : BodyQueue) (n : Nat) : Option (Except QueueEnd (List UInt8) × BodyQueue) :=
  match q.chunks with
  | c :: rest =>
    some (.ok (c.take n), { q with chunks := if c.length ≤ n then rest else c.drop n :: rest })
  | [] => q.ending.map fun e => (.error e, q)

/-- The transport is done with the body. -/
def close (q : BodyQueue) : BodyQueue := q.finish .closedPipe

variable {q : BodyQueue}

@[simp] theorem push_ending (data : List UInt8) : (q.push data).ending = q.ending := by
  unfold push
  split <;> rfl

@[simp] theorem finish_chunks (e : QueueEnd) : (q.finish e).chunks = q.chunks := by
  unfold finish
  split <;> rfl

@[simp] theorem finish_ending (e : QueueEnd) : (q.finish e).ending = some (q.ending.getD e) := by
  unfold finish
  cases h : q.ending <;> simp [h]

theorem push_of_ended (ended : q.ending.isSome) (data : List UInt8) : q.push data = q := by
  simp [push, ended]

theorem finish_of_ended (ended : q.ending.isSome) (e : QueueEnd) : q.finish e = q := by
  simp [finish, ended]

theorem push_chunks_flatten (opened : q.ending = none) (data : List UInt8) :
    (q.push data).chunks.flatten = q.chunks.flatten ++ data := by
  by_cases empty : data = []
  · simp [push, empty]
  · simp [push, empty, opened]

theorem read_ok {n : Nat} {bytes : List UInt8} {q' : BodyQueue}
    (h : q.read n = some (.ok bytes, q')) :
    q.chunks ≠ [] ∧ q'.ending = q.ending ∧ bytes ++ q'.chunks.flatten = q.chunks.flatten := by
  unfold read at h
  split at h
  · next c rest held =>
    simp only [Option.some.injEq, Prod.mk.injEq, Except.ok.injEq] at h
    obtain ⟨rfl, rfl⟩ := h
    refine ⟨by simp [held], rfl, ?_⟩
    -- a chunk that fits is read whole; a longer one is split where the read stops
    by_cases fits : c.length ≤ n
    · simp [held, fits, List.take_of_length_le fits]
    · simp [held, fits, ← List.append_assoc, List.take_append_drop]
  · cases h' : q.ending <;> simp [h'] at h

theorem read_error {n : Nat} {e : QueueEnd} {q' : BodyQueue}
    (h : q.read n = some (.error e, q')) : q.chunks = [] ∧ q.ending = some e ∧ q' = q := by
  unfold read at h
  split at h
  · simp at h
  · next held =>
    cases h' : q.ending with
    | none => simp [h'] at h
    | some e' =>
      simp only [h', Option.map_some, Option.some.injEq, Prod.mk.injEq, Except.error.injEq] at h
      obtain ⟨rfl, rfl⟩ := h
      exact ⟨held, rfl, rfl⟩

end BodyQueue

/-- A control-transfer exchange's body in flight. -/
structure Upload where
  line : Option RequestLine
  serial : Nat
  addr : Int
  queue : BodyQueue
  accepted : List (List UInt8) := []
  received : List UInt8 := []
  ended : Option QueueEnd := none

/-- What happens next. -/
inductive UploadEvent where
  | post (data : List UInt8)
  | cancel
  | close
  | retire
  | read (n : Nat)
  | release

namespace Upload

/-- Starts the exchange a Connect post announces on an address: its queue is open for a body fed
by posts, and for no body it has ended already, which the transport reads as an empty body. -/
def announce (l : RequestLine) (serial : Nat) (addr : Int) (cn : Connect) :
    Except Failure Upload := do
  let r ← l.options.announce cn
  let l' ← l.start serial addr r
  return { line := some l', serial, addr, queue := if r.fed then {} else { ending := some .eof } }

/-- The exchange's entry in the address table, while it is there. -/
def current? (u : Upload) : Option (RequestLine × Exchange) :=
  match u.line with
  | some l =>
    match l.find? u.addr with
    | some x => if x.serial = u.serial then some (l, x) else none
    | none => none
  | none => none

/-- A Data post while the exchange is the entry `x` of table `l`: the table's feed decides, and a
post it takes goes into the queue, which ends once the table expects no more of the body. -/
def feed (u : Upload) (l : RequestLine) (x : Exchange) (data : List UInt8) :
    Except Failure Upload :=
  match l.feed x data.length with
  | .ok l' =>
    let q := u.queue.push data
    let ends := ((l'.find? u.addr).bind (·.feed)).isNone
    .ok { u with line := some l', queue := if ends then q.finish .eof else q,
                 accepted := u.accepted ++ [data] }
  | .error e => .error e

/-- The queue once the exchange's entry is taken away by a cancel or a close: a body still being
fed is cancelled. -/
def withdrawn (u : Upload) : BodyQueue :=
  match u.current? with
  | some (_, x) => if x.feed.isSome then u.queue.finish .canceled else u.queue
  | none => u.queue

/-- Takes one event. A refused post changes nothing. -/
def step (u : Upload) : UploadEvent → Upload
  | .post data =>
    match u.current? with
    | some (l, x) =>
      match u.feed l x data with
      | .ok u' => u'
      | .error _ => u
    | none => u
  | .cancel =>
    match u.line with
    | some l => { u with line := some (l.cancel u.addr), queue := u.withdrawn }
    | none => u
  | .close => { u with line := none, queue := u.withdrawn }
  | .retire => { u with line := u.line.map fun l => (l.retire u.serial).1 }
  | .read n =>
    match u.queue.read n with
    | some (.ok bytes, q) => { u with queue := q, received := u.received ++ bytes }
    | some (.error e, q) => { u with queue := q, ended := some e }
    | none => u
  | .release => { u with queue := u.queue.close }

/-- Takes the events in order. -/
def run (u : Upload) (es : List UploadEvent) : Upload := es.foldl step u

@[simp] theorem run_nil (u : Upload) : u.run [] = u := rfl

@[simp] theorem run_cons (u : Upload) (e : UploadEvent) (es : List UploadEvent) :
    u.run (e :: es) = (u.step e).run es := rfl

end Upload

end ChannelMux.Http
