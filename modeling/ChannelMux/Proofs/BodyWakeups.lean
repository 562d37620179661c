import ChannelMux.Http.BodyFeed

/-! No wake-up of a streamed body's reader is lost, and its reads return every byte taken once, in
order, before the end. -/

namespace ChannelMux.Http

namespace BodyQueue

theorem read_eq_none {q : BodyQueue} {n : Nat} (h : q.read n = none) :
    q.chunks = [] ∧ q.ending = none := by
  unfold read at h
  split at h
  · cases h
  · next held =>
    cases ending : q.ending with
    | none => exact ⟨held, rfl⟩
    | some e => simp [ending] at h

end BodyQueue

namespace Feed

variable {f : Feed}

/-! ### What each step changes -/

@[simp] theorem feederStep_of_none {i : Nat} (h : f.feeders[i]? = none) : f.feederStep i = f := by
  simp [feederStep, h]

theorem feederStep_of_some {i : Nat} {t : Feeder} (h : f.feeders[i]? = some t) :
    f.feederStep i = { f.act t with feeders := f.feeders.set i t.next } := by
  simp [feederStep, h]

theorem act_push {data : List UInt8} :
    f.act (.start (.push data)) =
      if data = [] then f.returning (.push []) else f.locked (.push data) := by
  by_cases empty : data = []
  · subst empty
    rfl
  · simp [act, empty]

/-! ### A waiting reader is woken -/

/-- What a reader waiting for a token can count on: its last check found the queue empty and
open, and since then either a token has been put in the slot or only empty pushes returned. -/
structure Waiting (f : Feed) : Prop where
  counted : f.checkedAt ≤ f.returned.length
  waits : ∀ n, f.reader = .wait n →
    f.seen.chunks = [] ∧ f.seen.ending = none ∧
      (f.token = true ∨ ∀ c ∈ f.returned.drop f.checkedAt, c = .push [])

theorem waiting_init : Waiting ({} : Feed) := ⟨Nat.le_refl _, fun _ waiting => nomatch waiting⟩

theorem Waiting.frame (w : Waiting f) {g : Feed} (reader : g.reader = f.reader)
    (seen : g.seen = f.seen) (checkedAt : g.checkedAt = f.checkedAt)
    (returned : g.returned = f.returned) (token : g.token = f.token) : Waiting g := by
  refine ⟨by rw [checkedAt, returned]; exact w.counted, fun n waiting => ?_⟩
  rw [seen, token, returned, checkedAt]
  exact w.waits n (reader ▸ waiting)

theorem Waiting.of_not_waiting {g : Feed} (counted : g.checkedAt ≤ g.returned.length)
    (busy : ∀ n, g.reader ≠ .wait n) : Waiting g :=
  ⟨counted, fun n waiting => absurd waiting (busy n)⟩

theorem Waiting.locked (w : Waiting f) (c : FeedCall) : Waiting (f.locked c) := by
  cases c <;> exact w.frame rfl rfl rfl rfl rfl

theorem Waiting.returning_empty (w : Waiting f) : Waiting (f.returning (.push [])) := by
  have counted := w.counted
  refine ⟨by simp only [returning, List.length_append, List.length_singleton]; omega,
    fun n waiting => ?_⟩
  obtain ⟨empty, open_, since⟩ := w.waits n waiting
  refine ⟨empty, open_, since.imp id fun quiet c mem => ?_⟩
  simp only [returning, List.drop_append_of_le_length w.counted, List.mem_append,
    List.mem_singleton] at mem
  rcases mem with old | rfl
  · exact quiet c old
  · rfl

theorem Waiting.signalled (w : Waiting f) (c : FeedCall) :
    Waiting { f.returning c with token := true } := by
  have counted := w.counted
  refine ⟨by simp only [returning, List.length_append, List.length_singleton]; omega,
    fun n waiting => ?_⟩
  obtain ⟨empty, open_, -⟩ := w.waits n waiting
  exact ⟨empty, open_, .inl rfl⟩

theorem Waiting.act (w : Waiting f) (t : Feeder) : Waiting (f.act t) := by
  cases t with
  | start c =>
    cases c with
    | push data =>
      rw [act_push]
      split
      · exact w.returning_empty
      · exact w.locked _
    | finish e => exact w.locked (.finish e)
  | signal c => exact w.signalled c
  | done => exact w

theorem Waiting.readerStep (w : Waiting f) : Waiting f.readerStep := by
  unfold Feed.readerStep
  split
  · exact w
  · next n reading =>
    split
    · exact Waiting.of_not_waiting w.counted fun _ => ReaderAt.noConfusion
    · next nothing =>
      -- the check that finds the queue empty and open is the one the reader now waits after
      obtain ⟨empty, open_⟩ := BodyQueue.read_eq_none nothing
      refine ⟨Nat.le_refl _, fun _ _ => ⟨empty, open_, .inr ?_⟩⟩
      simp
  · next n waiting =>
    split
    · exact Waiting.of_not_waiting w.counted fun _ => ReaderAt.noConfusion
    · exact w

theorem Waiting.step (w : Waiting f) (e : FeedEvent) : Waiting (f.step e) := by
  cases e with
  | read n =>
    rw [Feed.step]
    split
    · exact Waiting.of_not_waiting w.counted fun _ => ReaderAt.noConfusion
    · exact w
  | reader => exact w.readerStep
  | call c => exact w.frame rfl rfl rfl rfl rfl
  | feeder i =>
    cases found : f.feeders[i]? with
    | none => rw [Feed.step, feederStep_of_none found]; exact w
    | some t =>
      rw [Feed.step, feederStep_of_some found]
      exact (w.act t).frame rfl rfl rfl rfl rfl

theorem Waiting.run (w : Waiting f) (es : List FeedEvent) : Waiting (f.run es) := by
  induction es generalizing f with
  | nil => exact w
  | cons e es ih => exact ih (w.step e)

theorem readerStep_of_token {n : Nat} (waiting : f.reader = .wait n) (token : f.token = true) :
    f.readerStep.reader = .check n := by
  simp [Feed.readerStep, waiting, token]

/-! ### Reads return the bytes taken, once and in order, before the end -/

/-- Read results: bytes first, then ends. -/
def BytesThenEnds (rs : List (Except QueueEnd (List UInt8))) : Prop :=
  ∃ (oks : List (List UInt8)) (errs : List QueueEnd), rs = oks.map .ok ++ errs.map .error

theorem filterMap_toOption_bytesThenEnds (oks : List (List UInt8)) (errs : List QueueEnd) :
    (oks.map Except.ok ++ errs.map Except.error).filterMap Except.toOption = oks := by
  induction oks with
  | nil => simp [Except.toOption]
  | cons bytes oks ih => simpa [Except.toOption] using ih

/-- What the reads returned, against what the queue took. -/
structure Delivered (f : Feed) : Prop where
  /-- The bytes read and the bytes queued are the chunks taken, in order. -/
  bytes : f.readBytes ++ f.queue.chunks.flatten = f.accepted.flatten
  /-- The queue ends as the first finish asked. -/
  first : f.queue.ending = f.ends.head?
  /-- An end read has nothing queued before it, and is the queue's end. -/
  ended : ∀ e, .error e ∈ f.results → f.queue.chunks = [] ∧ f.queue.ending = some e
  order : BytesThenEnds f.results

theorem delivered_init : Delivered ({} : Feed) where
  bytes := rfl
  first := rfl
  ended _ none := nomatch none
  order := ⟨[], [], rfl⟩

theorem Delivered.frame (d : Delivered f) {g : Feed} (queue : g.queue = f.queue)
    (accepted : g.accepted = f.accepted) (ends : g.ends = f.ends)
    (results : g.results = f.results) : Delivered g := by
  have bytes : g.readBytes = f.readBytes := by rw [readBytes, readBytes, results]
  refine ⟨?_, ?_, ?_, ?_⟩
  · rw [bytes, queue, accepted]; exact d.bytes
  · rw [queue, ends]; exact d.first
  · rw [queue, results]; exact d.ended
  · rw [results]; exact d.order

theorem readBytes_of_results {g : Feed} {r : Except QueueEnd (List UInt8)}
    (results : g.results = f.results ++ [r]) : g.readBytes = f.readBytes ++ r.toOption.getD [] := by
  cases r <;> simp [readBytes, results, Except.toOption]

theorem Delivered.locked (d : Delivered f) (c : FeedCall) : Delivered (f.locked c) := by
  cases c with
  | push data =>
    cases ending : f.queue.ending with
    | none =>
      refine ⟨?_, ?_, ?_, d.order⟩
      · show f.readBytes ++ (f.queue.push data).chunks.flatten =
          (if f.queue.ending.isNone then f.accepted ++ [data] else f.accepted).flatten
        rw [BodyQueue.push_chunks_flatten ending, ← List.append_assoc, d.bytes, ending]
        simp
      · simp only [Feed.locked, BodyQueue.push_ending]
        exact d.first
      · intro e read
        have settled := (d.ended e read).2
        rw [ending] at settled
        cases settled
    | some e =>
      -- an ended queue takes nothing more
      have same : f.queue.push data = f.queue := BodyQueue.push_of_ended (by simp [ending]) data
      have unchanged : f.locked (.push data) = f := by
        simp only [Feed.locked, same, ending, Option.isNone_some]
        rfl
      rw [unchanged]
      exact d
  | finish e =>
    refine ⟨?_, ?_, ?_, d.order⟩
    · simp only [Feed.locked, BodyQueue.finish_chunks]
      exact d.bytes
    · simp only [Feed.locked, BodyQueue.finish_ending, d.first, List.head?_append]
      cases f.ends.head? <;> rfl
    · intro e' read
      obtain ⟨empty, settled⟩ := d.ended e' read
      simp only [Feed.locked, BodyQueue.finish_chunks, BodyQueue.finish_ending, settled]
      exact ⟨empty, rfl⟩

theorem Delivered.act (d : Delivered f) (t : Feeder) : Delivered (f.act t) := by
  cases t with
  | start c =>
    cases c with
    | push data =>
      rw [act_push]
      split
      · exact d.frame rfl rfl rfl rfl
      · exact d.locked _
    | finish e => exact d.locked (.finish e)
  | signal c => exact d.frame rfl rfl rfl rfl
  | done => exact d

theorem Delivered.readOk (d : Delivered f) {n : Nat} {bytes : List UInt8} {q : BodyQueue}
    (h : f.queue.read n = some (.ok bytes, q)) {g : Feed} (queue : g.queue = q)
    (accepted : g.accepted = f.accepted) (ends : g.ends = f.ends)
    (results : g.results = f.results ++ [.ok bytes]) : Delivered g := by
  obtain ⟨held, sameEnd, split⟩ := BodyQueue.read_ok h
  have noEnd : ∀ e, .error e ∉ f.results := fun e read => held (d.ended e read).1
  refine ⟨?_, ?_, ?_, ?_⟩
  · rw [readBytes_of_results results, queue, accepted, ← d.bytes, ← split]
    simp [Except.toOption]
  · rw [queue, ends]
    exact sameEnd.trans d.first
  · intro e read
    rw [results] at read
    simp only [List.mem_append, List.mem_singleton, reduceCtorEq, or_false] at read
    exact absurd read (noEnd e)
  · obtain ⟨oks, errs, rs⟩ := d.order
    have none : errs = [] := by
      cases errs with
      | nil => rfl
      | cons e errs => exact absurd (by simp [rs]) (noEnd e)
    exact ⟨oks ++ [bytes], [], by simp [results, rs, none]⟩

theorem Delivered.readError (d : Delivered f) {n : Nat} {e : QueueEnd} {q : BodyQueue}
    (h : f.queue.read n = some (.error e, q)) {g : Feed} (queue : g.queue = q)
    (accepted : g.accepted = f.accepted) (ends : g.ends = f.ends)
    (results : g.results = f.results ++ [.error e]) : Delivered g := by
  obtain ⟨empty, settled, rfl⟩ := BodyQueue.read_error h
  refine ⟨?_, by rw [queue, ends]; exact d.first, ?_, ?_⟩
  · rw [readBytes_of_results results, queue, accepted]
    simpa [Except.toOption] using d.bytes
  · intro e' read
    rw [results] at read
    simp only [List.mem_append, List.mem_singleton, Except.error.injEq] at read
    rw [queue]
    rcases read with old | rfl
    · exact d.ended e' old
    · exact ⟨empty, settled⟩
  · obtain ⟨oks, errs, rs⟩ := d.order
    exact ⟨oks, errs ++ [e], by simp [results, rs]⟩

theorem Delivered.readerStep (d : Delivered f) : Delivered f.readerStep := by
  unfold Feed.readerStep
  split
  · exact d
  · split
    · next r q reading =>
      cases r with
      | ok bytes => exact d.readOk reading rfl rfl rfl rfl
      | error e => exact d.readError reading rfl rfl rfl rfl
    · exact d.frame rfl rfl rfl rfl
  · split
    · exact d.frame rfl rfl rfl rfl
    · exact d

theorem Delivered.step (d : Delivered f) (e : FeedEvent) : Delivered (f.step e) := by
  cases e with
  | read n =>
    rw [Feed.step]
    split
    · exact d.frame rfl rfl rfl rfl
    · exact d
  | reader => exact d.readerStep
  | call c => exact d.frame rfl rfl rfl rfl
  | feeder i =>
    cases found : f.feeders[i]? with
    | none => rw [Feed.step, feederStep_of_none found]; exact d
    | some t =>
      rw [Feed.step, feederStep_of_some found]
      exact (d.act t).frame rfl rfl rfl rfl

theorem Delivered.run (d : Delivered f) (es : List FeedEvent) : Delivered (f.run es) := by
  induction es generalizing f with
  | nil => exact d
  | cons e es ih => exact ih (d.step e)

theorem Delivered.of_end (d : Delivered f) {e : QueueEnd} (read : .error e ∈ f.results) :
    f.ends.head? = some e ∧ ∃ (oks : List (List UInt8)) (k : Nat),
      f.results = oks.map .ok ++ List.replicate k (.error e) ∧
        oks.flatten = f.accepted.flatten := by
  obtain ⟨empty, settled⟩ := d.ended e read
  obtain ⟨oks, errs, rs⟩ := d.order
  have same : ∀ e' ∈ errs, e' = e := by
    intro e' mem
    have other := (d.ended e' (by simp [rs, mem])).2
    rw [settled] at other
    exact (Option.some.inj other).symm
  refine ⟨d.first ▸ settled, oks, errs.length, ?_, ?_⟩
  · rw [rs, List.eq_replicate_iff.2 ⟨rfl, same⟩]
    simp
  · have bytes := d.bytes
    rw [empty, List.flatten_nil, List.append_nil, readBytes, rs,
      filterMap_toOption_bytesThenEnds] at bytes
    exact bytes

end Feed

/-- A streamed body under any interleaving: a waiting reader is woken by every push of a non-empty
chunk and every finish, and reads the chunks in order, then the first end. -/
theorem body_feed_wakes_and_delivers (es : List FeedEvent) :
    let f := ({} : Feed).run es
    (∀ n, f.reader = .wait n →
      f.seen.chunks = [] ∧ f.seen.ending = none ∧
      (f.token = true ∨ ∀ c ∈ f.returned.drop f.checkedAt, c = .push []) ∧
      ((∃ c ∈ f.returned.drop f.checkedAt, c ≠ .push []) → (f.step .reader).reader = .check n)) ∧
    f.readBytes ++ f.queue.chunks.flatten = f.accepted.flatten ∧
    (∀ e, .error e ∈ f.results →
      f.ends.head? = some e ∧ ∃ (oks : List (List UInt8)) (k : Nat),
        f.results = oks.map .ok ++ List.replicate k (.error e) ∧ oks.flatten = f.accepted.flatten) := by
  intro f
  have w : f.Waiting := Feed.waiting_init.run es
  have d : f.Delivered := Feed.delivered_init.run es
  refine ⟨fun n waiting => ?_, d.bytes, fun e read => d.of_end read⟩
  obtain ⟨empty, open_, since⟩ := w.waits n waiting
  refine ⟨empty, open_, since, fun ⟨c, mem, other⟩ => ?_⟩
  -- a call other than an empty push has returned since the check, so a token is there
  have token : f.token = true := by
    rcases since with token | quiet
    · exact token
    · exact absurd (quiet c mem) other
  exact Feed.readerStep_of_token waiting token

/-- A reader waiting on an empty queue is woken by a push of a chunk, and a read after the body
was closed returns the end the close set. -/
theorem pushed_chunk_wakes_reader :
    let f := ({} : Feed).run [.read 4, .reader, .call (.push [7]), .feeder 0, .feeder 0]
    let g := ({} : Feed).run [.call .close, .feeder 0, .read 4, .reader]
    f.reader = .wait 4 ∧ .push [7] ∈ f.returned.drop f.checkedAt ∧
      (f.step .reader).reader = .check 4 ∧
      .error .closedPipe ∈ g.results ∧ g.ends.head? = some .closedPipe := by
  intro f g
  have pushed : .push [7] ∈ f.returned.drop f.checkedAt := by decide
  have closed : .error .closedPipe ∈ g.results := by
    rw [show g.results = [.error .closedPipe] from rfl]
    exact List.mem_singleton_self _
  exact ⟨rfl, pushed,
    ((body_feed_wakes_and_delivers _).1 4 rfl).2.2.2 ⟨.push [7], pushed, by decide⟩, closed,
    ((body_feed_wakes_and_delivers _).2.2 .closedPipe closed).1⟩

/-- A push of an empty chunk returns without a token. A reader that found the queue empty and
waits is not woken by it, though a push has returned since its check. -/
theorem empty_push_returns_without_waking :
    let f := ({} : Feed).run [.read 4, .reader, .call (.push []), .feeder 0]
    f.reader = .wait 4 ∧ f.token = false ∧ f.returned.drop f.checkedAt = [.push []] ∧
      (f.step .reader).reader = .wait 4 :=
  ⟨rfl, rfl, rfl, rfl⟩

end ChannelMux.Http
