import ChannelMux.Http.Upload
import ChannelMux.Proofs.RequestTable

/-! A control-transfer body takes exactly what its Connect announced: `Upload.Fed` holds along
every run, kept by one lemma per event. -/

namespace ChannelMux.Http

/-- The posts complete a body announced with `size` bytes: a streamed body (size -1) once an
empty post came, a counted one once the posts hold exactly its bytes. -/
def Completes (size : Int) (posts : List (List UInt8)) : Prop :=
  if size = -1 then [] ∈ posts else (posts.flatten.length : Int) = size

/-- What a body announced with `size` bytes still expects once `posts` fed it: -1 while a streamed
body waits for its empty post, the bytes a counted one still lacks, none once it is complete. -/
def expectedFeed (size : Int) (posts : List (List UInt8)) : Option Int :=
  if size = -1 then (if [] ∈ posts then none else some (-1))
  else if (posts.flatten.length : Int) = size then none
  else some (size - posts.flatten.length)

theorem expectedFeed_eq_none_iff (size : Int) (posts : List (List UInt8)) :
    expectedFeed size posts = none ↔ Completes size posts := by
  unfold expectedFeed Completes
  split <;> split <;> simp_all

theorem expectedFeed_nil (size : Int) :
    expectedFeed size [] = if size = 0 then none else some size := by
  unfold expectedFeed
  by_cases streamed : size = -1
  · simp [streamed]
  · by_cases empty : size = 0 <;> simp [streamed, empty]
    omega

theorem completes_nil (size : Int) : Completes size [] ↔ size = 0 := by
  unfold Completes
  by_cases streamed : size = -1
  · simp [streamed]
  · simp only [streamed, if_false, List.flatten_nil, List.length_nil]
    omega

theorem expectedFeed_of_incomplete {size : Int} {posts : List (List UInt8)}
    (fresh : ¬ Completes size posts) :
    expectedFeed size posts = some (if size = -1 then -1 else size - posts.flatten.length) := by
  unfold Completes at fresh
  unfold expectedFeed
  by_cases streamed : size = -1 <;> simp_all

theorem flatten_length_append (posts : List (List UInt8)) (data : List UInt8) :
    ((posts ++ [data]).flatten.length : Int) = posts.flatten.length + data.length := by
  simp

theorem expectedFeed_streamed_append {posts : List (List UInt8)} (fresh : ¬ Completes (-1) posts)
    (data : List UInt8) :
    expectedFeed (-1) (posts ++ [data]) = if data.length = 0 then none else some (-1) := by
  unfold Completes at fresh
  by_cases empty : data = [] <;> simp_all [expectedFeed]

theorem expectedFeed_counted_append {size : Int} (counted : size ≠ -1) (posts : List (List UInt8))
    (data : List UInt8) :
    expectedFeed size (posts ++ [data]) =
      if size - posts.flatten.length - data.length = 0 then none
      else some (size - posts.flatten.length - data.length) := by
  have total := flatten_length_append posts data
  unfold expectedFeed
  by_cases full : (posts.flatten.length : Int) + data.length = size
  · simp only [counted, if_false, total, full, if_true]
    rw [if_pos (by omega)]
  · simp only [counted, if_false, total, full]
    rw [if_neg (by omega)]
    congr 1
    omega

/-! ### The address table's feed -/

namespace RequestLine

variable (l : RequestLine)

theorem find?_update (y : Exchange) (found : (l.find? y.addr).isSome) :
    (l.update y).find? y.addr = some y := by
  obtain ⟨z, hz⟩ := Option.isSome_iff_exists.mp found
  -- an entry is on the address exactly when its update is
  have onAddr : ((fun z : Exchange => z.addr == y.addr) ∘
      fun z : Exchange => if z.addr == y.addr then y else z) = fun z => z.addr == y.addr := by
    funext z
    by_cases same : z.addr = y.addr <;> simp [same]
  unfold find? at hz
  have same : z.addr = y.addr := by simpa using List.find?_some hz
  have replaced : (if z.addr == y.addr then y else z) = y := by simp [same]
  simp only [find?, update, List.find?_map, onAddr, hz, Option.map_some, replaced]

theorem feed_of_none {x : Exchange} (complete : x.feed = none) (size : Nat) :
    ∃ msg, l.feed x size = .error (Failure.invalidState msg) := by
  simp [feed, complete]

theorem feed_of_overflow {x : Exchange} {r : Int} (hx : x.feed = some r) (nonneg : 0 ≤ r)
    {size : Nat} (exceeds : r < size) : ∃ msg, l.feed x size = .error (Failure.protocol msg) := by
  simp [feed, hx, Int.not_lt.mpr nonneg, exceeds]

variable {l} {x : Exchange} (found : l.find? x.addr = some x)
include found

theorem update_self_find? (f : Option Int) :
    (l.update { x with feed := f }).find? x.addr = some { x with feed := f } :=
  l.find?_update { x with feed := f } (by simp [found])

theorem feed_of_streaming {r : Int} (hx : x.feed = some r) (neg : r < 0) (size : Nat) :
    ∃ l', l.feed x size = .ok l' ∧
      l'.find? x.addr = some { x with feed := if size = 0 then none else some r } := by
  by_cases empty : size = 0
  · exact ⟨l.update { x with feed := none }, by simp [feed, hx, neg, empty],
      by simpa [empty] using update_self_find? found none⟩
  · refine ⟨l, by simp [feed, hx, neg, empty], ?_⟩
    rw [found, if_neg empty, ← hx]

theorem feed_of_fits {r : Int} (hx : x.feed = some r) (nonneg : 0 ≤ r) {size : Nat}
    (fits : size ≤ r) :
    ∃ l', l.feed x size = .ok l' ∧
      l'.find? x.addr = some { x with feed := if r - size = 0 then none else some (r - size) } := by
  have kept : ¬ r < size := by omega
  refine ⟨l.update { x with feed := if r - size = 0 then none else some (r - size) },
    by simp [feed, hx, Int.not_lt.mpr nonneg, kept], ?_⟩
  exact update_self_find? found _

omit found in
theorem prepare_feed {s : Nat} {a : Int} {r : Outgoing} {y : Exchange}
    (h : l.prepare s a r = .ok y) : y.feed = if r.fed then some r.size else none := by
  unfold prepare at h
  cases parsed : Net.WebUrl.parse (l.options.base ++ r.path) <;>
    simp only [parsed, bind, Except.bind, pure, Except.pure, throw, throwThe, MonadExceptOf.throw,
      Except.ok.injEq, reduceCtorEq] at h
  subst h
  rfl

omit found in
theorem find?_started {a : Int} (idle : l.find? a = none) {y : Exchange} (hy : y.addr = a) :
    ({ l with pending := l.pending ++ [y] } : RequestLine).find? a = some y := by
  unfold find? at idle ⊢
  simp [List.find?_append, idle, hy]

omit found in
theorem serial_ne_of_find?_retire {s : Nat} {a : Int} {y : Exchange}
    (h : (l.retire s).1.find? a = some y) : y.serial ≠ s := by
  have kept := ((l.retire s).1.find?_spec h).1
  rw [retire_pending, List.mem_filter] at kept
  simpa using kept.2

theorem feed_expected {size : Int} {posts : List (List UInt8)}
    (hx : x.feed = expectedFeed size posts) (within : size ≠ -1 → (posts.flatten.length : Int) ≤ size)
    (fresh : ¬ Completes size posts) {data : List UInt8}
    (fits : size = -1 ∨ (posts.flatten.length : Int) + data.length ≤ size) :
    ∃ l', l.feed x data.length = .ok l' ∧
      l'.find? x.addr = some { x with feed := expectedFeed size (posts ++ [data]) } := by
  rw [expectedFeed_of_incomplete fresh] at hx
  by_cases streamed : size = -1
  · subst streamed
    rw [expectedFeed_streamed_append fresh]
    exact feed_of_streaming found (by simpa using hx) (by decide) data.length
  · simp only [streamed, if_false] at hx
    have room : (data.length : Int) ≤ size - posts.flatten.length := by omega
    rw [expectedFeed_counted_append streamed]
    exact feed_of_fits found hx (by have := within streamed; omega) room

end RequestLine

theorem RequestOptions.announce_ok {o : RequestOptions} {cn : Connect} {r : Outgoing}
    (h : o.announce cn = .ok r) : -1 ≤ cn.size ∧ r.size = cn.size ∧ r.fed = (cn.size != 0) := by
  unfold announce at h
  cases control : o.control
  · simp [control, throw, throwThe, MonadExceptOf.throw, bind, Except.bind] at h
  · by_cases small : cn.size < -1
    · simp [control, small, throw, throwThe, MonadExceptOf.throw, bind, Except.bind] at h
    · simp [control, small, pure, Except.pure] at h
      subst h
      exact ⟨by omega, rfl, rfl⟩

theorem RequestOptions.announce_of_lt {o : RequestOptions} (control : o.control = true)
    {cn : Connect} (small : cn.size < -1) :
    ∃ msg, o.announce cn = .error (Failure.protocol msg) := by
  simp [announce, control, small, throw, throwThe, MonadExceptOf.throw, bind, Except.bind]

/-! ### One exchange's body -/

namespace Upload

variable {u : Upload} {l : RequestLine} {x : Exchange}

theorem current?_eq_some :
    u.current? = some (l, x) ↔ u.line = some l ∧ l.find? u.addr = some x ∧ x.serial = u.serial := by
  unfold current?
  split
  · next l' hl =>
    split
    · next x' hx =>
      by_cases own : x'.serial = u.serial
      · simp only [own, if_true, Option.some.injEq, Prod.mk.injEq, hl]
        constructor
        · rintro ⟨rfl, rfl⟩
          exact ⟨rfl, hx, own⟩
        · rintro ⟨rfl, found, -⟩
          exact ⟨rfl, Option.some.inj (hx.symm.trans found)⟩
      · simp only [own, if_false, reduceCtorEq, false_iff, hl, Option.some.injEq, not_and]
        rintro rfl found
        rw [hx, Option.some.injEq] at found
        exact found ▸ own
    · next hx =>
      simp only [reduceCtorEq, false_iff, hl, Option.some.injEq, not_and]
      rintro rfl found
      simp [hx] at found
  · next hl => simp [hl]

theorem current?_addr (h : u.current? = some (l, x)) : x.addr = u.addr :=
  (l.find?_spec (current?_eq_some.mp h).2.1).2

theorem current?_find? (h : u.current? = some (l, x)) : l.find? x.addr = some x :=
  current?_addr h ▸ (current?_eq_some.mp h).2.1

theorem feed_eq_ok {data : List UInt8} {u' : Upload} (h : u.feed l x data = .ok u') :
    ∃ l', l.feed x data.length = .ok l' ∧ u' =
      { u with line := some l',
               queue := if ((l'.find? u.addr).bind (·.feed)).isNone then
                 (u.queue.push data).finish .eof else u.queue.push data,
               accepted := u.accepted ++ [data] } := by
  unfold feed at h
  split at h
  · rename_i l' fed
    cases h
    exact ⟨l', fed, rfl⟩
  · cases h

theorem feed_of_error {data : List UInt8} {e : Failure} (h : l.feed x data.length = .error e) :
    u.feed l x data = .error e := by
  simp [feed, h]

theorem current?_eq_none_of_line (h : u.line = none) : u.current? = none := by
  simp [current?, h]

theorem current?_eq_none_of_find? (hl : u.line = some l) (h : l.find? u.addr = none) :
    u.current? = none := by
  simp [current?, hl, h]

theorem current?_eq_of_find? (hl : u.line = some l) (hx : l.find? u.addr = some x)
    {l₂ : RequestLine} {x₂ : Exchange} (h : u.current? = some (l₂, x₂)) : x₂ = x := by
  obtain ⟨hl₂, hx₂, -⟩ := current?_eq_some.mp h
  rw [hl, Option.some.injEq] at hl₂
  subst hl₂
  exact Option.some.inj (hx₂.symm.trans hx)

theorem current?_retire : ({ u with line := u.line.map fun l => (l.retire u.serial).1 } : Upload).current? =
    none := by
  cases h : ({ u with line := u.line.map fun l => (l.retire u.serial).1 } : Upload).current? with
  | none => rfl
  | some found =>
    obtain ⟨l₂, x₂⟩ := found
    obtain ⟨hl, hx, own⟩ := current?_eq_some.mp h
    obtain ⟨l₀, -, rfl⟩ := Option.map_eq_some_iff.mp hl
    exact absurd own (l₀.serial_ne_of_find?_retire hx)

theorem step_post_of_error {data : List UInt8} {e : Failure} (he : u.current? = some (l, x))
    (refused : u.feed l x data = .error e) : u.step (.post data) = u := by
  simp [step, he, refused]

theorem step_post_of_ok {data : List UInt8} {u' : Upload} (he : u.current? = some (l, x))
    (taken : u.feed l x data = .ok u') : u.step (.post data) = u' := by
  simp [step, he, taken]

end Upload

/-! ### What holds along every run -/

/-- What holds of an exchange whose Connect announced `size` bytes, at every point of its body. -/
structure Upload.Fed (size : Int) (u : Upload) : Prop where
  size_ge : -1 ≤ size
  within : size ≠ -1 → (u.accepted.flatten.length : Int) ≤ size
  entry : ∀ l x, u.current? = some (l, x) → x.feed = expectedFeed size u.accepted
  stream : u.queue.ending ≠ some .closedPipe →
    u.received ++ u.queue.chunks.flatten = u.accepted.flatten
  eof : u.queue.ending = some .eof → Completes size u.accepted
  canceled : u.queue.ending = some .canceled → ¬ Completes size u.accepted
  complete : Completes size u.accepted → u.queue.ending.isSome
  seen : ∀ e, u.ended = some e → u.queue.chunks = [] ∧ u.queue.ending = some e
  withdrawn : u.queue.ending = some .canceled → u.current? = none

namespace Upload.Fed

variable {size : Int} {u : Upload}

theorem ending_ne_closedPipe {q : BodyQueue} {e : QueueEnd} (ne : (q.finish e).ending ≠ some .closedPipe)
    : q.ending ≠ some .closedPipe := fun closed =>
  ne (by rw [BodyQueue.finish_of_ended (by simp [closed])]; exact closed)

theorem ending_of_finish {q : BodyQueue} {e e' : QueueEnd} (h : (q.finish e).ending = some e')
    (other : e' ≠ e) : q.ending = some e' := by
  rw [BodyQueue.finish_ending] at h
  cases held : q.ending with
  | none => simp [held] at h; exact absurd h.symm other
  | some e₀ => simpa [held] using h

theorem announce {l : RequestLine} {serial : Nat} {addr : Int} {cn : Connect}
    (h : Upload.announce l serial addr cn = .ok u) : Upload.Fed cn.size u := by
  unfold Upload.announce at h
  cases announced : l.options.announce cn with
  | error e => simp [announced, bind, Except.bind] at h
  | ok r =>
    cases started : l.start serial addr r with
    | error e => simp [announced, started, bind, Except.bind] at h
    | ok l' =>
      simp only [announced, started, bind, Except.bind, pure, Except.pure, Except.ok.injEq] at h
      subst h
      obtain ⟨size_ge, sized, fed⟩ := RequestOptions.announce_ok announced
      obtain ⟨idle, y, prepared, rfl⟩ := l.start_ok started
      have hy : y.feed = expectedFeed cn.size [] := by
        rw [l.prepare_feed prepared, sized, fed, expectedFeed_nil]
        by_cases empty : cn.size = 0 <;> simp [empty]
      -- a body of size 0 is complete at once, and only then does its queue start ended
      have ended : r.fed = false ↔ Completes cn.size [] := by
        rw [completes_nil, fed]
        simp
      refine ⟨size_ge, fun counted => by simp only [List.flatten_nil, List.length_nil]; omega,
        ?_, ?_, ?_, ?_, ?_, ?_, ?_⟩
      · intro l₂ x₂ he
        have found := l.find?_started idle (l.prepare_fields prepared).2.1
        rw [Upload.current?_eq_of_find? rfl found he]
        exact hy
      · intro _
        split <;> rfl
      · intro eof
        split at eof
        · cases eof
        · next unfed => exact ended.mp (by simpa using unfed)
      · intro canceled
        split at canceled <;> cases canceled
      · intro complete
        have unfed := ended.mpr complete
        simp [unfed]
      · intro e seen
        cases seen
      · intro canceled
        split at canceled <;> cases canceled

section Post

variable {l : RequestLine} {x : Exchange} (h : Fed size u) (he : u.current? = some (l, x))
include h he

theorem post_after_end (done : Completes size u.accepted) (data : List UInt8) :
    ∃ msg, u.feed l x data = .error (Failure.invalidState msg) := by
  have none : x.feed = none := (h.entry l x he).trans ((expectedFeed_eq_none_iff _ _).mpr done)
  obtain ⟨msg, refused⟩ := l.feed_of_none none data.length
  exact ⟨msg, Upload.feed_of_error refused⟩

theorem post_overflow (fresh : ¬ Completes size u.accepted) (counted : size ≠ -1)
    {data : List UInt8} (exceeds : size < u.accepted.flatten.length + data.length) :
    ∃ msg, u.feed l x data = .error (Failure.protocol msg) := by
  have hx := h.entry l x he
  rw [expectedFeed_of_incomplete fresh, if_neg counted] at hx
  have lacking : 0 ≤ size - u.accepted.flatten.length := by
    have := h.within counted
    omega
  obtain ⟨msg, refused⟩ := l.feed_of_overflow hx lacking
    (show size - u.accepted.flatten.length < data.length by omega)
  exact ⟨msg, Upload.feed_of_error refused⟩

theorem post_taken (fresh : ¬ Completes size u.accepted) {data : List UInt8}
    (fits : size = -1 ∨ (u.accepted.flatten.length : Int) + data.length ≤ size) :
    ∃ u', u.feed l x data = .ok u' ∧ u'.accepted = u.accepted ++ [data] := by
  obtain ⟨l', fed, -⟩ :=
    RequestLine.feed_expected (Upload.current?_find? he) (h.entry l x he) h.within fresh fits
  cases taken : u.feed l x data with
  | error e => simp [Upload.feed, fed] at taken
  | ok u' =>
    obtain ⟨l'', -, rfl⟩ := Upload.feed_eq_ok taken
    exact ⟨_, rfl, rfl⟩

end Post

theorem feed {l : RequestLine} {x : Exchange} {data : List UInt8} {u' : Upload} (h : Fed size u)
    (he : u.current? = some (l, x)) (taken : u.feed l x data = .ok u') : Fed size u' := by
  -- the table took the post, so the body was incomplete and the post fits
  have fresh : ¬ Completes size u.accepted := fun done => by
    obtain ⟨msg, refused⟩ := h.post_after_end he done data
    rw [taken] at refused
    cases refused
  have fits : size = -1 ∨ (u.accepted.flatten.length : Int) + data.length ≤ size := by
    by_cases streamed : size = -1
    · exact .inl streamed
    · refine .inr (Int.not_lt.mp fun exceeds => ?_)
      obtain ⟨msg, refused⟩ := h.post_overflow he fresh streamed exceeds
      rw [taken] at refused
      cases refused
  obtain ⟨l', fed, rfl⟩ := Upload.feed_eq_ok taken
  have found := Upload.current?_find? he
  have here := Upload.current?_addr he
  obtain ⟨l'', fed', next⟩ := RequestLine.feed_expected found (h.entry l x he) h.within fresh fits
  rw [fed, Except.ok.injEq] at fed'
  subst fed'
  rw [here] at next
  have ends : ((l'.find? u.addr).bind (·.feed)).isNone = true ↔
      Completes size (u.accepted ++ [data]) := by
    simpa [next] using expectedFeed_eq_none_iff size (u.accepted ++ [data])
  have within : size ≠ -1 → ((u.accepted ++ [data]).flatten.length : Int) ≤ size := fun counted => by
    rw [flatten_length_append]
    exact fits.resolve_left counted
  have entry : ∀ l₂ x₂, ({ u with line := some l' } : Upload).current? = some (l₂, x₂) →
      x₂.feed = expectedFeed size (u.accepted ++ [data]) := fun l₂ x₂ he₂ => by
    rw [Upload.current?_eq_of_find? (u := { u with line := some l' }) rfl next he₂]
  -- the queue was open or closed by the transport: the body's own end and a cancel need no post
  rcases Option.eq_none_or_eq_some u.queue.ending with opened | ⟨e, closed⟩
  · refine ⟨h.size_ge, within, entry, ?_, ?_, ?_, ?_, ?_, ?_⟩
    · intro _
      split <;> simp [BodyQueue.push_chunks_flatten opened, ← List.append_assoc, h.stream (by simp [opened])]
    · intro eof
      split at eof
      · next complete => exact ends.mp complete
      · simp [opened] at eof
    · intro canceled
      split at canceled <;> simp [opened] at canceled
    · intro complete
      simp [ends.mpr complete]
    · intro e seen
      simpa [opened] using (h.seen e seen).2
    · intro canceled
      split at canceled <;> simp [opened] at canceled
  · have closedPipe : e = .closedPipe := by
      cases e with
      | eof => exact absurd (h.eof closed) fresh
      | canceled => rw [h.withdrawn closed] at he; cases he
      | closedPipe => rfl
    subst closedPipe
    have ended : u.queue.ending.isSome := by simp [closed]
    have kept : (if ((l'.find? u.addr).bind (·.feed)).isNone then
        (u.queue.push data).finish .eof else u.queue.push data) = u.queue := by
      split <;> simp [BodyQueue.push_of_ended ended, BodyQueue.finish_of_ended ended]
    refine ⟨h.size_ge, within, entry, ?_, ?_, ?_, ?_, ?_, ?_⟩ <;> simp only [kept, closed]
    · simp
    · simp
    · simp
    · simp
    · exact fun e seen => by simpa [closed] using h.seen e seen
    · simp

theorem withdrawn_cases (h : Fed size u) :
    u.withdrawn = u.queue ∨
      (u.withdrawn = u.queue.finish .canceled ∧ ¬ Completes size u.accepted) := by
  unfold Upload.withdrawn
  split
  · next l x he =>
    split
    · next fed =>
      refine .inr ⟨rfl, fun done => ?_⟩
      rw [h.entry l x he, (expectedFeed_eq_none_iff _ _).mpr done] at fed
      cases fed
    · exact .inl rfl
  · exact .inl rfl

theorem detach (h : Fed size u) {line : Option RequestLine} {q : BodyQueue}
    (gone : ({ u with line := line, queue := q } : Upload).current? = none)
    (hq : q = u.queue ∨ (q = u.queue.finish .canceled ∧ ¬ Completes size u.accepted)) :
    Fed size { u with line := line, queue := q } := by
  have noEntry : ∀ l x, ({ u with line := line, queue := q } : Upload).current? = some (l, x) →
      x.feed = expectedFeed size u.accepted := fun l x he => by
    rw [gone] at he
    cases he
  rcases hq with rfl | ⟨rfl, fresh⟩
  · exact ⟨h.size_ge, h.within, noEntry, h.stream, h.eof, h.canceled, h.complete, h.seen,
      fun _ => gone⟩
  · refine ⟨h.size_ge, h.within, noEntry, ?_, ?_, fun _ => fresh, fun _ => by simp, ?_,
      fun _ => gone⟩
    · intro opened
      simpa using h.stream (ending_ne_closedPipe opened)
    · intro eof
      exact h.eof (ending_of_finish eof (by decide))
    · intro e seen
      obtain ⟨drained, ended⟩ := h.seen e seen
      rw [BodyQueue.finish_of_ended (q := u.queue) (by simp [ended])]
      exact ⟨drained, ended⟩

theorem read (h : Fed size u) (n : Nat) : Fed size (u.step (.read n)) := by
  cases hr : u.queue.read n with
  | none =>
    simpa [Upload.step, hr] using h
  | some result =>
    obtain ⟨r, q⟩ := result
    cases r with
    | ok bytes =>
      obtain ⟨held, ending, moved⟩ := BodyQueue.read_ok hr
      simp only [Upload.step, hr]
      refine ⟨h.size_ge, h.within, h.entry, ?_, ending ▸ h.eof, ending ▸ h.canceled,
        ending ▸ h.complete, ?_, ending ▸ h.withdrawn⟩
      · intro opened
        rw [List.append_assoc, moved]
        exact h.stream (ending ▸ opened)
      · intro e seen
        exact absurd (h.seen e seen).1 held
    | error e =>
      obtain ⟨drained, ended, rfl⟩ := BodyQueue.read_error hr
      simp only [Upload.step, hr]
      refine ⟨h.size_ge, h.within, h.entry, h.stream, h.eof, h.canceled, h.complete, ?_,
        h.withdrawn⟩
      intro e' seen
      cases seen
      exact ⟨drained, ended⟩

theorem release (h : Fed size u) : Fed size (u.step .release) := by
  simp only [Upload.step, BodyQueue.close]
  refine ⟨h.size_ge, h.within, h.entry, ?_, ?_, ?_, fun _ => by simp, ?_, ?_⟩
  · intro opened
    simpa using h.stream (ending_ne_closedPipe opened)
  · intro eof
    exact h.eof (ending_of_finish eof (by decide))
  · intro canceled
    exact h.canceled (ending_of_finish canceled (by decide))
  · intro e seen
    obtain ⟨drained, ended⟩ := h.seen e seen
    rw [BodyQueue.finish_of_ended (q := u.queue) (by simp [ended])]
    exact ⟨drained, ended⟩
  · intro canceled
    exact h.withdrawn (ending_of_finish canceled (by decide))

theorem step (h : Fed size u) (ev : UploadEvent) : Fed size (u.step ev) := by
  cases ev with
  | post data =>
    cases he : u.current? with
    | none => simpa [Upload.step, he] using h
    | some found =>
      obtain ⟨l, x⟩ := found
      cases taken : u.feed l x data with
      | error e => rwa [Upload.step_post_of_error he taken]
      | ok u' =>
        rw [Upload.step_post_of_ok he taken]
        exact h.feed he taken
  | cancel =>
    cases hl : u.line with
    | none => simpa [Upload.step, hl] using h
    | some l =>
      simp only [Upload.step, hl]
      exact h.detach (Upload.current?_eq_none_of_find? rfl (l.find?_cancel u.addr)) h.withdrawn_cases
  | close => exact h.detach (Upload.current?_eq_none_of_line rfl) h.withdrawn_cases
  | retire => exact h.detach (q := u.queue) Upload.current?_retire (.inl rfl)
  | read n => exact h.read n
  | release => exact h.release

theorem run (h : Fed size u) (es : List UploadEvent) : Fed size (u.run es) := by
  induction es generalizing u with
  | nil => exact h
  | cons ev rest ih => exact ih (h.step ev)

theorem ending_eof_iff (h : Fed size u) (opened : u.queue.ending ≠ some .closedPipe) :
    u.queue.ending = some .eof ↔ Completes size u.accepted := by
  refine ⟨h.eof, fun done => ?_⟩
  obtain ⟨e, ended⟩ := Option.isSome_iff_exists.mp (h.complete done)
  cases e with
  | eof => exact ended
  | canceled => exact absurd done (h.canceled ended)
  | closedPipe => exact absurd ended opened

theorem read_to_end (h : Fed size u) {e : QueueEnd} (seen : u.ended = some e)
    (opened : e ≠ .closedPipe) :
    u.received = u.accepted.flatten ∧ (e = .eof ↔ Completes size u.accepted) := by
  obtain ⟨drained, ended⟩ := h.seen e seen
  have notClosed : u.queue.ending ≠ some .closedPipe := by
    rw [ended]
    simpa using opened
  refine ⟨by simpa [drained] using h.stream notClosed, ?_⟩
  rw [← h.ending_eof_iff notClosed, ended, Option.some.injEq]

end Upload.Fed

/-- A control-transfer body takes exactly what its Connect announced, along every run of posts,
cancels, the close and the transport's reads. -/
theorem control_body_takes_announced_bytes (l : RequestLine) (control : l.options.control = true)
    (serial : Nat) (addr : Int) (cn : Connect) :
    (cn.size < -1 → ∃ msg, Upload.announce l serial addr cn = .error (Failure.protocol msg)) ∧
    ∀ u₀, Upload.announce l serial addr cn = .ok u₀ → ∀ es : List UploadEvent,
      let u := u₀.run es
      (cn.size ≠ -1 → (u.accepted.flatten.length : Int) ≤ cn.size) ∧
      (∀ l' x data, u.current? = some (l', x) →
        (x.feed = none ↔ Completes cn.size u.accepted) ∧
        (Completes cn.size u.accepted →
          ∃ msg, u.feed l' x data = .error (Failure.invalidState msg)) ∧
        (¬ Completes cn.size u.accepted → cn.size ≠ -1 →
          cn.size < u.accepted.flatten.length + data.length →
          (∃ msg, u.feed l' x data = .error (Failure.protocol msg)) ∧ u.step (.post data) = u) ∧
        (¬ Completes cn.size u.accepted →
          (cn.size = -1 ∨ (u.accepted.flatten.length : Int) + data.length ≤ cn.size) →
          ∃ u', u.feed l' x data = .ok u' ∧ u.step (.post data) = u' ∧
            u'.accepted = u.accepted ++ [data])) ∧
      (u.queue.ending ≠ some .closedPipe →
        (u.queue.ending = some .eof ↔ Completes cn.size u.accepted)) ∧
      (∀ e, u.ended = some e → e ≠ .closedPipe →
        u.received = u.accepted.flatten ∧ (e = .eof ↔ Completes cn.size u.accepted)) := by
  refine ⟨fun small => ?_, fun u₀ started es => ?_⟩
  · obtain ⟨msg, refused⟩ := RequestOptions.announce_of_lt control small
    exact ⟨msg, by simp [Upload.announce, refused, bind, Except.bind]⟩
  · intro u
    have h : Upload.Fed cn.size u := (Upload.Fed.announce started).run es
    refine ⟨h.within, fun l' x data he => ⟨?_, fun done => h.post_after_end he done data,
      fun fresh counted exceeds => ?_, fun fresh fits => ?_⟩, h.ending_eof_iff,
      fun e seen opened => h.read_to_end seen opened⟩
    · rw [h.entry l' x he]
      exact expectedFeed_eq_none_iff _ _
    · obtain ⟨msg, refused⟩ := h.post_overflow he fresh counted exceeds
      exact ⟨⟨msg, refused⟩, Upload.step_post_of_error he refused⟩
    · obtain ⟨u', taken, accepted⟩ := h.post_taken he fresh fits
      exact ⟨u', taken, Upload.step_post_of_ok he taken, accepted⟩

/-- A Connect of size -2 is refused; one of size 3 takes two bytes, refuses two more and takes one.
-/
theorem three_byte_body_takes_what_fits :
    let l : RequestLine :=
      { options := ⟨"http://h", .post, true, false, [], 0, 65536⟩, engine := {}, privateEngine := false }
    (∃ msg, Upload.announce l 0 0 { size := -2 } = .error (Failure.protocol msg)) ∧
    ∃ u₀, Upload.announce l 0 0 { size := 3 } = .ok u₀ ∧
      let u := u₀.run [.post [97, 98]]
      u.accepted = [[97, 98]] ∧ ∃ l' x, u.current? = some (l', x) ∧
        (∃ msg, u.feed l' x [99, 100] = .error (Failure.protocol msg)) ∧
        ∃ u', u.feed l' x [99] = .ok u' ∧ u'.accepted = [[97, 98], [99]] := by
  intro l
  have computed : (Upload.announce l 0 0 { size := 3 }).toOption.map (fun u₀ =>
      ((u₀.run [.post [97, 98]]).accepted, (u₀.run [.post [97, 98]]).current?.isSome)) =
        some ([[97, 98]], true) := by
    decide +kernel
  have refused := (control_body_takes_announced_bytes l rfl 0 0 { size := -2 }).1 (by decide)
  cases started : Upload.announce l 0 0 { size := 3 } with
  | error e => simp [started, Except.toOption] at computed
  | ok u₀ =>
    simp only [started, Except.toOption, Option.map_some, Option.some.injEq, Prod.mk.injEq]
      at computed
    obtain ⟨accepted, isEntry⟩ := computed
    obtain ⟨⟨l', x⟩, he⟩ := Option.isSome_iff_exists.mp isEntry
    obtain ⟨-, posts, -⟩ :=
      (control_body_takes_announced_bytes l rfl 0 0 { size := 3 }).2 u₀ started [.post [97, 98]]
    have fresh : ¬ Completes 3 (u₀.run [.post [97, 98]]).accepted := by
      rw [accepted]
      simp [Completes]
    obtain ⟨-, -, exceeds, fits⟩ := posts l' x [99, 100] he
    obtain ⟨-, -, -, fits⟩ := posts l' x [99] he
    obtain ⟨u', taken, -, grown⟩ := fits fresh (.inr (by rw [accepted]; decide))
    refine ⟨refused, u₀, rfl, accepted, l', x, he, (exceeds fresh (by decide) (by rw [accepted]; decide)).1,
      u', taken, by rw [grown, accepted]; rfl⟩

end ChannelMux.Http
