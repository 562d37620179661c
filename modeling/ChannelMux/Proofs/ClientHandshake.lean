import ChannelMux.Socket.Client
import ChannelMux.Proofs.LifecycleWalk

/-! The order in which a socket client's callbacks hear of its handshake. -/

namespace ChannelMux.Socket

open Lifecycle

section Notices

theorem foldl_noteState {r : List LifeState} (h : .opening ∉ r) (seen : Bool) :
    r.foldl noteState seen = (seen || decide (.active ∈ r)) := by
  induction r generalizing seen with
  | nil => simp
  | cons s r ih =>
    simp only [List.mem_cons, not_or] at h
    rw [List.foldl_cons, ih h.2]
    cases s <;> simp_all [noteState]

theorem activeSince_append {l r : List LifeState} (h : .opening ∉ r) :
    activeSince (l ++ r) = (activeSince l || decide (.active ∈ r)) := by
  rw [activeSince, List.foldl_append, foldl_noteState h]
  rfl

theorem activeSince_append_quiet {l r : List LifeState} (opening : .opening ∉ r)
    (active : .active ∉ r) : activeSince (l ++ r) = activeSince l := by
  simp [activeSince_append opening, active]

theorem activeSince_append_of_active {l r : List LifeState} (h : activeSince l = true)
    (opening : .opening ∉ r) : activeSince (l ++ r) = true := by
  simp [activeSince_append opening, h]

@[simp] theorem activeSince_append_opening (l : List LifeState) :
    activeSince (l ++ [.opening]) = false := by
  simp [activeSince, noteState]

@[simp] theorem activeSince_append_active (l : List LifeState) :
    activeSince (l ++ [.active]) = true := by
  simp [activeSince, noteState]

theorem activeSince_of_last {l : List LifeState}
    (h : (LifeState.closed :: l).getLast? = some .opening) : activeSince l = false := by
  induction l using List.reverseRecOn with
  | nil => simp at h
  | append_singleton l s _ =>
    rw [← List.cons_append, List.getLast?_concat] at h
    cases h
    exact activeSince_append_opening l

end Notices

end ChannelMux.Socket

namespace ChannelMux.Lifecycle

namespace Machine

/-- The states entered and not yet handed to the callbacks, in order: the batch in flight, then
the queue. -/
def queue (m : Machine) : List LifeState := m.inFlight ++ m.shared.pending

/-- From one machine to another the callbacks are handed states from the front of the queue, and
`e` is queued behind. -/
def Flows (m m' : Machine) (e : List LifeState) : Prop :=
  ∃ d, m'.shared.noticed = m.shared.noticed ++ d ∧ d ++ m'.queue = m.queue ++ e

namespace Flows

variable {m m' m'' : Machine} {e e' : List LifeState}

theorem refl : m.Flows m [] := ⟨[], by simp, by simp⟩

theorem trans (h : m.Flows m' e) (h' : m'.Flows m'' e') : m.Flows m'' (e ++ e') := by
  obtain ⟨d, noticed, moved⟩ := h
  obtain ⟨d', noticed', moved'⟩ := h'
  refine ⟨d ++ d', by rw [noticed', noticed, List.append_assoc], ?_⟩
  rw [List.append_assoc, moved', ← List.append_assoc, moved, List.append_assoc]

theorem whole (h : m.Flows m' e) :
    m'.shared.noticed ++ m'.queue = m.shared.noticed ++ m.queue ++ e := by
  obtain ⟨d, noticed, moved⟩ := h
  rw [noticed, List.append_assoc, moved, List.append_assoc]

theorem handed_mem (h : m.Flows m' e) :
    ∃ d, m'.shared.noticed = m.shared.noticed ++ d ∧ ∀ s ∈ d, s ∈ m.queue ++ e := by
  obtain ⟨d, noticed, moved⟩ := h
  exact ⟨d, noticed, fun s hs => moved ▸ List.mem_append_left _ hs⟩

theorem not_mem (h : m.Flows m' e) {s : LifeState} (hs : s ∉ m.queue ++ e) : s ∉ m'.queue := by
  obtain ⟨d, -, moved⟩ := h
  intro mem
  exact hs (moved ▸ List.mem_append_right d mem)

theorem activeSince_quiet (h : m.Flows m' e) (opening : .opening ∉ m.queue ++ e)
    (active : .active ∉ m.queue ++ e) :
    Socket.activeSince m'.shared.noticed = Socket.activeSince m.shared.noticed := by
  obtain ⟨d, noticed, within⟩ := h.handed_mem
  rw [noticed]
  exact Socket.activeSince_append_quiet (fun mem => opening (within _ mem))
    (fun mem => active (within _ mem))

theorem activeSince_awake (h : m.Flows m' e) (awake : Socket.activeSince m.shared.noticed = true)
    (opening : .opening ∉ m.queue ++ e) : Socket.activeSince m'.shared.noticed = true := by
  obtain ⟨d, noticed, within⟩ := h.handed_mem
  rw [noticed]
  exact Socket.activeSince_append_of_active awake fun mem => opening (within _ mem)

end Flows

end Machine

theorem Consistent.noticed_append_queue {m : Machine} {walk : List LifeState}
    (h : Consistent m walk) : m.shared.noticed ++ m.queue = walk := by
  rw [Machine.queue, ← List.append_assoc]
  exact h.account

theorem Consistent.flows {m m' : Machine} {walk e : List LifeState} (h : Consistent m walk)
    (h' : Consistent m' (walk ++ e)) (grows : ∃ d, m'.shared.noticed = m.shared.noticed ++ d) :
    m.Flows m' e := by
  obtain ⟨d, noticed⟩ := grows
  have whole : m.shared.noticed ++ (d ++ m'.queue) = m.shared.noticed ++ (m.queue ++ e) := by
    rw [← List.append_assoc, ← noticed, h'.noticed_append_queue, ← List.append_assoc,
      h.noticed_append_queue]
  exact ⟨d, noticed, List.append_cancel_left whole⟩

/-- A thread is in a transport call: it has a frame other than a flush to run, or a turn
delivering a message. -/
def Thread.Calls (t : Thread) : Prop :=
  (∃ f ∈ t.work, f ≠ .flushAcquire) ∨
    ∃ m, t.held = some (.deliverState m) ∨ t.held = some (.deliverSend m)

theorem Thread.reports_of_not_calls {t : Thread} (h : ¬t.Calls) :
    ∀ f ∈ t.work, f ≠ .setActive ∧ f ≠ .setError := by
  intro f mem
  have flush : f = .flushAcquire := by
    by_contra other
    exact h (.inl ⟨f, mem, other⟩)
  subst flush
  exact ⟨nofun, nofun⟩

/-- A transport call past its section under the state lock, at point `b` of its thread's body. -/
inductive Flushing (b : Body) : Thread → Prop
  | waiting : Flushing b ⟨none, [.flushAcquire], b⟩
  | taking : Flushing b ⟨some .flushTake, [], b⟩
  | sending (batch : List LifeState) : Flushing b ⟨some (.flushSend batch), [], b⟩
  | done : Flushing b ⟨none, [], b⟩

theorem Flushing.body {b : Body} {t : Thread} (h : Flushing b t) : t.body = b := by
  cases h <;> rfl

theorem Flushing.reports {b : Body} {t : Thread} (h : Flushing b t) :
    ∀ f ∈ t.work, f ≠ .setActive ∧ f ≠ .setError := by
  cases h <;> simp

theorem Flushing.not_sending {b : Body} {t : Thread} (h : Flushing b t) (m : Message) :
    t.held ≠ some (.deliverSend m) := by
  cases h <;> simp

/-- A delivery: waiting for the delivery lock, checking the lifecycle under it, about to hand
the message over, or returned. -/
inductive Delivering : Thread → Prop
  | waiting (m : Message) : Delivering ⟨none, [.deliverAcquire m], .idle⟩
  | checking (m : Message) : Delivering ⟨some (.deliverState m), [], .idle⟩
  | sending (m : Message) : Delivering ⟨some (.deliverSend m), [], .idle⟩
  | done : Delivering ⟨none, [], .idle⟩

@[simp] theorem Cycle.activate_deferActive (c : Cycle) : c.activate.1.deferActive = c.deferActive := by
  unfold Cycle.activate Cycle.moveTo
  split_ifs <;> rfl

@[simp] theorem Cycle.fail_deferActive (c : Cycle) : c.fail.1.deferActive = c.deferActive := by
  unfold Cycle.fail Cycle.moveTo
  split_ifs <;> rfl

@[simp] theorem Cycle.finishOpen_deferActive (c : Cycle) :
    c.finishOpen.1.deferActive = c.deferActive := by
  unfold Cycle.finishOpen Cycle.moveTo
  split_ifs <;> rfl

@[simp] theorem Cycle.beginClose_deferActive (c : Cycle) :
    c.beginClose.1.deferActive = c.deferActive := by
  unfold Cycle.beginClose Cycle.moveTo
  split_ifs <;> rfl

@[simp] theorem Cycle.finishClose_deferActive (c : Cycle) :
    c.finishClose.1.deferActive = c.deferActive := by
  unfold Cycle.finishClose Cycle.moveTo
  split_ifs <;> rfl

namespace Thread.Step

variable {sh sh' : Shared} {i : Nat} {t t' : Thread} {sp : Option Thread}

theorem noticed_grows (hs : Thread.Step sh i t sh' t' sp) : ∃ d, sh'.noticed = sh.noticed ++ d := by
  cases hs
  case flushSend s _ _ _ => exact ⟨[s], by simp [Shared.noticed, Dispatch.notice?]⟩
  all_goals exact ⟨[], by simp [Shared.noticed, Dispatch.notice?]⟩

theorem calls (hs : Thread.Step sh i t sh' t' sp) (h : t'.Calls) : t.Calls ∧ t'.body = t.body := by
  cases hs <;> simp_all [Thread.Calls]

theorem body_closeFinish (hs : Thread.Step sh i t sh' t' sp) (h : t'.body = .closeFinish) :
    t.body = .closeFinish := by
  cases hs <;> simp_all

theorem openHook (hs : Thread.Step sh i t sh' t' sp) (h : t'.body = .openHook) :
    t.body = .openHook ∨ (sh.cycle.state = .closed ∧ t' = ⟨none, [.flushAcquire], .openHook⟩ ∧
      sh'.cycle.state = .opening) := by
  cases hs <;> simp_all

theorem state_of_free (hs : Thread.Step sh i t sh' t' sp) (free : t.body.holdsLife = false)
    (reports : ∀ f ∈ t.work, f ≠ .setActive ∧ f ≠ .setError) :
    sh'.cycle.state = sh.cycle.state := by
  cases hs <;> simp_all [Body.holdsLife]

theorem state_of_live (hs : Thread.Step sh i t sh' t' sp) (live : sh.cycle.state ≠ .closed)
    (deferred : sh.cycle.deferActive = true) (finish : t.body ≠ .closeFinish)
    (reports : ∀ f ∈ t.work, f ≠ .setActive ∧ f ≠ .setError) :
    sh'.cycle.state = sh.cycle.state ∨ sh'.cycle.state = .closing := by
  cases hs
  case openBegin accepted => exact absurd accepted.1 live
  case openFinish =>
    left
    simp [deferred]
  all_goals simp_all

theorem deferActive_keep (hs : Thread.Step sh i t sh' t' sp) (live : sh.cycle.state ≠ .closed)
    (h : sh.cycle.deferActive = true) : sh'.cycle.deferActive = true := by
  cases hs
  case openBegin accepted => exact absurd accepted.1 live
  all_goals simp_all [Cycle.deferActivation]

end Thread.Step

theorem Flushing.step {b : Body} {sh sh' : Shared} {i : Nat} {t t' : Thread} {sp : Option Thread}
    (h : Flushing b t) (hb : b = .idle ∨ b = .openHook) (hs : Thread.Step sh i t sh' t' sp) :
    Flushing b t' ∧ sp = none := by
  cases h with
  | waiting =>
    cases hs
    exact ⟨.taking, rfl⟩
  | taking =>
    cases hs
    exact ⟨.sending _, rfl⟩
  | sending batch =>
    cases hs with
    | flushDone => exact ⟨.done, rfl⟩
    | flushSend => exact ⟨.sending _, rfl⟩
  | done => rcases hb with rfl | rfl <;> cases hs

theorem Delivering.body {t : Thread} (h : Delivering t) : t.body = .idle := by
  cases h <;> rfl

theorem Delivering.reports {t : Thread} (h : Delivering t) :
    ∀ f ∈ t.work, f ≠ .setActive ∧ f ≠ .setError := by
  cases h <;> simp

theorem Delivering.step {sh sh' : Shared} {i : Nat} {t t' : Thread} {sp : Option Thread}
    (h : Delivering t) (hs : Thread.Step sh i t sh' t' sp) : Delivering t' ∧ sp = none := by
  cases h with
  | waiting =>
    cases hs
    exact ⟨.checking _, rfl⟩
  | checking =>
    cases hs with
    | deliverDropped => exact ⟨.done, rfl⟩
    | deliverChecked => exact ⟨.sending _, rfl⟩
  | sending =>
    cases hs
    exact ⟨.done, rfl⟩
  | done => cases hs

namespace Machine

theorem step_step (m : Machine) (i : Nat) :
    ((m.threads i).held = none ∧ m.step (.step i) = m) ∨ ∃ sh' t' sp,
      Thread.Step m.shared i (m.threads i) sh' t' sp ∧ m.step (.step i) = m.advance i (sh', t', sp) := by
  simp only [Machine.step]
  split
  case h_1 r hr =>
    obtain ⟨sh', t', sp⟩ := r
    exact .inr ⟨sh', t', sp, Thread.step_of_exec hr, rfl⟩
  case h_2 waits =>
    refine .inl ⟨?_, rfl⟩
    cases held : (m.threads i).held with
    | none => rfl
    | some _ => simp [Thread.exec, held] at waits

/-- No Active notice has reached the callbacks since the cycle's Opening notice, and no Opening or
Active notice is on its way. -/
def Unannounced (m : Machine) : Prop :=
  .opening ∉ m.queue ∧ .active ∉ m.queue ∧ Socket.activeSince m.shared.noticed = false

/-- The callbacks have the Active notice of the cycle, and no Opening notice is on its way. -/
def Announced (m : Machine) : Prop :=
  .opening ∉ m.queue ∧ Socket.activeSince m.shared.noticed = true

variable {m m' : Machine} {e : List LifeState}

theorem Unannounced.flows (h : m.Unannounced) (f : m.Flows m' e) (opening : .opening ∉ e)
    (active : .active ∉ e) : m'.Unannounced := by
  obtain ⟨noOpening, noActive, quiet⟩ := h
  have opening' : .opening ∉ m.queue ++ e := by simp [noOpening, opening]
  have active' : .active ∉ m.queue ++ e := by simp [noActive, active]
  exact ⟨f.not_mem opening', f.not_mem active', (f.activeSince_quiet opening' active').trans quiet⟩

theorem Announced.flows (h : m.Announced) (f : m.Flows m' e) (opening : .opening ∉ e) :
    m'.Announced := by
  have opening' : .opening ∉ m.queue ++ e := by simp [h.1, opening]
  exact ⟨f.not_mem opening', f.activeSince_awake h.2 opening'⟩

end Machine

namespace Consistent

variable {m : Machine} {walk : List LifeState} {i : Nat} {sh' : Shared} {t' : Thread}
  {sp : Option Thread}

theorem advance_flows (h : Consistent m walk) (hs : Thread.Step m.shared i (m.threads i) sh' t' sp) :
    m.Flows (m.advance i (sh', t', sp)) (entered m.shared sh') :=
  h.flows (h.advance hs) (by simpa using hs.noticed_grows)

theorem advance_self (h : Consistent m walk) (hs : Thread.Step m.shared i (m.threads i) sh' t' sp) :
    (m.advance i (sh', t', sp)).threads i = t' := by
  rw [Machine.advance_threads (h.stepping_lt hs), if_pos rfl]

theorem advance_other (h : Consistent m walk) (hs : Thread.Step m.shared i (m.threads i) sh' t' sp)
    {j : Nat} (hj : j < m.spawned) (hji : j ≠ i) : (m.advance i (sh', t', sp)).threads j = m.threads j := by
  rw [Machine.advance_threads (h.stepping_lt hs), if_neg hji, if_neg hj.ne]

theorem advance_started (h : Consistent m walk) (hs : Thread.Step m.shared i (m.threads i) sh' t' sp)
    {j : Nat} (hj : m.spawned ≤ j) :
    (m.advance i (sh', t', sp)).threads j = {} ∨
      (m.advance i (sh', t', sp)).threads j = { body := .laterLock m.shared.cycle.generation } := by
  rw [Machine.advance_threads (h.stepping_lt hs), if_neg (by have := h.stepping_lt hs; omega)]
  split_ifs with hjs
  · cases hsp : sp with
    | none => simp [h.fresh j hj]
    | some u => exact .inr (by simpa using hs.started hsp)
  · exact .inl (h.fresh j hj)

theorem spawn_queue (h : Consistent m walk) (u : Thread) : (m.spawn u).queue = m.queue := by
  unfold Machine.queue Machine.inFlight
  cases hl : m.shared.deliveryLock with
  | none => simp [hl]
  | some j => simp [hl, Function.update_of_ne (h.holder_lt hl).ne]

theorem callLocked (h : Consistent m walk) {tc : TransportCall}
    (quick : tc = .setActive ∨ tc = .setError ∨ tc = .closeAsync) :
    ∃ sh' t' sp, Thread.Step m.shared m.spawned ⟨none, [tc.frame], .idle⟩ sh' t' sp ∧
      (m.step (.call (.transport tc))).step (.step m.spawned) =
        (m.spawn ⟨none, [tc.frame], .idle⟩).advance m.spawned (sh', t', sp) ∧
      Consistent ((m.spawn ⟨none, [tc.frame], .idle⟩).advance m.spawned (sh', t', sp))
        (walk ++ entered m.shared sh') := by
  have exec : ∃ r, (⟨none, [tc.frame], .idle⟩ : Thread).exec m.shared m.spawned = some r := by
    rcases quick with rfl | rfl | rfl <;> simp [Thread.exec, Frame.exec, TransportCall.frame] <;>
      split_ifs <;> simp
  obtain ⟨⟨sh', t', sp⟩, hr⟩ := exec
  have hs := Thread.step_of_exec hr
  refine ⟨sh', t', sp, hs, ?_, ?_⟩
  · simp only [Machine.step, Call.thread, Machine.spawn_threads, Function.update_self,
      Machine.spawn_shared]
    rw [hr]
  · have spawned : Consistent (m.spawn ⟨none, [tc.frame], .idle⟩) walk := h.spawn_free rfl rfl
    exact spawned.advance (by simpa using hs)

theorem queue_eq {m' : Machine} (h : Consistent m walk) (h' : Consistent m' walk)
    (noticed : m'.shared.noticed = m.shared.noticed) : m'.queue = m.queue := by
  have whole := h'.noticed_append_queue
  rw [noticed, ← h.noticed_append_queue] at whole
  exact List.append_cancel_left whole

theorem deferHook (h : Consistent m walk) {i : Nat}
    (at_hook : m.threads i = ⟨none, [], .openHook⟩) :
    (m.step (.hook i [.deferActive] false)).step (.step i) =
        { m with shared := { m.shared with cycle := m.shared.cycle.deferActivation },
                 threads := Function.update m.threads i ⟨none, [], .openFinish⟩ } ∧
      Consistent { m with shared := { m.shared with cycle := m.shared.cycle.deferActivation },
                          threads := Function.update m.threads i ⟨none, [], .openFinish⟩ } walk := by
  have moved : (m.step (.hook i [.deferActive] false)).step (.step i) =
      { m with shared := { m.shared with cycle := m.shared.cycle.deferActivation },
               threads := Function.update m.threads i ⟨none, [], .openFinish⟩ } := by
    simp [Machine.step, Thread.hook, at_hook, Thread.exec, Frame.exec, TransportCall.frame,
      Machine.advance]
  have stepped := (h.step (.hook i [.deferActive] false)).step (.step i)
  rw [moved] at stepped
  exact ⟨moved, by simpa [entered, Machine.step, Cycle.deferActivation] using stepped⟩

theorem advance_noticed_of_holder (h : Consistent m walk)
    (hs : Thread.Step m.shared i (m.threads i) sh' t' sp) {n : Nat} (hni : n ≠ i)
    (held : (m.threads n).held.isSome) : sh'.noticed = m.shared.noticed := by
  have free : (m.threads i).held = none := by
    cases hi : (m.threads i).held with
    | none => rfl
    | some _ =>
      have lock := (h.delivery n).2 held
      exact absurd (h.holder_eq lock (by simp [hi])).symm hni
  exact congrArg (List.filterMap _) (hs.free_step free).1

end Consistent

theorem Machine.spawn_other (m : Machine) (u : Thread) {j : Nat} (hj : j < m.spawned) :
    (m.spawn u).threads j = m.threads j := by
  simp [Function.update_of_ne hj.ne]

theorem Machine.hook_queue (m : Machine) (i : Nat) (calls : List TransportCall) (fails : Bool) :
    (m.step (.hook i calls fails)).queue = m.queue := by
  unfold Machine.queue Machine.inFlight
  simp only [Machine.step]
  cases m.shared.deliveryLock with
  | none => rfl
  | some j =>
    simp only [Function.update_apply]
    split_ifs with hji
    · subst hji
      rw [Thread.batch_congr (Thread.hook_held _ _ _)]
    · rfl

end ChannelMux.Lifecycle

namespace ChannelMux.Socket

open Lifecycle

/-- The stages of a handshake that has not activated the channel: dialing, the dial returned,
connected and not yet activated, or reporting a failure. -/
def Stage.handshaking : Stage → Bool
  | .dialing | .dialed _ | .connected .. | .failing => true
  | _ => false

namespace Client

/-- The activation's call once it moved the channel to `active`. -/
def Announcing (m : Machine) (n : Nat) : Prop :=
  .opening ∉ m.queue ∧ activeSince (m.shared.noticed ++ m.queue) = true ∧
    Flushing .idle (m.threads n) ∧
    (∀ b, (m.threads n).held = some (.flushSend b) → activeSince (m.shared.noticed ++ b) = true) ∧
    ((m.threads n).done = true → activeSince m.shared.noticed = true)

/-- An open between the beginning of its cycle and its hook: the channel is opening, and the
open's flush takes the whole queue, so that nothing is left to hand over once it is done. -/
def Opened (m : Machine) (j : Nat) : Prop :=
  m.shared.cycle.state = .opening ∧ Flushing .openHook (m.threads j) ∧
    (∀ b, (m.threads j).held = some (.flushSend b) → m.shared.pending = []) ∧
    ((m.threads j).held = none → (m.threads j).work = [] → m.queue = [])

/-- The callbacks may be handed a message of the goroutine: they have the Active notice of the
cycle, or the channel is closing. -/
def Awake (m : Machine) : Prop := m.Announced ∨ m.shared.cycle.state = .closing

/-- What each stage of the goroutine keeps. -/
def StageOk (c : Client) : Prop :=
  match c.stage with
  | .idle => True
  | .dialing | .dialed _ | .connected .. =>
    c.waitOn = none ∧ c.machine.Unannounced ∧ (∀ r ∈ c.received, r.run < c.runs) ∧
      (c.machine.shared.cycle.state = .opening ∨ c.machine.shared.cycle.state = .closing)
  | .greeting .. => ∃ n, c.waitOn = some n ∧
    (Announcing c.machine n ∨
      (c.machine.shared.cycle.state = .closing ∧ c.machine.Unannounced ∧
        (∀ r ∈ c.received, r.run < c.runs) ∧ c.machine.threads n = ⟨none, [], .idle⟩))
  | .reading .. | .ended _ | .hangingUp =>
    ∃ n, c.waitOn = some n ∧ Delivering (c.machine.threads n) ∧ Awake c.machine
  | .failing => ∃ n, c.waitOn = some n ∧ Flushing .idle (c.machine.threads n) ∧
    c.machine.Unannounced ∧ (∀ r ∈ c.received, r.run < c.runs) ∧
      (c.machine.shared.cycle.state = .error ∨ c.machine.shared.cycle.state = .closing)
  | .leaving => ∃ n, c.waitOn = some n ∧ Flushing .idle (c.machine.threads n)

/-- A failed open hook reporting its failure: the one transport call made outside the
goroutine. -/
def failedOpen : Thread := ⟨none, [.setError], .unlock⟩

/-- What holds of a client after every run. -/
structure Sound (c : Client) : Prop where
  consistent : ∃ walk, Consistent c.machine walk
  waitOn_lt : ∀ n, c.waitOn = some n → n < c.machine.spawned
  callers : ∀ j, (c.machine.threads j).Calls →
    (c.stage ≠ .idle ∧ c.waitOn = some j) ∨ (c.stage = .idle ∧ c.machine.threads j = failedOpen)
  opened : ∀ j, (c.machine.threads j).body = .openHook → c.stage = .idle ∧ Opened c.machine j
  live : c.stage ≠ .idle → c.machine.shared.cycle.state ≠ .closed ∧
    c.machine.shared.cycle.deferActive = true ∧ ∀ j, (c.machine.threads j).body ≠ .closeFinish
  runs : ∀ r ∈ c.received, r.run ≤ c.runs
  received : ∀ r ∈ c.received, r.announced = true ∨ r.state = .closing
  stage : c.StageOk

section Threads

variable {m : Machine} {walk : List LifeState} {i : Nat} {sh' : Shared} {t' : Thread}
  {sp : Option Thread}

theorem Announcing.step {n : Nat} (ha : Announcing m n) (h : Consistent m walk)
    (hs : Thread.Step m.shared i (m.threads i) sh' t' sp) (hn : n < m.spawned)
    (opening : .opening ∉ entered m.shared sh') : Announcing (m.advance i (sh', t', sp)) n := by
  obtain ⟨noOpening, whole, shape, sending, done⟩ := ha
  have f := h.advance_flows hs
  have opening' : .opening ∉ m.queue ++ entered m.shared sh' := by simp [noOpening, opening]
  have whole' : activeSince ((m.advance i (sh', t', sp)).shared.noticed ++
      (m.advance i (sh', t', sp)).queue) = true := by
    rw [f.whole]
    exact activeSince_append_of_active whole opening
  by_cases hni : n = i
  · -- the flush's own steps: taking the queue brings the Active notice into the batch, and each
    -- state handed over moves from the batch to the callbacks
    subst hni
    refine ⟨f.not_mem opening', whole', ?_⟩
    simp only [h.advance_self hs, Machine.advance_shared]
    generalize ht : m.threads n = t at shape hs sending done
    cases shape <;> cases hs
    case taking.flushTake =>
      have lock : m.shared.deliveryLock = some n := (h.delivery n).2 (by simp [ht])
      have queue : m.queue = m.shared.pending := by
        simp [Machine.queue, Machine.inFlight_of_lock lock, ht, Thread.batch]
      exact ⟨.sending _, by simpa [← queue, Shared.noticed] using whole, by simp [Thread.done]⟩
    case sending.flushSend s batch =>
      refine ⟨.sending _, ?_, by simp [Thread.done]⟩
      simpa [Shared.noticed, Dispatch.notice?] using sending _ rfl
    case sending.flushDone =>
      exact ⟨.done, by simp, fun _ => by simpa [Shared.noticed] using sending _ rfl⟩
    all_goals exact ⟨.taking, by simp, by simp [Thread.done]⟩
  · refine ⟨f.not_mem opening', whole', by simpa [h.advance_other hs hn hni] using shape, ?_, ?_⟩
    · intro b hb
      rw [h.advance_other hs hn hni] at hb
      rw [Machine.advance_shared, h.advance_noticed_of_holder hs hni (by simp [hb])]
      exact sending b hb
    · intro hd
      rw [h.advance_other hs hn hni] at hd
      exact f.activeSince_awake (done hd) opening'

theorem Opened.step {j : Nat} (ho : Opened m j) (h : Consistent m walk)
    (hs : Thread.Step m.shared i (m.threads i) sh' t' sp) (hj : j < m.spawned)
    (reports : i ≠ j → ∀ f ∈ (m.threads i).work, f ≠ .setActive ∧ f ≠ .setError) :
    Opened (m.advance i (sh', t', sp)) j := by
  obtain ⟨opening, shape, sending, done⟩ := ho
  by_cases hji : j = i
  · subst hji
    simp only [Opened, h.advance_self hs, Machine.advance_shared]
    generalize ht : m.threads j = t at shape hs sending done
    cases shape <;> cases hs
    case waiting.flushAcquire => exact ⟨opening, .taking, by simp, by simp⟩
    case taking.flushTake => exact ⟨opening, .sending _, fun _ _ => rfl, by simp⟩
    case sending.flushSend => exact ⟨opening, .sending _, fun _ _ => sending _ rfl, by simp⟩
    case sending.flushDone =>
      refine ⟨opening, .done, by simp, fun _ _ => ?_⟩
      rw [Machine.queue, Machine.inFlight_of_free (by simp)]
      simpa using sending _ rfl
  · have holds : m.shared.lifeLock = some j :=
      (h.life j).2 (by simp [Flushing.body shape, Body.holdsLife])
    have free := h.free_of_other holds (Ne.symm hji)
    have same := hs.state_of_free free (reports (Ne.symm hji))
    have f := h.advance_flows hs
    have still : entered m.shared sh' = [] := by simp [entered, same]
    rw [still] at f
    refine ⟨by simpa [same] using opening, by simpa [h.advance_other hs hj hji] using shape, ?_, ?_⟩
    · intro b hb
      rw [h.advance_other hs hj hji] at hb
      have other : (m.threads i).held = none := by
        cases hi : (m.threads i).held with
        | none => rfl
        | some _ =>
          exact absurd (h.holder_eq ((h.delivery j).2 (by simp [hb])) (by simp [hi])) (Ne.symm hji)
      simpa [(hs.free_step other).2.2.2, still] using sending b hb
    · intro held work
      rw [h.advance_other hs hj hji] at held work
      obtain ⟨d, -, moved⟩ := f
      rw [done held work, List.append_nil] at moved
      exact (List.append_eq_nil_iff.1 moved).2

theorem shape_after {P : Thread → Prop} (h : Consistent m walk)
    (hs : Thread.Step m.shared i (m.threads i) sh' t' sp) {n : Nat} (hn : n < m.spawned)
    (shape : P (m.threads n)) (own : n = i → P t') : P ((m.advance i (sh', t', sp)).threads n) := by
  by_cases hni : n = i
  · subst hni
    rw [h.advance_self hs]
    exact own rfl
  · rw [h.advance_other hs hn hni]
    exact shape

end Threads

theorem mem_receipt {c : Client} {i : Nat} {r : Receipt} (h : r ∈ c.receipt i) :
    ∃ msg, (c.machine.threads i).held = some (.deliverSend msg) ∧
      r = ⟨msg, activeSince c.machine.shared.noticed, c.machine.shared.cycle.state, c.runs⟩ := by
  unfold receipt at h
  split at h
  case h_1 msg held => exact ⟨msg, held, by simpa [Shared.noticed] using h⟩
  case h_2 => simp at h

theorem StageOk.frame {c : Client} {m' : Machine} (h : c.StageOk)
    (shared : m'.shared = c.machine.shared) (queue : m'.queue = c.machine.queue)
    (waiting : ∀ n, c.waitOn = some n → m'.threads n = c.machine.threads n) :
    StageOk { c with machine := m' } := by
  have unannounced : m'.Unannounced ↔ c.machine.Unannounced := by
    simp only [Machine.Unannounced, shared, queue]
  have awake : Awake m' ↔ Awake c.machine := by
    simp only [Awake, Machine.Announced, shared, queue]
  cases hstage : c.stage <;> simp only [StageOk, hstage] at h ⊢
  case dialing | dialed | connected =>
    obtain ⟨none, quiet, runs, state⟩ := h
    exact ⟨none, unannounced.2 quiet, runs, by simpa [shared] using state⟩
  case greeting =>
    obtain ⟨n, hn, announcing | ⟨closing, quiet, runs, done⟩⟩ := h
    · refine ⟨n, hn, .inl ?_⟩
      simpa only [Announcing, shared, queue, waiting n hn] using announcing
    · exact ⟨n, hn, .inr ⟨by simpa [shared] using closing, unannounced.2 quiet, runs,
        by rw [waiting n hn, done]⟩⟩
  case reading | ended | hangingUp =>
    obtain ⟨n, hn, shape, awake'⟩ := h
    exact ⟨n, hn, by rwa [waiting n hn], awake.2 awake'⟩
  case failing =>
    obtain ⟨n, hn, shape, quiet, runs, state⟩ := h
    exact ⟨n, hn, by rwa [waiting n hn], unannounced.2 quiet, runs, by simpa [shared] using state⟩
  case leaving =>
    obtain ⟨n, hn, shape⟩ := h
    exact ⟨n, hn, by rwa [waiting n hn]⟩

theorem waitsAt_eq {t : Thread} {b : Body} (h : waitsAt t b = true) : t = ⟨none, [], b⟩ := by
  obtain ⟨held, work, body⟩ := t
  simp only [waitsAt, Bool.and_eq_true, Option.isNone_iff_eq_none, List.isEmpty_iff,
    beq_iff_eq] at h
  obtain ⟨⟨rfl, rfl⟩, rfl⟩ := h
  rfl

theorem receipt_eq_nil {c : Client} {i : Nat}
    (h : ∀ msg, (c.machine.threads i).held ≠ some (.deliverSend msg)) : c.receipt i = [] := by
  unfold receipt
  split
  case h_1 msg held => exact absurd held (h msg)
  case h_2 => rfl

theorem step_thread (c : Client) (i : Nat) :
    c.step (.step i) =
      { c with machine := c.machine.step (.step i), received := c.received ++ c.receipt i } := rfl

theorem sound_fresh (host : String) : ({ host } : Client).Sound where
  consistent := ⟨[], consistent_init⟩
  waitOn_lt := by simp
  callers := by simp [Thread.Calls]
  opened := by simp
  live := by simp
  runs := by simp
  received := by simp
  stage := by simp [StageOk]

theorem failedOpen_step {sh sh' : Shared} {i : Nat} {t' : Thread} {sp : Option Thread}
    (hs : Thread.Step sh i failedOpen sh' t' sp) : ¬t'.Calls := by
  generalize ht : failedOpen = t at hs
  cases hs <;> simp_all [failedOpen, Thread.Calls]

/-- Before its activation, the goroutine has handed the callbacks nothing of the cycle but its
Opening notice. -/
def Quiet (c : Client) : Prop :=
  c.machine.Unannounced ∧ (∀ r ∈ c.received, r.run < c.runs) ∧
    (c.machine.shared.cycle.state = .opening ∨ c.machine.shared.cycle.state = .closing)

theorem Quiet.flows {c : Client} {m' : Machine} {e : List LifeState} (h : Quiet c) (f : c.machine.Flows m' e)
    (opening : .opening ∉ e) (active : .active ∉ e) :
    m'.Unannounced ∧ ∀ r ∈ c.received, r.run < c.runs :=
  ⟨h.1.flows f opening active, h.2.1⟩

namespace Sound

variable {c : Client} (hc : c.Sound)
include hc

theorem waitOn_shape (hidle : c.stage ≠ .idle) {n : Nat} (hw : c.waitOn = some n) :
    Flushing .idle (c.machine.threads n) ∨ Delivering (c.machine.threads n) := by
  have st := hc.stage
  cases hstage : c.stage <;> simp only [StageOk, hstage] at st hidle
  case idle => exact absurd rfl hidle
  case greeting =>
    obtain ⟨n', hw', announcing | ⟨-, -, -, done⟩⟩ := st <;> rw [hw] at hw' <;> cases hw'
    · exact .inl announcing.2.2.1
    · exact .inl (done ▸ .done)
  case failing =>
    obtain ⟨n', hw', shape, -⟩ := st
    rw [hw] at hw'
    cases hw'
    exact .inl shape
  case leaving =>
    obtain ⟨n', hw', shape⟩ := st
    rw [hw] at hw'
    cases hw'
    exact .inl shape
  case reading | ended | hangingUp =>
    obtain ⟨n', hw', shape, -⟩ := st
    rw [hw] at hw'
    cases hw'
    exact .inr shape
  all_goals simp [hw] at st

theorem waitOn_body (hidle : c.stage ≠ .idle) {n : Nat} (hw : c.waitOn = some n) :
    (c.machine.threads n).body = .idle := by
  rcases hc.waitOn_shape hidle hw with shape | shape
  · exact shape.body
  · exact shape.body

theorem reports (hidle : c.stage ≠ .idle) (i : Nat) :
    ∀ f ∈ (c.machine.threads i).work, f ≠ .setActive ∧ f ≠ .setError := by
  by_cases calls : (c.machine.threads i).Calls
  · rcases hc.callers i calls with ⟨-, hw⟩ | ⟨idle, -⟩
    · rcases hc.waitOn_shape hidle hw with shape | shape
      exacts [shape.reports, shape.reports]
    · exact absurd idle hidle
  · exact Thread.reports_of_not_calls calls

theorem moves (hidle : c.stage ≠ .idle) {i : Nat} {sh' : Shared} {t' : Thread} {sp : Option Thread}
    (hs : Thread.Step c.machine.shared i (c.machine.threads i) sh' t' sp) :
    sh'.cycle.state = c.machine.shared.cycle.state ∨ sh'.cycle.state = .closing := by
  obtain ⟨live, deferred, finish⟩ := hc.live hidle
  exact hs.state_of_live live deferred (finish i) (hc.reports hidle i)

theorem sending_waitOn {i : Nat} {msg : Message}
    (held : (c.machine.threads i).held = some (.deliverSend msg)) :
    c.stage ≠ .idle ∧ c.waitOn = some i := by
  rcases hc.callers i (.inr ⟨msg, .inr held⟩) with ⟨hidle, hw⟩ | ⟨-, failed⟩
  · exact ⟨hidle, hw⟩
  · simp [failed, failedOpen] at held

theorem receipt_nil_of_flushing {i : Nat} (h : c.waitOn = none ∨
      ∃ n, c.waitOn = some n ∧ Flushing .idle (c.machine.threads n)) : c.receipt i = [] := by
  refine receipt_eq_nil fun msg held => ?_
  have hwi := (hc.sending_waitOn held).2
  rcases h with none | ⟨n, hn, shape⟩
  · simp [none] at hwi
  · rw [hn] at hwi
    cases hwi
    exact shape.not_sending msg held

theorem awake_of_sending {i : Nat} {msg : Message}
    (held : (c.machine.threads i).held = some (.deliverSend msg)) : Awake c.machine := by
  obtain ⟨hidle, hwi⟩ := hc.sending_waitOn held
  have st := hc.stage
  cases hstage : c.stage <;> simp only [StageOk, hstage] at st hidle
  case idle => exact absurd rfl hidle
  case greeting =>
    obtain ⟨n, hn, announcing | ⟨-, -, -, done⟩⟩ := st <;> rw [hwi] at hn <;> cases hn
    · exact absurd held (announcing.2.2.1.not_sending msg)
    · simp [done] at held
  case failing =>
    obtain ⟨n, hn, shape, -⟩ := st
    rw [hwi] at hn
    cases hn
    exact absurd held (shape.not_sending msg)
  case leaving =>
    obtain ⟨n, hn, shape⟩ := st
    rw [hwi] at hn
    cases hn
    exact absurd held (shape.not_sending msg)
  case reading | ended | hangingUp =>
    obtain ⟨-, -, -, awake⟩ := st
    exact awake
  all_goals simp [hwi] at st

section Step

variable {walk : List LifeState} {i : Nat} {sh' : Shared} {t' : Thread} {sp : Option Thread}
  (hw : Consistent c.machine walk)
  (hs : Thread.Step c.machine.shared i (c.machine.threads i) sh' t' sp)
  (hidle : c.stage ≠ .idle)
include hw hs hidle

omit hw in
theorem entered_quiet :
    .opening ∉ entered c.machine.shared sh' ∧ .active ∉ entered c.machine.shared sh' := by
  unfold entered
  split_ifs with same
  · simp
  · rcases hc.moves hidle hs with same' | closing
    · exact absurd same' same
    · simp [closing]

theorem unannounced_step (h : c.machine.Unannounced) :
    (c.machine.advance i (sh', t', sp)).Unannounced :=
  h.flows (hw.advance_flows hs) (hc.entered_quiet hs hidle).1 (hc.entered_quiet hs hidle).2

theorem awake_step (h : Awake c.machine) : Awake (c.machine.advance i (sh', t', sp)) := by
  rcases h with announced | closing
  · exact .inl (announced.flows (hw.advance_flows hs) (hc.entered_quiet hs hidle).1)
  · right
    rcases hc.moves hidle hs with same | closing'
    · simpa [same] using closing
    · simpa using closing'

theorem stage_step :
    StageOk { c with machine := c.machine.advance i (sh', t', sp),
                     received := c.received ++ c.receipt i } := by
  have st := hc.stage
  have lt (n : Nat) (hn : c.waitOn = some n) : n < c.machine.spawned := hc.waitOn_lt n hn
  have state := hc.moves hidle hs
  cases hstage : c.stage <;> simp only [StageOk, hstage] at st ⊢
  case dialing | dialed | connected =>
    obtain ⟨none, quiet, runs, opening⟩ := st
    refine ⟨none, hc.unannounced_step hw hs hidle quiet, ?_, ?_⟩
    · simpa [hc.receipt_nil_of_flushing (.inl none)] using runs
    · simp only [Machine.advance_shared]
      rcases state with same | closing <;> simp_all
  case greeting =>
    obtain ⟨n, hn, announcing | ⟨closing, quiet, runs, done⟩⟩ := st
    · exact ⟨n, hn, .inl (announcing.step hw hs (lt n hn) (hc.entered_quiet hs hidle).1)⟩
    · have hni : n ≠ i := by
        rintro rfl
        rw [done] at hs
        cases hs
      have nil : c.receipt i = [] := receipt_eq_nil fun msg held => by
        have hwi := (hc.sending_waitOn held).2
        rw [hn] at hwi
        exact hni (Option.some.inj hwi)
      refine ⟨n, hn, .inr ⟨?_, hc.unannounced_step hw hs hidle quiet, by simpa [nil] using runs, ?_⟩⟩
      · simp only [Machine.advance_shared]
        rcases state with same | closing' <;> simp_all
      · rw [hw.advance_other hs (lt n hn) hni]
        exact done
  case failing =>
    obtain ⟨n, hn, shape, quiet, runs, error⟩ := st
    refine ⟨n, hn, shape_after hw hs (lt n hn) shape fun same => ?_,
      hc.unannounced_step hw hs hidle quiet, ?_, ?_⟩
    · subst same
      exact (shape.step (.inl rfl) hs).1
    · simpa [hc.receipt_nil_of_flushing (.inr ⟨n, hn, shape⟩)] using runs
    · simp only [Machine.advance_shared]
      rcases state with same | closing <;> simp_all
  case leaving =>
    obtain ⟨n, hn, shape⟩ := st
    refine ⟨n, hn, shape_after hw hs (lt n hn) shape fun same => ?_⟩
    subst same
    exact (shape.step (.inl rfl) hs).1
  case reading | ended | hangingUp =>
    obtain ⟨n, hn, shape, awake⟩ := st
    refine ⟨n, hn, shape_after hw hs (lt n hn) shape fun same => ?_,
      hc.awake_step hw hs hidle awake⟩
    subst same
    exact (shape.step hs).1

end Step

theorem advance {walk : List LifeState} {i : Nat} {sh' : Shared} {t' : Thread} {sp : Option Thread}
    (hw : Consistent c.machine walk)
    (hs : Thread.Step c.machine.shared i (c.machine.threads i) sh' t' sp) :
    Sound { c with machine := c.machine.advance i (sh', t', sp),
                   received := c.received ++ c.receipt i } := by
  have hi := hw.stepping_lt hs
  -- every thread after the step: the stepping one, one started before it, or one not started
  have cases' (j : Nat) : j = i ∨ (j < c.machine.spawned ∧ j ≠ i) ∨ c.machine.spawned ≤ j := by
    omega
  have started {j : Nat} (hj : c.machine.spawned ≤ j) :
      (c.machine.advance i (sh', t', sp)).threads j = {} ∨
        (c.machine.advance i (sh', t', sp)).threads j =
          { body := .laterLock c.machine.shared.cycle.generation } := hw.advance_started hs hj
  refine ⟨⟨_, hw.advance hs⟩, ?waitOn, ?callers, ?opened, ?live, ?runs, ?received, ?stage⟩
  case waitOn =>
    intro n hn
    have := hc.waitOn_lt n hn
    cases sp <;> simp <;> omega
  case callers =>
    intro j calls
    dsimp only
    rcases cases' j with rfl | ⟨hj, hji⟩ | hj
    · rw [hw.advance_self hs] at calls ⊢
      rcases hc.callers j (hs.calls calls).1 with waits | ⟨idle, failed⟩
      · exact .inl waits
      · rw [failed] at hs
        exact absurd calls (failedOpen_step hs)
    · rw [hw.advance_other hs hj hji] at calls ⊢
      exact hc.callers j calls
    · rcases started hj with h | h <;> simp [h, Thread.Calls] at calls
  case opened =>
    intro j body
    dsimp only
    rcases cases' j with rfl | ⟨hj, hji⟩ | hj
    · rw [hw.advance_self hs] at body
      rcases hs.openHook body with waiting | ⟨closed, begun, opening⟩
      · obtain ⟨idle, opened⟩ := hc.opened j waiting
        exact ⟨idle, opened.step hw hs hi (fun other => absurd rfl other)⟩
      · have idle : c.stage = .idle := by
          by_contra hidle
          exact (hc.live hidle).1 closed
        refine ⟨idle, ?_⟩
        simp only [Opened, Machine.advance_shared]
        rw [hw.advance_self hs, begun]
        exact ⟨opening, .waiting, by simp, by simp⟩
    · rw [hw.advance_other hs hj hji] at body
      obtain ⟨idle, opened⟩ := hc.opened j body
      refine ⟨idle, opened.step hw hs hj fun hij => ?_⟩
      -- the open holds the life lock, so the stepping thread is not an open reporting its hook
      by_cases calls : (c.machine.threads i).Calls
      · rcases hc.callers i calls with ⟨hidle, -⟩ | ⟨-, failed⟩
        · exact absurd idle hidle
        · have holds : (c.machine.threads i).body.holdsLife = true := by
            simp [failed, failedOpen, Body.holdsLife]
          have holdsJ : (c.machine.threads j).body.holdsLife = true := by
            simp [body, Body.holdsLife]
          exact absurd (hw.holders_eq holds holdsJ) hij
      · exact Thread.reports_of_not_calls calls
    · rcases started hj with h | h <;> simp [h] at body
  case live =>
    intro hidle
    dsimp only
    obtain ⟨live, deferred, finish⟩ := hc.live hidle
    refine ⟨?_, by simpa using hs.deferActive_keep live deferred, fun j => ?_⟩
    · rcases hc.moves hidle hs with same | closing
      · simpa [same] using live
      · simp [closing]
    · rcases cases' j with rfl | ⟨hj, hji⟩ | hj
      · rw [hw.advance_self hs]
        exact fun close => finish j (hs.body_closeFinish close)
      · rw [hw.advance_other hs hj hji]
        exact finish j
      · rcases started hj with h | h <;> simp [h]
  case runs =>
    intro r mem
    rcases List.mem_append.1 mem with old | new
    · exact hc.runs r old
    · obtain ⟨-, -, rfl⟩ := mem_receipt new
      exact le_rfl
  case received =>
    intro r mem
    rcases List.mem_append.1 mem with old | new
    · exact hc.received r old
    · obtain ⟨msg, held, rfl⟩ := mem_receipt new
      rcases hc.awake_of_sending held with announced | closing
      · exact .inl announced.2
      · exact .inr closing
  case stage =>
    by_cases hidle : c.stage = .idle
    · simp [StageOk, hidle]
    · exact hc.stage_step hw hs hidle

theorem frame {m' : Machine} {walk' : List LifeState} (hw : Consistent m' walk')
    (shared : m'.shared = c.machine.shared) (queue : m'.queue = c.machine.queue)
    (grows : c.machine.spawned ≤ m'.spawned)
    (threads : ∀ j, m'.threads j = c.machine.threads j ∨
      (¬(m'.threads j).Calls ∧ (m'.threads j).body ≠ .openHook ∧
        (c.stage ≠ .idle → (m'.threads j).body ≠ .closeFinish ∧ c.waitOn ≠ some j))) :
    Sound { c with machine := m' } := by
  refine ⟨⟨walk', hw⟩, fun n hn => lt_of_lt_of_le (hc.waitOn_lt n hn) grows, ?callers, ?opened,
    ?live, hc.runs, hc.received, ?stage⟩
  case callers =>
    intro j calls
    rcases threads j with same | ⟨inert, -⟩
    · rw [same] at calls ⊢
      exact hc.callers j calls
    · exact absurd calls inert
  case opened =>
    intro j body
    rcases threads j with same | ⟨-, notHook, -⟩
    · rw [same] at body
      obtain ⟨idle, opened⟩ := hc.opened j body
      refine ⟨idle, ?_⟩
      simpa only [Opened, shared, queue, same] using opened
    · exact absurd body notHook
  case live =>
    intro hidle
    obtain ⟨live, deferred, finish⟩ := hc.live hidle
    refine ⟨by simpa [shared] using live, by simpa [shared] using deferred, fun j => ?_⟩
    rcases threads j with same | ⟨-, -, inert⟩
    · rw [same]
      exact finish j
    · exact (inert hidle).1
  case stage =>
    by_cases hidle : c.stage = .idle
    · simp [StageOk, hidle]
    refine hc.stage.frame shared queue fun n hn => ?_
    rcases threads n with same | ⟨-, -, inert⟩
    · exact same
    · exact absurd hn (inert hidle).2

theorem request (r : Request) : (c.step (.request r)).Sound := by
  obtain ⟨walk, hw⟩ := hc.consistent
  change Sound { c with machine := c.machine.spawn r.call.thread }
  have look (j : Nat) : (c.machine.spawn r.call.thread).threads j =
      if j = c.machine.spawned then r.call.thread else c.machine.threads j := by
    simp [Function.update_apply]
  refine hc.frame (hw.spawn r.call) rfl (hw.spawn_queue _) (by simp) fun j => ?_
  rw [look]
  split_ifs with hj
  · right
    subst hj
    refine ⟨?_, ?_, fun _ => ⟨?_, fun hn => (hc.waitOn_lt _ hn).false⟩⟩ <;>
      cases r <;> simp [Request.call, Call.thread, Thread.Calls]
  · exact .inl rfl

theorem postHook (i : Nat) : (c.step (.postHook i)).Sound := by
  obtain ⟨walk, hw⟩ := hc.consistent
  simp only [Client.step]
  split
  case isFalse => exact hc
  case isTrue waits =>
    have hooked : (c.machine.threads i).hook [] false = ⟨none, [], .idle⟩ := by
      rw [waitsAt_eq waits]
      rfl
    refine hc.frame (hw.hook i [] false) rfl (c.machine.hook_queue i [] false) le_rfl fun j => ?_
    simp only [Machine.step, Function.update_apply]
    split_ifs with hj
    · subst hj
      rw [hooked]
      refine .inr ⟨by simp [Thread.Calls], by simp, fun hidle => ⟨by simp, fun hn => ?_⟩⟩
      have idle := hc.waitOn_body hidle hn
      rw [waitsAt_eq waits] at idle
      cases idle
    · exact .inl rfl

theorem closeHook (i : Nat) : (c.step (.closeHook i)).Sound := by
  obtain ⟨walk, hw⟩ := hc.consistent
  simp only [Client.step]
  split
  case isFalse => exact hc
  case isTrue waits =>
    unfold Client.closeHook
    split
    case h_1 idle =>
      have hooked : (c.machine.threads i).hook [] false = ⟨none, [], .closeFinish⟩ := by
        rw [waitsAt_eq waits]
        rfl
      refine hc.frame (hw.hook i [] false) rfl (c.machine.hook_queue i [] false) le_rfl fun j => ?_
      simp only [Machine.step, Function.update_apply]
      split_ifs with hj
      · subst hj
        rw [hooked]
        exact .inr ⟨by simp [Thread.Calls], by simp, fun hidle => absurd idle hidle⟩
      · exact .inl rfl
    case h_2 => exact ⟨hc.consistent, hc.waitOn_lt, hc.callers, hc.opened, hc.live, hc.runs,
      hc.received, hc.stage⟩

theorem restage (hidle : c.stage ≠ .idle) {s : Stage} (hidle' : s ≠ .idle)
    (ok : StageOk { c with stage := s }) : Sound { c with stage := s } := by
  refine ⟨hc.consistent, hc.waitOn_lt, fun j calls => ?_, fun j body => ?_, fun _ => hc.live hidle,
    hc.runs, hc.received, ok⟩
  · rcases hc.callers j calls with ⟨-, hw⟩ | ⟨idle, -⟩
    · exact .inl ⟨hidle', hw⟩
    · exact absurd idle hidle
  · exact absurd (hc.opened j body).1 hidle

omit hc in
theorem done_of_ready (ready : c.ready = true) {n : Nat} (hw : c.waitOn = some n) :
    (c.machine.threads n).done = true := by
  simpa [Client.ready, hw] using ready

theorem returned (hidle : c.stage ≠ .idle) (ready : c.ready = true) (j : Nat) :
    ¬(c.machine.threads j).Calls := by
  intro calls
  rcases hc.callers j calls with ⟨-, hw⟩ | ⟨idle, -⟩
  · obtain ⟨held, work⟩ := Thread.quiet_of_done (done_of_ready ready hw)
    simp [Thread.Calls, held, work] at calls
  · exact hidle idle

theorem toIdle (hidle : c.stage ≠ .idle) (ready : c.ready = true) :
    Sound { c with stage := .idle } := by
  refine ⟨hc.consistent, hc.waitOn_lt, fun j calls => ?_, fun j body => ?_, fun idle => ?_,
    hc.runs, hc.received, by simp [StageOk]⟩
  · exact absurd calls (hc.returned hidle ready j)
  · exact absurd (hc.opened j body).1 hidle
  · exact absurd rfl idle

theorem dial (shake : Shake) : (c.step (.dial shake)).Sound := by
  simp only [Client.step]
  split
  case h_1 dialing =>
    have st := hc.stage
    simp only [StageOk, dialing] at st
    exact hc.restage (by simp [dialing]) (by simp) (by simpa [StageOk] using st)
  case h_2 => exact hc

theorem cut : (c.step .cut).Sound := by
  simp only [Client.step]
  split
  case h_1 frames normal reading =>
    split
    case isTrue =>
      have st := hc.stage
      simp only [StageOk, reading] at st
      exact hc.restage (by simp [reading]) (by simp) (by simpa [StageOk] using st)
    case isFalse => exact hc
  case h_2 => exact hc

omit hc in
theorem others_of_opening {walk : List LifeState} (hw : Consistent c.machine walk) {i j : Nat}
    (at_hook : (c.machine.threads i).body = .openHook) (hji : j ≠ i) :
    c.machine.threads j ≠ failedOpen ∧ (c.machine.threads j).body ≠ .openHook ∧
      (c.machine.threads j).body ≠ .closeFinish := by
  have holds : c.machine.shared.lifeLock = some i :=
    (hw.life i).2 (by simp [at_hook, Body.holdsLife])
  have free := hw.free_of_other holds hji
  refine ⟨fun failed => ?_, fun body => ?_, fun body => ?_⟩ <;>
    simp_all [failedOpen, Body.holdsLife]

theorem openHook (i : Nat) (options : Options) : (c.step (.openHook i options)).Sound := by
  obtain ⟨walk, hw⟩ := hc.consistent
  simp only [Client.step]
  split
  case isFalse => exact hc
  case isTrue waits =>
    have at_hook := waitsAt_eq waits
    obtain ⟨idle, opening, -, -, done⟩ := hc.opened i (by rw [at_hook])
    have queue : c.machine.queue = [] := done (by rw [at_hook]) (by rw [at_hook])
    have others (j : Nat) (hji : j ≠ i) := others_of_opening hw (by rw [at_hook]) hji
    have hi : i < c.machine.spawned := by
      by_contra hle
      simp [hw.fresh i (by omega)] at at_hook
    unfold Client.openHook
    split
    case h_1 refused =>
      -- the open reports the failure of its hook on its own thread
      have hooked : (c.machine.threads i).hook [] true = failedOpen := by
        rw [at_hook]
        rfl
      refine ⟨⟨walk, hw.hook i [] true⟩, hc.waitOn_lt, fun j calls => ?_, fun j body => ?_,
        fun hidle => absurd idle hidle, hc.runs, hc.received, by simp [StageOk, idle]⟩
      · simp only [Machine.step, Function.update_apply] at calls ⊢
        split_ifs at calls ⊢ with hj
        · exact .inr ⟨idle, hooked⟩
        · exact hc.callers j calls
      · simp only [Machine.step, Function.update_apply] at body
        split_ifs at body with hj
        · simp [hooked, failedOpen] at body
        · exact absurd body (others j hj).2.1
    case h_2 accepted =>
      -- the hook defers activation on the open's thread, and a goroutine starts
      obtain ⟨moved, consistent⟩ := hw.deferHook at_hook
      have queue' := (hw.queue_eq consistent rfl).trans queue
      -- the callbacks have the whole walk, which ends with the cycle's Opening notice
      have quiet : activeSince c.machine.shared.noticed = false := by
        have noticed := hw.noticed_append_queue
        rw [queue, List.append_nil] at noticed
        rw [noticed]
        exact activeSince_of_last (opening ▸ hw.last)
      have look (j : Nat) (hji : j ≠ i) : Function.update c.machine.threads i
          ⟨none, [], .openFinish⟩ j = c.machine.threads j := Function.update_of_ne hji _ _
      rw [moved]
      refine ⟨⟨walk, consistent⟩, by simp, fun j calls => ?_, fun j body => ?_, fun _ => ?_,
        fun r mem => Nat.le_succ_of_le (hc.runs r mem), hc.received, ?_⟩
      · dsimp only at calls
        by_cases hji : j = i
        · subst hji
          simp [Thread.Calls] at calls
        · rw [look j hji] at calls
          rcases hc.callers j calls with ⟨hidle, -⟩ | ⟨-, failed⟩
          · exact absurd idle hidle
          · exact absurd failed (others j hji).1
      · dsimp only at body
        by_cases hji : j = i
        · subst hji
          simp at body
        · rw [look j hji] at body
          exact absurd body (others j hji).2.1
      · refine ⟨by simp [opening], by simp [Cycle.deferActivation], fun j => ?_⟩
        dsimp only
        by_cases hji : j = i
        · subst hji
          simp
        · rw [look j hji]
          exact (others j hji).2.2
      · exact ⟨rfl, ⟨by simp [queue'], by simp [queue'], by simpa [Shared.noticed] using quiet⟩,
          fun r mem => Nat.lt_succ_of_le (hc.runs r mem), .inl (by simp [opening])⟩

theorem madeCall (hidle : c.stage ≠ .idle) (ready : c.ready = true) {m' : Machine}
    {walk' : List LifeState} {s : Stage} (hw' : Consistent m' walk')
    (spawned : c.machine.spawned < m'.spawned)
    (before : ∀ j < c.machine.spawned, m'.threads j = c.machine.threads j)
    (after : ∀ j, c.machine.spawned < j → ¬(m'.threads j).Calls ∧
      (m'.threads j).body ≠ .openHook ∧ (m'.threads j).body ≠ .closeFinish)
    (own : (m'.threads c.machine.spawned).body = .idle)
    (quiet : s = .idle → ¬(m'.threads c.machine.spawned).Calls)
    (live : s ≠ .idle → m'.shared.cycle.state ≠ .closed ∧ m'.shared.cycle.deferActive = true)
    (ok : StageOk { c with machine := m', waitOn := some c.machine.spawned, stage := s }) :
    Sound { c with machine := m', waitOn := some c.machine.spawned, stage := s } := by
  have cases' (j : Nat) : j < c.machine.spawned ∨ j = c.machine.spawned ∨ c.machine.spawned < j := by
    omega
  refine ⟨⟨walk', hw'⟩, fun n hn => ?_, fun j calls => ?_, fun j body => ?_, fun hs => ?_, hc.runs,
    hc.received, ok⟩
  · obtain rfl : c.machine.spawned = n := Option.some.inj hn
    exact spawned
  · dsimp only at calls ⊢
    rcases cases' j with hj | rfl | hj
    · rw [before j hj] at calls
      exact absurd calls (hc.returned hidle ready j)
    · by_cases idle : s = .idle
      · exact absurd calls (quiet idle)
      · exact .inl ⟨idle, rfl⟩
    · exact absurd calls (after j hj).1
  · dsimp only at body
    rcases cases' j with hj | rfl | hj
    · rw [before j hj] at body
      exact absurd (hc.opened j body).1 hidle
    · rw [own] at body
      cases body
    · exact absurd body (after j hj).2.1
  · obtain ⟨state, deferred⟩ := live hs
    refine ⟨state, deferred, fun j => ?_⟩
    dsimp only
    rcases cases' j with hj | rfl | hj
    · rw [before j hj]
      exact (hc.live hidle).2.2 j
    · rw [own]
      simp
    · exact (after j hj).2.2

theorem delivers (hidle : c.stage ≠ .idle) (ready : c.ready = true) (awake : Awake c.machine)
    (msg : Message) {s : Stage}
    (hs : (∃ frames normal, s = .reading frames normal) ∨ (∃ normal, s = .ended normal) ∨
      s = .hangingUp) :
    Sound { c.call (.deliver msg) with stage := s } := by
  obtain ⟨walk, hw⟩ := hc.consistent
  have hidle' : s ≠ .idle := by
    rcases hs with ⟨_, _, rfl⟩ | ⟨_, rfl⟩ | rfl <;> simp
  have own : (c.machine.spawn ⟨none, [.deliverAcquire msg], .idle⟩).threads c.machine.spawned =
      ⟨none, [.deliverAcquire msg], .idle⟩ := by
    simp
  have queue := hw.spawn_queue ⟨none, [.deliverAcquire msg], .idle⟩
  change Sound { c with machine := c.machine.spawn ⟨none, [.deliverAcquire msg], .idle⟩,
                        waitOn := some c.machine.spawned, stage := s }
  refine hc.madeCall hidle ready (hw.spawn_free rfl rfl) (by simp)
    (fun j hj => Machine.spawn_other _ _ hj) (fun j hj => ?_) (by rw [own])
    (fun idle => absurd idle hidle') (fun _ => ⟨(hc.live hidle).1, (hc.live hidle).2.1⟩) ?_
  · have fresh : (c.machine.spawn ⟨none, [.deliverAcquire msg], .idle⟩).threads j = {} := by
      simpa [Function.update_of_ne (Nat.ne_of_gt hj)] using hw.fresh j (by omega)
    simp [fresh, Thread.Calls]
  · have awake' : Awake (c.machine.spawn ⟨none, [.deliverAcquire msg], .idle⟩) := by
      simpa only [Awake, Machine.Announced, queue, Machine.spawn_shared] using awake
    rcases hs with ⟨_, _, rfl⟩ | ⟨_, rfl⟩ | rfl <;>
      exact ⟨_, rfl, by rw [own]; exact .waiting msg, awake'⟩

theorem locked (hidle : c.stage ≠ .idle) (ready : c.ready = true) {tc : TransportCall}
    (quick : tc = .setActive ∨ tc = .setError ∨ tc = .closeAsync) {s : Stage}
    (ok : ∀ sh' t' sp,
      Thread.Step c.machine.shared c.machine.spawned ⟨none, [tc.frame], .idle⟩ sh' t' sp →
      ∀ m' : Machine, m'.threads c.machine.spawned = t' → m'.shared = sh' →
        c.machine.Flows m' (entered c.machine.shared sh') →
        StageOk { c with machine := m', waitOn := some c.machine.spawned, stage := s }) :
    Sound { c.callLocked tc with stage := s } := by
  obtain ⟨walk, hw⟩ := hc.consistent
  obtain ⟨sh', t', sp, step, moved, hw'⟩ := hw.callLocked quick
  have spawned : Consistent (c.machine.spawn ⟨none, [tc.frame], .idle⟩) walk :=
    hw.spawn_free rfl rfl
  have step' : Thread.Step (c.machine.spawn ⟨none, [tc.frame], .idle⟩).shared c.machine.spawned
      ((c.machine.spawn ⟨none, [tc.frame], .idle⟩).threads c.machine.spawned) sh' t' sp := by
    simpa using step
  have first : (t' = ⟨none, [.flushAcquire], .idle⟩ ∨ t' = ⟨none, [], .idle⟩) ∧
      sh'.cycle.state ≠ .closed ∧ sh'.cycle.deferActive = true := by
    obtain ⟨state, deferred, -⟩ := hc.live hidle
    rcases quick with rfl | rfl | rfl <;> cases step
    case setActive opening => exact ⟨.inl rfl, by simp [Cycle.activate, opening], by simp [deferred]⟩
    case setError live =>
      refine ⟨.inl rfl, ?_, by simp [deferred]⟩
      rcases live with live | live <;> simp [Cycle.fail, live]
    all_goals simp [state, deferred]
  have own := spawned.advance_self step'
  change Sound { c with machine := (c.machine.step (.call (.transport tc))).step (.step c.machine.spawned),
                        waitOn := some c.machine.spawned, stage := s }
  rw [moved]
  have grows : c.machine.spawned <
      ((c.machine.spawn ⟨none, [tc.frame], .idle⟩).advance c.machine.spawned (sh', t', sp)).spawned := by
    cases sp <;>
      simp only [Machine.advance_none_spawned, Machine.advance_some_spawned, Machine.spawn_spawned] <;>
      omega
  refine hc.madeCall hidle ready hw' grows (fun j hj => ?_)
    (fun j hj => ?_) (by rcases first.1 with rfl | rfl <;> rw [own]) (fun _ => ?_)
    (fun _ => by simpa using first.2) (ok sh' t' sp step _ own (by simp) ?_)
  · rw [spawned.advance_other step' (show j < c.machine.spawned + 1 by omega) hj.ne]
    exact Machine.spawn_other _ _ hj
  · rcases spawned.advance_started step' (show c.machine.spawned + 1 ≤ j by omega) with
      fresh | later <;> simp [*, Thread.Calls]
  · rw [own]
    rcases first.1 with rfl | rfl <;> simp [Thread.Calls]
  · obtain ⟨d, noticed, moved⟩ := spawned.advance_flows step'
    exact ⟨d, by simpa using noticed, by rwa [hw.spawn_queue] at moved⟩

section Stages

variable {status : Int} {header : HeaderMap} {frames : List ByteArray} {normal : Bool}

theorem activates (hidle : c.stage ≠ .idle) (ready : c.ready = true) (quiet : Quiet c) :
    Sound { c.callLocked .setActive with stage := .greeting status header frames normal } := by
  refine hc.locked hidle ready (.inl rfl) fun sh' t' sp step m' own shared flows => ?_
  cases step
  case setActive opening =>
    have e : entered c.machine.shared (c.machine.shared.move Cycle.activate) = [.active] := by
      simp [entered, Cycle.activate, opening]
    rw [e] at flows
    refine ⟨_, rfl, .inl ⟨flows.not_mem (by simp [quiet.1.1]),
      by rw [flows.whole, activeSince_append_active],
      by rw [own]; exact .waiting, fun b held => ?_, fun done => ?_⟩⟩
    · rw [own] at held
      cases held
    · rw [own] at done
      simp [Thread.done] at done
  case setActiveIgnored other =>
    have closing : c.machine.shared.cycle.state = .closing := quiet.2.2.resolve_left other
    obtain ⟨unannounced, runs⟩ := quiet.flows flows (by simp [entered]) (by simp [entered])
    exact ⟨_, rfl, .inr ⟨by rw [shared]; exact closing, unannounced, runs, own⟩⟩

theorem reportsFailure (hidle : c.stage ≠ .idle) (ready : c.ready = true) (quiet : Quiet c) :
    Sound { c.callLocked .setError with stage := .failing } := by
  refine hc.locked hidle ready (.inr (.inl rfl)) fun sh' t' sp step m' own shared flows => ?_
  cases step
  case setError live =>
    have e : entered c.machine.shared (c.machine.shared.move Cycle.fail) = [.error] := by
      rcases live with live | live <;> simp [entered, Cycle.fail, live]
    rw [e] at flows
    obtain ⟨unannounced, runs⟩ := quiet.flows flows (by simp) (by simp)
    refine ⟨_, rfl, by rw [own]; exact .waiting, unannounced, runs, .inl ?_⟩
    rw [shared]
    rcases live with live | live <;> simp [Cycle.fail, live]
  case setErrorIgnored other =>
    obtain ⟨unannounced, runs⟩ := quiet.flows flows (by simp [entered]) (by simp [entered])
    refine ⟨_, rfl, by rw [own]; exact .done, unannounced, runs, .inr ?_⟩
    rw [shared]
    exact quiet.2.2.resolve_left fun opening => other (.inl opening)

theorem reportsBreak (hidle : c.stage ≠ .idle) (ready : c.ready = true) :
    Sound { c.callLocked .setError with stage := .leaving } := by
  refine hc.locked hidle ready (.inr (.inl rfl)) fun sh' t' sp step m' own shared flows => ?_
  cases step
  case setError => exact ⟨_, rfl, by rw [own]; exact .waiting⟩
  case setErrorIgnored => exact ⟨_, rfl, by rw [own]; exact .done⟩

theorem awake_of_greeting (hst : c.stage = .greeting status header frames normal)
    (ready : c.ready = true) : Awake c.machine := by
  have st := hc.stage
  simp only [StageOk, hst] at st
  obtain ⟨n, hw, announcing | ⟨closing, -⟩⟩ := st
  · exact .inl ⟨announcing.1, announcing.2.2.2.2 (done_of_ready ready hw)⟩
  · exact .inr closing

end Stages

theorem proceed (ready : c.ready = true) : c.advance.Sound := by
  have st := hc.stage
  cases hst : c.stage with
  | idle | dialing => simpa [Client.advance, hst] using hc
  | dialed shake =>
    have hidle : c.stage ≠ .idle := by simp [hst]
    simp only [StageOk, hst] at st
    have quiet : Quiet c := st.2
    cases shake with
    | accepted status header frames normal =>
      simp only [Client.advance, hst]
      split
      · exact hc.toIdle hidle ready
      · exact hc.restage hidle (by simp) (by simpa [StageOk] using st)
    | rejected | failed =>
      simp only [Client.advance, hst]
      split
      · exact hc.toIdle hidle ready
      · exact hc.reportsFailure hidle ready quiet
  | connected status header frames normal =>
    simp only [StageOk, hst] at st
    simp only [Client.advance, hst]
    exact hc.activates (by simp [hst]) ready st.2
  | greeting status header frames normal =>
    simp only [Client.advance, hst]
    exact hc.delivers (by simp [hst]) ready (hc.awake_of_greeting hst ready) _ (.inl ⟨_, _, rfl⟩)
  | reading frames normal =>
    simp only [StageOk, hst] at st
    obtain ⟨n, hw, delivering, awake⟩ := st
    cases frames with
    | nil =>
      simp only [Client.advance, hst]
      exact hc.restage (by simp [hst]) (by simp) ⟨n, hw, delivering, awake⟩
    | cons f rest =>
      simp only [Client.advance, hst]
      exact hc.delivers (by simp [hst]) ready awake _ (.inl ⟨_, _, rfl⟩)
  | ended normal =>
    have hidle : c.stage ≠ .idle := by simp [hst]
    simp only [StageOk, hst] at st
    obtain ⟨n, hw, -, awake⟩ := st
    simp only [Client.advance, hst]
    split
    · exact hc.toIdle hidle ready
    · split
      · exact hc.delivers hidle ready awake _ (.inr (.inr rfl))
      · exact hc.reportsBreak hidle ready
  | hangingUp =>
    simp only [Client.advance, hst]
    exact hc.locked (by simp [hst]) ready (.inr (.inr rfl)) fun _ _ _ _ _ _ _ _ => trivial
  | failing | leaving =>
    simp only [Client.advance, hst]
    exact hc.toIdle (by simp [hst]) ready

theorem stepThread (i : Nat) : (c.step (.step i)).Sound := by
  obtain ⟨walk, hw⟩ := hc.consistent
  rw [step_thread]
  rcases c.machine.step_step i with ⟨free, same⟩ | ⟨sh', t', sp, hs, moved⟩
  · have nil : c.receipt i = [] := receipt_eq_nil fun msg held => by simp [free] at held
    rw [same, nil, List.append_nil]
    exact hc
  · rw [moved]
    exact hc.advance hw hs

theorem step (e : ClientEvent) : (c.step e).Sound := by
  cases e with
  | request r => exact hc.request r
  | step i => exact hc.stepThread i
  | openHook i options => exact hc.openHook i options
  | closeHook i => exact hc.closeHook i
  | postHook i => exact hc.postHook i
  | dial shake => exact hc.dial shake
  | run =>
    simp only [Client.step]
    split
    case isTrue ready => exact hc.proceed ready
    case isFalse => exact hc
  | cut => exact hc.cut

omit hc in
theorem run (hc : c.Sound) (es : List ClientEvent) : (c.run es).Sound := by
  induction es generalizing c with
  | nil => exact hc
  | cons e es ih => exact ih (hc.step e)

end Sound

/-- What the callbacks of a socket client have seen. Every message the goroutine handed them came
after the Active notice of its open cycle, or while the channel was closing. -/
structure Kept (c : Client) : Prop where
  received : ∀ r ∈ c.received, r.announced = true ∨ r.state = .closing
  handshaking : c.stage.handshaking = true →
    activeSince c.machine.shared.noticed = false ∧ .active ∉ c.machine.queue ∧
      ∀ r ∈ c.received, r.run < c.runs
  failed : c.stage = .failing →
    c.machine.shared.cycle.state = .error ∨ c.machine.shared.cycle.state = .closing

theorem Sound.kept {c : Client} (hc : c.Sound) : c.Kept := by
  have st := hc.stage
  refine ⟨hc.received, fun hs => ?_, fun hs => ?_⟩
  · cases hst : c.stage <;> simp [Stage.handshaking, hst] at hs <;> simp only [StageOk, hst] at st
    case dialing | dialed | connected =>
      obtain ⟨-, ⟨-, active, quiet⟩, runs, -⟩ := st
      exact ⟨quiet, active, runs⟩
    case failing =>
      obtain ⟨-, -, -, ⟨-, active, quiet⟩, runs, -⟩ := st
      exact ⟨quiet, active, runs⟩
  · simp only [StageOk, hs] at st
    obtain ⟨-, -, -, -, -, failed⟩ := st
    exact failed

/-- Over every run of a socket client, the callbacks see what `Kept` says. -/
theorem handshake_keeps_notice_order (host : String) (es : List ClientEvent) :
    (({ host } : Client).run es).Kept :=
  ((sound_fresh host).run es).kept

/-- A close between the context check and the activation: the Connect reaches the callbacks with no
Active notice in its cycle. -/
theorem connect_without_activation :
    let c := ({ host := "peer" } : Client).run
      [.request (.open true), .step 0, .step 0, .step 0, .step 0, .step 0, .step 0,
       .openHook 0 Options.empty, .step 0, .step 0, .step 0, .step 0, .step 0,
       .dial (.accepted 101 ⟨[]⟩ [] true), .run,
       .request .close, .step 1, .step 1, .step 1, .step 1, .step 1, .step 1,
       .run, .run, .step 3, .step 3, .step 3, .closeHook 1, .cut, .run, .closeHook 1,
       .step 1, .step 1, .step 1, .step 1, .step 1, .step 1, .step 1]
    c.machine.shared.noticed = [.opening, .closing, .closed] ∧
      c.received.map (fun r => (r.message.msgId, r.announced, r.state)) =
        [(connectId, false, .closing)] := by
  decide

end Client

end ChannelMux.Socket
