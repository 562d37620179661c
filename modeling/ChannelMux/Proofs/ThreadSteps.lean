import ChannelMux.Lifecycle.Threads

/-! The steps of one thread of a channel, and what each of them does to the shared record. -/

namespace ChannelMux.Lifecycle

/-- The edges of the lifecycle: a channel is opened, becomes active or fails, is closed from any
state it can be open in, and finishes closing. -/
inductive Moves : LifeState → LifeState → Prop
  | open : Moves .closed .opening
  | activate : Moves .opening .active
  | failOpening : Moves .opening .error
  | failActive : Moves .active .error
  | closeOpening : Moves .opening .closing
  | closeActive : Moves .active .closing
  | closeError : Moves .error .closing
  | finish : Moves .closing .closed

namespace Moves

variable {a : LifeState}

@[simp] theorem into_closed : Moves a .closed ↔ a = .closing := by
  constructor
  · rintro ⟨⟩; rfl
  · rintro rfl; exact .finish

@[simp] theorem into_opening : Moves a .opening ↔ a = .closed := by
  constructor
  · rintro ⟨⟩; rfl
  · rintro rfl; exact .open

@[simp] theorem into_active : Moves a .active ↔ a = .opening := by
  constructor
  · rintro ⟨⟩; rfl
  · rintro rfl; exact .activate

@[simp] theorem into_error : Moves a .error ↔ a = .opening ∨ a = .active := by
  constructor
  · rintro ⟨⟩ <;> simp
  · rintro (rfl | rfl)
    exacts [.failOpening, .failActive]

@[simp] theorem into_closing : Moves a .closing ↔ a = .opening ∨ a = .active ∨ a = .error := by
  constructor
  · rintro ⟨⟩ <;> simp
  · rintro (rfl | rfl | rfl)
    exacts [.closeOpening, .closeActive, .closeError]

theorem ne {a b : LifeState} (h : Moves a b) : a ≠ b := by
  cases h <;> decide

end Moves

/-- Whether a thread at this point of its body holds the life lock. -/
def Body.holdsLife : Body → Bool
  | .openBegin _ | .openHook | .openFinish | .closeBegin | .closeHook | .closeFinish | .unlock
  | .laterCheck _ => true
  | _ => false

/-- Whether a thread is in the middle of a close, between beginning and finishing it. -/
def Body.closing : Body → Bool
  | .closeHook | .closeFinish => true
  | _ => false

theorem Body.holdsLife_of_closing {b : Body} (h : b.closing = true) : b.holdsLife = true := by
  cases b <;> simp_all [Body.closing, Body.holdsLife]

namespace Thread

/-- The states a thread has taken from the queue and not dispatched yet. -/
def batch (t : Thread) : List LifeState :=
  match t.held with
  | some (.flushSend b) => b
  | _ => []

/-- A thread is on its way to take the state queue: it holds the delivery lock to take it, or has
a flush waiting for that lock. -/
def AwaitsTake (t : Thread) : Prop := t.held = some .flushTake ∨ .flushAcquire ∈ t.work

theorem batch_of_free {t : Thread} (h : t.held = none) : t.batch = [] := by
  simp [batch, h]

theorem batch_congr {t u : Thread} (h : u.held = t.held) : u.batch = t.batch := by
  simp [batch, h]

theorem quiet_of_done {t : Thread} (h : t.done = true) : t.held = none ∧ t.work = [] := by
  simp only [done, Bool.and_eq_true, Option.isNone_iff_eq_none, List.isEmpty_iff] at h
  exact ⟨h.1.1, h.1.2⟩

end Thread

/-- The steps a thread can take, one case for each branch of its code. -/
inductive Thread.Step (sh : Shared) (i : Nat) : Thread → Shared → Thread → Option Thread → Prop
  | flushTake {w b} :
      Thread.Step sh i ⟨some .flushTake, w, b⟩ { sh with pending := [] }
        ⟨some (.flushSend sh.pending), w, b⟩ none
  | flushDone {w b} :
      Thread.Step sh i ⟨some (.flushSend []), w, b⟩ { sh with deliveryLock := none } ⟨none, w, b⟩ none
  | flushSend {s batch w b} :
      Thread.Step sh i ⟨some (.flushSend (s :: batch)), w, b⟩ { sh with log := sh.log ++ [.notice s] }
        ⟨some (.flushSend batch), w, b⟩ none
  | deliverDropped {m w b} (closed : sh.cycle.state = .closed) :
      Thread.Step sh i ⟨some (.deliverState m), w, b⟩ { sh with deliveryLock := none } ⟨none, w, b⟩
        none
  | deliverChecked {m w b} (live : ¬sh.cycle.state = .closed) :
      Thread.Step sh i ⟨some (.deliverState m), w, b⟩ sh ⟨some (.deliverSend m), w, b⟩ none
  | deliverSend {m w b} :
      Thread.Step sh i ⟨some (.deliverSend m), w, b⟩
        { sh with log := sh.log ++ [.delivered m], deliveryLock := none } ⟨none, w, b⟩ none
  | flushAcquire {rest b} (free : sh.deliveryLock = none) :
      Thread.Step sh i ⟨none, .flushAcquire :: rest, b⟩ { sh with deliveryLock := some i }
        ⟨some .flushTake, rest, b⟩ none
  | setActive {rest b} (opening : sh.cycle.state = .opening) :
      Thread.Step sh i ⟨none, .setActive :: rest, b⟩ (sh.move Cycle.activate)
        ⟨none, .flushAcquire :: rest, b⟩ none
  | setActiveIgnored {rest b} (other : ¬sh.cycle.state = .opening) :
      Thread.Step sh i ⟨none, .setActive :: rest, b⟩ sh ⟨none, rest, b⟩ none
  | setError {rest b} (live : sh.cycle.state = .opening ∨ sh.cycle.state = .active) :
      Thread.Step sh i ⟨none, .setError :: rest, b⟩ (sh.move Cycle.fail)
        ⟨none, .flushAcquire :: rest, b⟩ none
  | setErrorIgnored {rest b} (other : ¬(sh.cycle.state = .opening ∨ sh.cycle.state = .active)) :
      Thread.Step sh i ⟨none, .setError :: rest, b⟩ sh ⟨none, rest, b⟩ none
  | deferActive {rest b} :
      Thread.Step sh i ⟨none, .deferActive :: rest, b⟩ { sh with cycle := sh.cycle.deferActivation }
        ⟨none, rest, b⟩ none
  | closeAsync {rest b} :
      Thread.Step sh i ⟨none, .closeAsync :: rest, b⟩ sh ⟨none, rest, b⟩
        (some { body := .laterLock sh.cycle.generation })
  | deliverAcquire {m rest b} (free : sh.deliveryLock = none) :
      Thread.Step sh i ⟨none, .deliverAcquire m :: rest, b⟩ { sh with deliveryLock := some i }
        ⟨some (.deliverState m), rest, b⟩ none
  | openLock {ok} (free : sh.lifeLock = none) :
      Thread.Step sh i ⟨none, [], .openLock ok⟩ { sh with lifeLock := some i }
        ⟨none, [], .openBegin ok⟩ none
  | openBegin {ok} (accepted : sh.cycle.state = .closed ∧ ok = true) :
      Thread.Step sh i ⟨none, [], .openBegin ok⟩ (sh.move Cycle.beginOpen)
        ⟨none, [.flushAcquire], .openHook⟩ none
  | openRefused {ok} (refused : ¬(sh.cycle.state = .closed ∧ ok = true)) :
      Thread.Step sh i ⟨none, [], .openBegin ok⟩ sh ⟨none, [], .unlock⟩ none
  | openFinish :
      Thread.Step sh i ⟨none, [], .openFinish⟩ (sh.move Cycle.finishOpen)
        ⟨none, [.flushAcquire], .unlock⟩ none
  | closeLock (free : sh.lifeLock = none) :
      Thread.Step sh i ⟨none, [], .closeLock⟩ { sh with lifeLock := some i }
        ⟨none, [], .closeBegin⟩ none
  | closeSkipped (closed : sh.cycle.state = .closed) :
      Thread.Step sh i ⟨none, [], .closeBegin⟩ sh ⟨none, [], .unlock⟩ none
  | closeBegin (live : ¬sh.cycle.state = .closed) :
      Thread.Step sh i ⟨none, [], .closeBegin⟩ (sh.move Cycle.beginClose)
        ⟨none, [.flushAcquire], .closeHook⟩ none
  | closeFinish :
      Thread.Step sh i ⟨none, [], .closeFinish⟩ (sh.move Cycle.finishClose)
        ⟨none, [.flushAcquire], .unlock⟩ none
  | unlock :
      Thread.Step sh i ⟨none, [], .unlock⟩ { sh with lifeLock := none } ⟨none, [], .idle⟩ none
  | laterLock {g} (free : sh.lifeLock = none) :
      Thread.Step sh i ⟨none, [], .laterLock g⟩ { sh with lifeLock := some i }
        ⟨none, [], .laterCheck g⟩ none
  | laterStale {g} (stale : sh.cycle.staleFor g = true) :
      Thread.Step sh i ⟨none, [], .laterCheck g⟩ sh ⟨none, [], .unlock⟩ none
  | laterClose {g} (current : ¬sh.cycle.staleFor g = true) :
      Thread.Step sh i ⟨none, [], .laterCheck g⟩ sh ⟨none, [], .closeBegin⟩ none
  | postAccepted (active : sh.cycle.state = .active) :
      Thread.Step sh i ⟨none, [], .postCheck⟩ sh ⟨none, [], .postHook⟩ none
  | postRefused (other : ¬sh.cycle.state = .active) :
      Thread.Step sh i ⟨none, [], .postCheck⟩ sh ⟨none, [], .idle⟩ none

theorem Thread.step_of_exec {t : Thread} {sh sh' : Shared} {i : Nat} {t' : Thread}
    {spawn : Option Thread} (h : t.exec sh i = some (sh', t', spawn)) :
    Thread.Step sh i t sh' t' spawn := by
  obtain ⟨held, work, body⟩ := t
  -- one goal per branch of `exec`: the turn held, else the first frame, else the body
  rcases held with _ | (_ | ⟨_ | ⟨s, batch⟩⟩ | _ | _)
  case' none => rcases work with _ | ⟨_ | _ | _ | _ | _ | _, rest⟩
  case' none.nil => cases body
  all_goals simp only [Thread.exec, Frame.exec, Held.exec, Body.exec] at h
  all_goals
    (repeat' split at h) <;>
    simp only [Option.map_some, Option.map_none, Option.some.injEq, Prod.mk.injEq, reduceCtorEq,
      List.cons_append, List.nil_append] at h <;>
    obtain ⟨rfl, rfl, rfl⟩ := h <;>
    constructor <;> assumption

/-- A move queues the state it enters, and nothing when the state stays. -/
def Records (f : Cycle → Cycle × List LifeState) : Prop :=
  ∀ c, (f c).2 = if (f c).1.state = c.state then [] else [(f c).1.state]

theorem records_moveTo (s : LifeState) : Records (Cycle.moveTo · s) := by
  intro c
  by_cases h : c.state = s
  · simp [h]
  · simp [h, Ne.symm h]

theorem records_beginOpen : Records Cycle.beginOpen := fun _ => records_moveTo .opening _

theorem records_finishOpen : Records Cycle.finishOpen := by
  intro c
  unfold Cycle.finishOpen
  split
  · exact records_moveTo .active c
  · simp

theorem records_activate : Records Cycle.activate := by
  intro c
  unfold Cycle.activate
  split
  · exact records_moveTo .active c
  · simp

theorem records_fail : Records Cycle.fail := by
  intro c
  unfold Cycle.fail
  split
  · exact records_moveTo .error c
  · simp

theorem records_beginClose : Records Cycle.beginClose := fun _ => records_moveTo .closing _

theorem records_finishClose : Records Cycle.finishClose := fun c => records_moveTo .closed c

/-- The state notices the callbacks have been handed. -/
def Shared.noticed (sh : Shared) : List LifeState := sh.log.filterMap Dispatch.notice?

/-- The state a step entered, if it changed the state. -/
def entered (sh sh' : Shared) : List LifeState :=
  if sh'.cycle.state = sh.cycle.state then [] else [sh'.cycle.state]

theorem move_pending_entered {f : Cycle → Cycle × List LifeState} (hf : Records f) (sh : Shared) :
    (sh.move f).pending = sh.pending ++ entered sh (sh.move f) := by
  rw [Shared.move_pending, hf sh.cycle]
  rfl

namespace Thread.Step

variable {sh sh' : Shared} {i : Nat} {t t' : Thread} {sp : Option Thread}

theorem started (hs : Thread.Step sh i t sh' t' sp) {u : Thread} (h : sp = some u) :
    u = { body := .laterLock sh.cycle.generation } := by
  cases hs <;> simp_all

theorem started_quiet (hs : Thread.Step sh i t sh' t' sp) :
    (sp.getD {}).held = none ∧ (sp.getD {}).work = [] ∧ (sp.getD {}).body.holdsLife = false ∧
      (sp.getD {}).body.closing = false := by
  cases sp with
  | none => simp [Body.holdsLife, Body.closing]
  | some u =>
    obtain rfl := hs.started rfl
    simp [Body.holdsLife, Body.closing]

theorem not_idle (hs : Thread.Step sh i t sh' t' sp) : t ≠ {} := by
  cases hs <;> simp

theorem lifeLock (hs : Thread.Step sh i t sh' t' sp)
    (own : sh.lifeLock = some i ↔ t.body.holdsLife = true) :
    (sh'.lifeLock = some i ↔ t'.body.holdsLife = true) ∧
      ∀ j, j ≠ i → (sh'.lifeLock = some j ↔ sh.lifeLock = some j) := by
  cases hs <;> simp_all [Body.holdsLife] <;> grind

theorem deliveryLock (hs : Thread.Step sh i t sh' t' sp)
    (own : sh.deliveryLock = some i ↔ t.held.isSome) :
    (sh'.deliveryLock = some i ↔ t'.held.isSome) ∧
      ∀ j, j ≠ i → (sh'.deliveryLock = some j ↔ sh.deliveryLock = some j) := by
  cases hs <;> simp_all <;> grind

theorem moves (hs : Thread.Step sh i t sh' t' sp)
    (held : t.body.closing = true → sh.cycle.state = .closing) :
    sh'.cycle.state = sh.cycle.state ∨ Moves sh.cycle.state sh'.cycle.state := by
  cases hs
  case openFinish =>
    simp only [Shared.move_cycle, Cycle.finishOpen_state]
    split <;> simp_all
  all_goals cases h : sh.cycle.state <;> simp_all [Body.closing]

theorem held_step (hs : Thread.Step sh i t sh' t' sp) (h : t.held.isSome) :
    sh'.cycle = sh.cycle ∧ sh'.lifeLock = sh.lifeLock ∧ t'.work = t.work ∧ t'.body = t.body ∧
      sp = none ∧ sh'.noticed ++ t'.batch ++ sh'.pending = sh.noticed ++ t.batch ++ sh.pending := by
  cases hs <;> simp_all [Shared.noticed, Thread.batch, Dispatch.notice?]

theorem free_step (hs : Thread.Step sh i t sh' t' sp) (h : t.held = none) :
    sh'.log = sh.log ∧ t.batch = [] ∧ t'.batch = [] ∧ sh'.pending = sh.pending ++ entered sh sh' := by
  cases hs <;> simp_all [Thread.batch, entered, records_activate sh.cycle, records_fail sh.cycle,
    records_beginOpen sh.cycle, records_finishOpen sh.cycle, records_beginClose sh.cycle,
    records_finishClose sh.cycle]

theorem closing_of_closer (hs : Thread.Step sh i t sh' t' sp)
    (held : t.body.closing = true → sh.cycle.state = .closing) (h : t'.body.closing = true) :
    sh'.cycle.state = .closing := by
  cases hs <;> simp_all [Body.closing]

theorem closing_of_other (hs : Thread.Step sh i t sh' t' sp) (h : sh.cycle.state = .closing)
    (other : t.body.holdsLife = false) : sh'.cycle.state = .closing := by
  cases hs <;> simp_all [Body.holdsLife]

theorem closer_of_closing (hs : Thread.Step sh i t sh' t' sp) (h : sh'.cycle.state = .closing)
    (before : sh.cycle.state ≠ .closing ∨ t.body.closing = true) : t'.body.closing = true := by
  cases hs
  case openFinish =>
    simp only [Shared.move_cycle, Cycle.finishOpen_state] at h
    split at h <;> simp_all [Body.closing]
  all_goals simp_all [Body.closing]

theorem awaits (hs : Thread.Step sh i t sh' t' sp) (h : sh'.pending ≠ []) :
    t'.AwaitsTake ∨ (sh'.pending = sh.pending ∧ ¬t.AwaitsTake) := by
  cases hs <;> simp_all [Thread.AwaitsTake] <;> exact Classical.em _

end Thread.Step

namespace Thread

variable (t : Thread) (calls : List TransportCall) (fails : Bool)

@[simp] theorem hook_held : (t.hook calls fails).held = t.held := by
  obtain ⟨held, work, body⟩ := t
  unfold hook
  split <;> (try split) <;> simp_all

@[simp] theorem hook_holdsLife : (t.hook calls fails).body.holdsLife = t.body.holdsLife := by
  obtain ⟨held, work, body⟩ := t
  unfold hook
  split <;> (try split) <;> simp_all [Body.holdsLife]

@[simp] theorem hook_closing : (t.hook calls fails).body.closing = t.body.closing := by
  obtain ⟨held, work, body⟩ := t
  unfold hook
  split <;> (try split) <;> simp_all [Body.closing]

theorem hook_of_awaits (h : t.AwaitsTake) : t.hook calls fails = t := by
  obtain ⟨held, work, body⟩ := t
  unfold hook
  split <;> simp_all [AwaitsTake]

end Thread

end ChannelMux.Lifecycle
