import ChannelMux.Proofs.ThreadSteps
import Mathlib.Data.List.Chain

/-! The lifecycle of a channel under concurrent callers. -/

namespace ChannelMux.Lifecycle

namespace Machine

/-- The states taken from the queue by the holder of the delivery lock and not dispatched yet. -/
def inFlight (m : Machine) : List LifeState :=
  match m.shared.deliveryLock with
  | some i => (m.threads i).batch
  | none => []

theorem advance_threads {m : Machine} {i : Nat} (hi : i < m.spawned) (sh' : Shared) (t' : Thread)
    (sp : Option Thread) (j : Nat) :
    (m.advance i (sh', t', sp)).threads j =
      if j = i then t' else if j = m.spawned then sp.getD (m.threads j) else m.threads j := by
  cases sp with
  | none => simp [Function.update_apply]
  | some u =>
    simp only [advance_some_threads, Function.update_apply]
    split_ifs <;> first | rfl | omega

theorem inFlight_of_lock {m : Machine} {j : Nat} (h : m.shared.deliveryLock = some j) :
    m.inFlight = (m.threads j).batch := by
  simp [inFlight, h]

theorem inFlight_of_free {m : Machine} (h : m.shared.deliveryLock = none) : m.inFlight = [] := by
  simp [inFlight, h]

theorem changes_cons (m : Machine) (e : Event) (es : List Event) :
    m.changes (e :: es) = entered m.shared (m.step e).shared ++ (m.step e).changes es := rfl

end Machine

theorem walk_extend {walk : List LifeState} {sh sh' : Shared}
    (hc : List.IsChain Moves (.closed :: walk))
    (hl : (LifeState.closed :: walk).getLast? = some sh.cycle.state)
    (hm : sh'.cycle.state = sh.cycle.state ∨ Moves sh.cycle.state sh'.cycle.state) :
    List.IsChain Moves (.closed :: (walk ++ entered sh sh')) ∧
      (LifeState.closed :: (walk ++ entered sh sh')).getLast? = some sh'.cycle.state := by
  unfold entered
  split
  case isTrue h => simpa [h] using And.intro hc hl
  case isFalse h =>
    have hmove : Moves sh.cycle.state sh'.cycle.state := hm.resolve_left h
    rw [← List.cons_append]
    refine ⟨hc.append (List.isChain_singleton _) ?_, List.getLast?_concat ..⟩
    intro x hx y hy
    simp_all

/-- What holds of a channel and its threads after every run from a fresh channel, where `walk` is
the list of the states the run moved the channel into. -/
structure Consistent (m : Machine) (walk : List LifeState) : Prop where
  /-- The walk follows the edges of the lifecycle from `closed` and ends in the current state. -/
  chain : List.IsChain Moves (.closed :: walk)
  last : (LifeState.closed :: walk).getLast? = some m.shared.cycle.state
  /-- Each state of the walk has been noticed, or is in the batch being dispatched, or is queued,
  and in the order of the walk. -/
  account : m.shared.noticed ++ m.inFlight ++ m.shared.pending = walk
  /-- The delivery lock is held by the one thread in a turn under it. -/
  delivery : ∀ j, m.shared.deliveryLock = some j ↔ (m.threads j).held.isSome
  /-- The life lock is held by the one thread inside an open or a close. -/
  life : ∀ j, m.shared.lifeLock = some j ↔ (m.threads j).body.holdsLife = true
  /-- The channel is closing exactly while a thread is in the middle of closing it. -/
  closer : ∀ j, (m.threads j).body.closing = true → m.shared.cycle.state = .closing
  closerExists : m.shared.cycle.state = .closing → ∃ j, (m.threads j).body.closing = true
  /-- Queued states have a thread on its way to take them. -/
  awaited : m.shared.pending ≠ [] → ∃ j, (m.threads j).AwaitsTake
  /-- Threads not started yet are idle. -/
  fresh : ∀ j, m.spawned ≤ j → m.threads j = {}

theorem consistent_init : Consistent {} [] where
  chain := List.isChain_singleton _
  last := rfl
  account := rfl
  delivery _ := by simp
  life _ := by simp [Body.holdsLife]
  closer _ := by simp [Body.closing]
  closerExists := by simp
  awaited := by simp
  fresh _ _ := rfl

namespace Consistent

variable {m : Machine} {walk : List LifeState} {i : Nat} {sh' : Shared} {t' : Thread}
  {sp : Option Thread}

theorem stepping_lt (h : Consistent m walk) (hs : Thread.Step m.shared i (m.threads i) sh' t' sp) :
    i < m.spawned := by
  by_contra hle
  exact hs.not_idle (h.fresh i (by omega))

theorem holder_eq (h : Consistent m walk) {j k : Nat} (hl : m.shared.deliveryLock = some j)
    (held : (m.threads k).held.isSome) : k = j :=
  Option.some.inj (((h.delivery k).2 held).symm.trans hl)

theorem lifeHolder_eq (h : Consistent m walk) {j k : Nat} (hl : m.shared.lifeLock = some j)
    (holds : (m.threads k).body.holdsLife = true) : k = j :=
  Option.some.inj (((h.life k).2 holds).symm.trans hl)

theorem holders_eq (h : Consistent m walk) {j k : Nat} (hj : (m.threads j).body.holdsLife = true)
    (hk : (m.threads k).body.holdsLife = true) : j = k :=
  h.lifeHolder_eq ((h.life k).2 hk) hj

theorem free_of_other (h : Consistent m walk) {j k : Nat} (hl : m.shared.lifeLock = some j)
    (other : k ≠ j) : (m.threads k).body.holdsLife = false := by
  cases holds : (m.threads k).body.holdsLife
  · rfl
  · exact absurd (h.lifeHolder_eq hl holds) other

theorem holder_lt (h : Consistent m walk) {j : Nat} (hl : m.shared.deliveryLock = some j) :
    j < m.spawned := by
  by_contra hle
  simpa [h.fresh j (by omega)] using (h.delivery j).1 hl

section Advance

variable (h : Consistent m walk) (hs : Thread.Step m.shared i (m.threads i) sh' t' sp)
include h hs

theorem advance_delivery (j : Nat) :
    sh'.deliveryLock = some j ↔ ((m.advance i (sh', t', sp)).threads j).held.isSome := by
  have hd := hs.deliveryLock (h.delivery i)
  rw [Machine.advance_threads (h.stepping_lt hs)]
  split_ifs with hji hjs
  · subst hji
    exact hd.1
  · subst hjs
    simp [hd.2 _ hji, h.delivery, hs.started_quiet.1, h.fresh _ le_rfl]
  · rw [hd.2 j hji]
    exact h.delivery j

theorem advance_life (j : Nat) :
    sh'.lifeLock = some j ↔ ((m.advance i (sh', t', sp)).threads j).body.holdsLife = true := by
  have hl := hs.lifeLock (h.life i)
  rw [Machine.advance_threads (h.stepping_lt hs)]
  split_ifs with hji hjs
  · subst hji
    exact hl.1
  · subst hjs
    rw [hl.2 _ hji, h.life, h.fresh _ le_rfl, hs.started_quiet.2.2.1]
    decide
  · rw [hl.2 j hji]
    exact h.life j

theorem advance_fresh (j : Nat) (hj : (m.advance i (sh', t', sp)).spawned ≤ j) :
    (m.advance i (sh', t', sp)).threads j = {} := by
  have hi := h.stepping_lt hs
  rw [Machine.advance_threads hi]
  cases sp with
  | none =>
    simp only [Machine.advance_none_spawned] at hj
    simp [show j ≠ i by omega, h.fresh j hj]
  | some u =>
    simp only [Machine.advance_some_spawned] at hj
    simp [show j ≠ i by omega, show j ≠ m.spawned by omega, h.fresh j (by omega)]

theorem advance_closer (j : Nat) (hj : ((m.advance i (sh', t', sp)).threads j).body.closing = true) :
    sh'.cycle.state = .closing := by
  rw [Machine.advance_threads (h.stepping_lt hs)] at hj
  split_ifs at hj with hji hjs
  · subst hji
    exact hs.closing_of_closer (h.closer j) hj
  · subst hjs
    rw [h.fresh _ le_rfl, hs.started_quiet.2.2.2] at hj
    exact absurd hj Bool.false_ne_true
  · have closing := h.closer j hj
    have holds : m.shared.lifeLock = some j := (h.life j).2 (Body.holdsLife_of_closing hj)
    exact hs.closing_of_other closing (h.free_of_other holds (Ne.symm hji))

theorem advance_closerExists (hc : sh'.cycle.state = .closing) :
    ∃ j, ((m.advance i (sh', t', sp)).threads j).body.closing = true := by
  have hi := h.stepping_lt hs
  by_cases before : m.shared.cycle.state ≠ .closing ∨ (m.threads i).body.closing = true
  · exact ⟨i, by simpa [Machine.advance_threads hi] using hs.closer_of_closing hc before⟩
  · simp only [not_or, not_not, Bool.not_eq_true] at before
    obtain ⟨j, hj⟩ := h.closerExists before.1
    have hji : j ≠ i := by
      rintro rfl
      simp [before.2] at hj
    have hjs : j ≠ m.spawned := by
      rintro rfl
      simp [h.fresh _ le_rfl, Body.closing] at hj
    exact ⟨j, by simpa [Machine.advance_threads hi, hji, hjs] using hj⟩

theorem advance_awaited (hp : sh'.pending ≠ []) :
    ∃ j, ((m.advance i (sh', t', sp)).threads j).AwaitsTake := by
  have hi := h.stepping_lt hs
  rcases hs.awaits hp with now | ⟨same, other⟩
  · exact ⟨i, by simpa [Machine.advance_threads hi] using now⟩
  · obtain ⟨j, hj⟩ := h.awaited (same ▸ hp)
    have hji : j ≠ i := by
      rintro rfl
      exact other hj
    have hjs : j ≠ m.spawned := by
      rintro rfl
      simp [h.fresh _ le_rfl, Thread.AwaitsTake] at hj
    exact ⟨j, by simpa [Machine.advance_threads hi, hji, hjs] using hj⟩

theorem advance_inFlight :
    (m.advance i (sh', t', sp)).inFlight =
      if (m.threads i).held.isSome then t'.batch else m.inFlight := by
  have hd := hs.deliveryLock (h.delivery i)
  have look := Machine.advance_threads (h.stepping_lt hs) sh' t' sp
  split_ifs with held
  · -- the stepping thread keeps the lock, or drops it and its turn with it
    cases hl' : sh'.deliveryLock with
    | none =>
      have free : t'.held = none := by simpa [hl'] using hd.1
      rw [Machine.inFlight_of_free (by simpa using hl'), Thread.batch_of_free free]
    | some j =>
      have hji : j = i := by
        by_contra hji
        exact hji (h.holder_eq ((hd.2 j hji).1 hl') held).symm
      subst hji
      rw [Machine.inFlight_of_lock (by simpa using hl'), look, if_pos rfl]
  · have free : (m.threads i).held = none := by simpa using held
    cases hl : m.shared.deliveryLock with
    | none =>
      -- the stepping thread may take the free lock, with nothing taken from the queue yet
      rw [Machine.inFlight_of_free hl]
      cases hl' : sh'.deliveryLock with
      | none => exact Machine.inFlight_of_free (by simpa using hl')
      | some j =>
        have hji : j = i := by
          by_contra hji
          simp [(hd.2 j hji).1 hl'] at hl
        subst hji
        rw [Machine.inFlight_of_lock (by simpa using hl'), look, if_pos rfl,
          (hs.free_step free).2.2.1]
    | some j =>
      have hji : j ≠ i := fun same => held (same ▸ (h.delivery j).1 hl)
      have hjs : j ≠ m.spawned := (h.holder_lt hl).ne
      have kept : (m.advance i (sh', t', sp)).shared.deliveryLock = some j := by
        simpa using (hd.2 j hji).2 hl
      rw [Machine.inFlight_of_lock hl, Machine.inFlight_of_lock kept, look, if_neg hji, if_neg hjs]

theorem advance_account :
    sh'.noticed ++ (m.advance i (sh', t', sp)).inFlight ++ sh'.pending =
      walk ++ entered m.shared sh' := by
  rw [← h.account, h.advance_inFlight hs]
  split_ifs with held
  · obtain ⟨cycle, -, -, -, -, moved⟩ := hs.held_step held
    have entered_nil : entered m.shared sh' = [] := by simp [entered, cycle]
    rw [Machine.inFlight_of_lock ((h.delivery i).2 held), entered_nil, List.append_nil]
    exact moved
  · obtain ⟨log, -, -, pending⟩ := hs.free_step (by simpa using held)
    simp [Shared.noticed, log, pending]

theorem advance : Consistent (m.advance i (sh', t', sp)) (walk ++ entered m.shared sh') := by
  obtain ⟨chain, last⟩ := walk_extend h.chain h.last (hs.moves (h.closer i))
  exact {
    chain := chain
    last := by simpa using last
    account := by simpa using h.advance_account hs
    delivery := by simpa using h.advance_delivery hs
    life := by simpa using h.advance_life hs
    closer := by simpa using h.advance_closer hs
    closerExists := by simpa using h.advance_closerExists hs
    awaited := by simpa using h.advance_awaited hs
    fresh := h.advance_fresh hs }

end Advance

theorem update (h : Consistent m walk) {k n : Nat} {u : Thread} (hn : m.spawned ≤ n) (hk : k < n)
    (held : u.held = (m.threads k).held) (life : u.body.holdsLife = (m.threads k).body.holdsLife)
    (closing : u.body.closing = (m.threads k).body.closing)
    (awaits : (m.threads k).AwaitsTake → u = m.threads k) :
    Consistent { m with threads := Function.update m.threads k u, spawned := n } walk := by
  have look (j : Nat) : Function.update m.threads k u j = if j = k then u else m.threads j := by
    simp [Function.update_apply]
  refine ⟨h.chain, h.last, ?account, ?delivery, ?life, ?closer, ?closerExists, ?awaited, ?fresh⟩
  case account =>
    rw [← h.account]
    simp only [Machine.inFlight, look]
    split <;> (try split_ifs with hjk) <;> simp_all [Thread.batch_congr held]
  case delivery =>
    intro j
    simp only [look]
    split_ifs with hjk
    · subst hjk
      rw [held]
      exact h.delivery j
    · exact h.delivery j
  case life =>
    intro j
    simp only [look]
    split_ifs with hjk
    · subst hjk
      rw [life]
      exact h.life j
    · exact h.life j
  case closer =>
    intro j hj
    simp only [look] at hj ⊢
    split_ifs at hj with hjk
    · subst hjk
      exact h.closer j (closing ▸ hj)
    · exact h.closer j hj
  case closerExists =>
    intro hc
    obtain ⟨j, hj⟩ := h.closerExists hc
    refine ⟨j, ?_⟩
    simp only [look]
    split_ifs with hjk
    · subst hjk
      rwa [closing]
    · exact hj
  case awaited =>
    intro hp
    obtain ⟨j, hj⟩ := h.awaited hp
    refine ⟨j, ?_⟩
    simp only [look]
    split_ifs with hjk
    · subst hjk
      rwa [awaits hj]
    · exact hj
  case fresh =>
    intro j hj
    change n ≤ j at hj
    simp only [look, show j ≠ k by omega, if_false]
    exact h.fresh j (by omega)

theorem spawn_free (h : Consistent m walk) {u : Thread} (held : u.held = none)
    (free : u.body.holdsLife = false) : Consistent (m.spawn u) walk := by
  have fresh := h.fresh m.spawned le_rfl
  have closing : u.body.closing = false := by
    cases hc : u.body.closing
    · rfl
    · simp [Body.holdsLife_of_closing hc] at free
  refine h.update (Nat.le_succ _) (Nat.lt_succ_self _) ?_ ?_ ?_ ?_ <;> rw [fresh]
  · exact held
  · exact free
  · exact closing
  · simp [Thread.AwaitsTake]

theorem spawn (h : Consistent m walk) (c : Call) : Consistent (m.spawn c.thread) walk :=
  h.spawn_free (by cases c <;> rfl) (by cases c <;> rfl)

theorem hook (h : Consistent m walk) (i : Nat) (calls : List TransportCall) (fails : Bool) :
    Consistent { m with threads := Function.update m.threads i ((m.threads i).hook calls fails) }
      walk := by
  by_cases hi : i < m.spawned
  · exact h.update le_rfl hi (by simp) (by simp) (by simp) (Thread.hook_of_awaits _ _ _)
  · have idle : (m.threads i).hook calls fails = m.threads i := by
      rw [h.fresh i (by omega)]
      rfl
    simpa [idle] using h

theorem step (h : Consistent m walk) (e : Event) :
    Consistent (m.step e) (walk ++ entered m.shared (m.step e).shared) := by
  cases e with
  | call c => simpa [Machine.step, entered] using h.spawn c
  | step i =>
    simp only [Machine.step]
    split
    case h_1 r hr =>
      obtain ⟨sh', t', sp⟩ := r
      simpa using h.advance (Thread.step_of_exec hr)
    case h_2 => simpa [entered] using h
  | hook i calls fails => simpa [Machine.step, entered] using h.hook i calls fails

theorem run (h : Consistent m walk) (es : List Event) : Consistent (m.run es) (walk ++ m.changes es) := by
  induction es generalizing m walk with
  | nil => simpa [Machine.run, Machine.changes] using h
  | cons e es ih =>
    rw [Machine.changes_cons, ← List.append_assoc]
    exact ih (h.step e)

theorem quiet_of_settled (h : Consistent m walk) (hs : m.Settled) (j : Nat) :
    (m.threads j).held = none ∧ (m.threads j).work = [] := by
  by_cases hj : j < m.spawned
  · exact Thread.quiet_of_done (hs j hj)
  · rw [h.fresh j (by omega)]
    exact ⟨rfl, rfl⟩

theorem settled (h : Consistent m walk) (hs : m.Settled) :
    m.shared.pending = [] ∧ m.shared.noticed = walk := by
  have pending : m.shared.pending = [] := by
    by_contra hp
    obtain ⟨j, hj⟩ := h.awaited hp
    obtain ⟨held, work⟩ := h.quiet_of_settled hs j
    simp [Thread.AwaitsTake, held, work] at hj
  have inFlight : m.inFlight = [] := by
    cases hl : m.shared.deliveryLock with
    | none => exact Machine.inFlight_of_free hl
    | some j => simpa [(h.quiet_of_settled hs j).1] using (h.delivery j).1 hl
  refine ⟨pending, ?_⟩
  simpa [pending, inFlight] using h.account

end Consistent

namespace Dispatch

/-- Whether the transport handed the callbacks a message of the State kind. -/
def relaysState : Dispatch → Bool
  | .notice _ => false
  | .delivered m => m.kind == .state

theorem stateMessages_length (log : List Dispatch) :
    ((log.map message).filter (·.kind == .state)).length =
      (log.filterMap notice?).length + log.countP relaysState := by
  induction log with
  | nil => rfl
  | cons d log ih =>
    cases d with
    | notice s =>
      simp [message, notice?, relaysState, Message.ofState, ih]
      omega
    | delivered m =>
      by_cases hm : m.kind = .state
      · simp [message, notice?, relaysState, List.filterMap_cons, hm, ih]
        omega
      · simp [message, notice?, relaysState, List.filterMap_cons, hm, ih]

theorem stateMessages_eq_iff (log : List Dispatch) :
    (log.map message).filter (·.kind == .state) = (log.filterMap notice?).map Message.ofState ↔
      ∀ m, delivered m ∈ log → m.kind ≠ .state := by
  constructor
  · intro h m hm hk
    have := congrArg List.length h
    rw [stateMessages_length, List.length_map] at this
    have none : log.countP relaysState = 0 := by omega
    rw [List.countP_eq_zero] at none
    simpa [relaysState, hk] using none _ hm
  · intro h
    induction log with
    | nil => rfl
    | cons d log ih =>
      cases d with
      | notice s => simp_all [message, notice?, Message.ofState]
      | delivered m => simp_all [message, notice?, List.filterMap_cons]

end Dispatch

/-- Every run of a channel walks the lifecycle from `closed`, and the callbacks see the walk in
order unless the transport delivers State messages itself. -/
theorem lifecycle_walk (es : List Event) :
    let m := ({} : Machine).run es
    let walk := ({} : Machine).changes es
    List.IsChain Moves (.closed :: walk) ∧ m.shared.noticed <+: walk ∧
      (m.Settled → m.shared.pending = [] ∧ m.shared.noticed = walk ∧
        ((m.shared.log.map Dispatch.message).filter (·.kind == .state) = walk.map Message.ofState ↔
          ∀ msg, Dispatch.delivered msg ∈ m.shared.log → msg.kind ≠ .state)) := by
  intro m walk
  have h : Consistent m walk := by simpa using consistent_init.run es
  refine ⟨h.chain, ⟨m.inFlight ++ m.shared.pending, by simpa using h.account⟩, fun settled => ?_⟩
  obtain ⟨pending, noticed⟩ := h.settled settled
  refine ⟨pending, noticed, ?_⟩
  rw [← noticed]
  exact Dispatch.stateMessages_eq_iff _

/-- A channel opened, then handed a State message by its transport: its callbacks receive a State
message that is not a state the channel took. -/
theorem lifecycle_walk_relayed_state :
    let es : List Event := [.call (.open true), .step 0, .step 0, .step 0, .step 0, .step 0, .step 0,
      .hook 0 [] false, .step 0, .step 0, .step 0, .step 0, .step 0, .step 0,
      .call (.transport (.deliver (Message.ofState .error))), .step 1, .step 1, .step 1]
    let m := ({} : Machine).run es
    (m.shared.log.map Dispatch.message).filter (·.kind == .state) ≠
      (({} : Machine).changes es).map Message.ofState := by
  intro es m
  have log : m.shared.log = [.notice .opening, .notice .active,
      .delivered (Message.ofState .error)] := rfl
  rw [Ne, ((lifecycle_walk es).2.2 (by decide)).2.2, log]
  simp [Message.ofState]

end ChannelMux.Lifecycle
