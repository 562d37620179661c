import ChannelMux.Proofs.ActEffects
import ChannelMux.Proofs.LifecycleWalk

/-! Opens that are refused, and the pairing of a channel's open and close hooks. -/

namespace ChannelMux

open Session

variable {w : World} {id : ChannelId} {c : Channel} {extra : Options}

theorem openWith_of_not_closed (hc : w.get? id = some c) (hs : c.cycle.state ≠ .closed) :
    perform w (Act.openWith id extra) =
      (.error ((Failure.invalidState ("open in state " ++ c.cycle.state.name)).within
        c.logger.prefixText), w) := by
  unfold Act.openWith
  rw [perform_bind, perform_need hc]
  simp [hs]

theorem openWith_of_refused {e : DescriptorError} (hc : w.get? id = some c)
    (hs : c.cycle.state = .closed) (ho : c.initial.override extra = .error e) :
    perform w (Act.openWith id extra) = (.error (e.failure.within c.logger.prefixText), w) := by
  unfold Act.openWith
  rw [perform_bind, perform_need hc]
  simp [hs, ho]

/-- The number of open cycles in progress in a state: one from `opening` to `closing`, none when
closed. -/
def LifeState.openCycles (s : LifeState) : Nat := if s = .closed then 0 else 1

end ChannelMux

namespace ChannelMux.Lifecycle

/-- Whether a thread is inside an open whose cycle has begun: waiting for its hook, or finishing. -/
def Body.opening : Body → Bool
  | .openHook | .openFinish => true
  | _ => false

/-- Whether the hooks run so far are one behind the lifecycle at this point of a body. -/
def Body.owes : Body → Bool
  | .openHook | .closeFinish => true
  | _ => false

theorem Body.holdsLife_of_opening {b : Body} (h : b.opening = true) : b.holdsLife = true := by
  cases b <;> simp_all [Body.opening, Body.holdsLife]

theorem Body.owes_eq_false {b : Body} (h : b.holdsLife = false) : b.owes = false := by
  cases b <;> simp_all [Body.owes, Body.holdsLife]

/-- Whether a thread waits for its hook at point `b` of its body, so that a hook event runs it. -/
def Thread.awaitsHook (t : Thread) (b : Body) : Bool :=
  t.held.isNone && t.work.isEmpty && t.body == b

namespace Thread

variable (t : Thread) (calls : List TransportCall) (fails : Bool)

theorem hook_of_busy (busy : ¬(t.held = none ∧ t.work = [])) : t.hook calls fails = t := by
  obtain ⟨held, work, body⟩ := t
  unfold hook
  split <;> simp_all

theorem awaitsHook_of_busy (busy : ¬(t.held = none ∧ t.work = [])) (b : Body) :
    t.awaitsHook b = false := by
  simp_all [awaitsHook]

theorem hook_owes :
    (t.hook calls fails).body.owes.toNat + (t.awaitsHook .openHook).toNat =
      t.body.owes.toNat + (t.awaitsHook .closeHook).toNat := by
  by_cases waiting : t.held = none ∧ t.work = []
  · obtain ⟨held, work, body⟩ := t
    obtain ⟨rfl, rfl⟩ := waiting
    cases body <;> cases fails <;> rfl
  · rw [hook_of_busy t calls fails waiting, awaitsHook_of_busy t waiting,
      awaitsHook_of_busy t waiting]

theorem opening_of_hook (h : (t.hook calls fails).body.opening = true) : t.body.opening = true := by
  by_cases waiting : t.held = none ∧ t.work = []
  · obtain ⟨held, work, body⟩ := t
    obtain ⟨rfl, rfl⟩ := waiting
    cases body <;> cases fails <;> simp_all [hook, Body.opening]
  · rwa [hook_of_busy t calls fails waiting] at h

end Thread

namespace Thread.Step

variable {sh sh' : Shared} {i : Nat} {t t' : Thread} {sp : Option Thread}

theorem owes_balance (hs : Thread.Step sh i t sh' t' sp)
    (opener : t.body.opening = true → sh.cycle.state ≠ .closed)
    (closer : t.body.closing = true → sh.cycle.state = .closing) :
    t'.body.owes.toNat + sh.cycle.state.openCycles =
      t.body.owes.toNat + sh'.cycle.state.openCycles := by
  cases hs
  case openFinish =>
    have live := opener rfl
    simp only [Shared.move_cycle, Cycle.finishOpen_state]
    split <;> simp_all [Body.owes, LifeState.openCycles]
  all_goals cases h : sh.cycle.state <;>
    simp_all [Body.owes, Body.opening, Body.closing, LifeState.openCycles]

theorem open_of_opening (hs : Thread.Step sh i t sh' t' sp)
    (opener : t.body.opening = true → sh.cycle.state ≠ .closed) (h : t'.body.opening = true) :
    sh'.cycle.state ≠ .closed := by
  cases hs
  case openFinish => simp [Body.opening] at h
  all_goals cases hc : sh.cycle.state <;> simp_all [Body.opening]

theorem closed_iff_of_other (hs : Thread.Step sh i t sh' t' sp) (other : t.body.holdsLife = false) :
    sh'.cycle.state = .closed ↔ sh.cycle.state = .closed := by
  cases hs <;> cases hc : sh.cycle.state <;> simp_all [Body.holdsLife]

end Thread.Step

namespace Machine

/-- Whether an event runs the hook of a thread waiting at point `b` of its body. -/
def runsHook (m : Machine) (b : Body) : Event → Bool
  | .hook i _ _ => (m.threads i).awaitsHook b
  | _ => false

/-- The number of hooks of threads waiting at point `b` that a run runs. -/
def hooksRun (m : Machine) (b : Body) : List Event → Nat
  | [] => 0
  | e :: es => (m.runsHook b e).toNat + (m.step e).hooksRun b es

/-- One while the holder of the life lock owes a hook (`Body.owes`), else none. -/
def owed (m : Machine) : Nat :=
  match m.shared.lifeLock with
  | some j => (m.threads j).body.owes.toNat
  | none => 0

section Owed

variable {m m' : Machine} {i : Nat}

/-- Whether the life lock is held by the one thread whose body holds it. -/
def LifeHeld (m : Machine) : Prop := ∀ j, m.shared.lifeLock = some j ↔ (m.threads j).body.holdsLife = true

theorem owed_of_holder (life : m.LifeHeld) {j : Nat} (h : (m.threads j).body.holdsLife = true) :
    m.owed = (m.threads j).body.owes.toNat := by
  simp [owed, (life j).2 h]

theorem owed_of_free (life : m.LifeHeld) (h : ∀ j, (m.threads j).body.holdsLife = false) :
    m.owed = 0 := by
  cases hl : m.shared.lifeLock with
  | none => simp [owed, hl]
  | some j => simpa [h j] using (life j).1 hl

/-- The threads other than `i` hold the life lock and owe in `m'` as they do in `m`. -/
def KeepsOthers (m m' : Machine) (i : Nat) : Prop :=
  ∀ j, j ≠ i → (m'.threads j).body.holdsLife = (m.threads j).body.holdsLife ∧
    (m'.threads j).body.owes = (m.threads j).body.owes

theorem KeepsOthers.symm (h : KeepsOthers m m' i) : KeepsOthers m' m i :=
  fun j hj => ⟨(h j hj).1.symm, (h j hj).2.symm⟩

theorem owed_of_replaced_holder (life : m.LifeHeld) (life' : m'.LifeHeld)
    (others : KeepsOthers m m' i) (hi : (m.threads i).body.holdsLife = true) :
    m'.owed = (m'.threads i).body.owes.toNat := by
  by_cases hi' : (m'.threads i).body.holdsLife = true
  · exact owed_of_holder life' hi'
  · -- no other thread held the lock beside `i`, and none takes it while `i` is replaced
    have free : ∀ j, (m'.threads j).body.holdsLife = false := by
      intro j
      by_cases hj : j = i
      · subst hj
        simpa using hi'
      · rw [(others j hj).1]
        by_contra holds
        exact hj (Option.some.inj (((life j).2 (by simpa using holds)).symm.trans ((life i).2 hi)))
    rw [owed_of_free life' free, Body.owes_eq_false (free i)]
    rfl

theorem owed_replace (life : m.LifeHeld) (life' : m'.LifeHeld) (others : KeepsOthers m m' i) :
    m'.owed + (m.threads i).body.owes.toNat = m.owed + (m'.threads i).body.owes.toNat := by
  by_cases hi : (m.threads i).body.holdsLife = true
  · rw [owed_of_replaced_holder life life' others hi, owed_of_holder life hi, Nat.add_comm]
  by_cases hi' : (m'.threads i).body.holdsLife = true
  · rw [owed_of_replaced_holder life' life others.symm hi', owed_of_holder life' hi', Nat.add_comm]
  -- thread `i` holds the lock on neither side, so the holder, if any, is the same thread
  simp only [Bool.not_eq_true] at hi hi'
  rw [Body.owes_eq_false hi, Body.owes_eq_false hi']
  cases hl : m.shared.lifeLock with
  | some j =>
    have hj : j ≠ i := by
      rintro rfl
      simp [(life _).1 hl] at hi
    have holds : (m.threads j).body.holdsLife = true := (life j).1 hl
    rw [owed_of_holder life holds, owed_of_holder life' ((others j hj).1.trans holds), (others j hj).2]
  | none =>
    have free : ∀ j, (m.threads j).body.holdsLife = false := by
      intro j
      by_contra holds
      simp [(life j).2 (by simpa using holds)] at hl
    have free' : ∀ j, (m'.threads j).body.holdsLife = false := by
      intro j
      by_cases hj : j = i
      · subst hj
        exact hi'
      · rw [(others j hj).1, free j]
    rw [owed_of_free life free, owed_of_free life' free']

end Owed

end Machine

open Machine

/-- The hook count of a channel: every thread inside a begun open finds the channel open, and the
open hooks run, with the one owed, match the close hooks run plus the open cycle in progress. -/
structure Balanced (m : Machine) (opens closes : Nat) : Prop where
  opener : ∀ j, (m.threads j).body.opening = true → m.shared.cycle.state ≠ .closed
  count : opens + m.owed = closes + m.shared.cycle.state.openCycles

theorem balanced_init : Balanced {} 0 0 where
  opener _ h := by simp [Body.opening] at h
  count := rfl

namespace Balanced

variable {m : Machine} {walk : List LifeState} {opens closes : Nat}

section Advance

variable {i : Nat} {sh' : Shared} {t' : Thread} {sp : Option Thread}
  (hc : Consistent m walk) (hs : Thread.Step m.shared i (m.threads i) sh' t' sp)
include hc hs

theorem advance_keepsOthers : KeepsOthers m (m.advance i (sh', t', sp)) i := by
  intro j hj
  rw [Machine.advance_threads (hc.stepping_lt hs), if_neg hj]
  split_ifs with hjs
  · -- the thread a step starts is a scheduled close, not yet holding the life lock
    subst hjs
    have quiet := hs.started_quiet.2.2.1
    rw [hc.fresh _ le_rfl]
    exact ⟨quiet, Body.owes_eq_false quiet⟩
  · exact ⟨rfl, rfl⟩

theorem advance (h : Balanced m opens closes) : Balanced (m.advance i (sh', t', sp)) opens closes := by
  have hi := hc.stepping_lt hs
  have replaced := owed_replace hc.life (hc.advance hs).life (advance_keepsOthers hc hs)
  have moved := hs.owes_balance (h.opener i) (hc.closer i)
  have new : (m.advance i (sh', t', sp)).threads i = t' := by
    simp [Machine.advance_threads hi]
  refine ⟨?opener, ?count⟩
  case opener =>
    intro j hj
    rw [Machine.advance_threads hi] at hj
    simp only [Machine.advance_shared]
    split_ifs at hj with hji hjs
    · subst hji
      exact hs.open_of_opening (h.opener j) hj
    · subst hjs
      rw [hc.fresh _ le_rfl] at hj
      have quiet := hs.started_quiet.2.2.1
      simp [Body.holdsLife_of_opening hj] at quiet
    · -- another thread inside an open holds the life lock, so the stepping thread cannot close
      have holds : m.shared.lifeLock = some j := (hc.life j).2 (Body.holdsLife_of_opening hj)
      rw [Ne, hs.closed_iff_of_other (hc.free_of_other holds (Ne.symm hji))]
      exact h.opener j hj
  case count =>
    rw [new] at replaced
    have before := h.count
    simp only [Machine.advance_shared]
    omega

end Advance

theorem spawn_free (hc : Consistent m walk) (h : Balanced m opens closes) {u : Thread}
    {walk' : List LifeState} (hc' : Consistent (m.spawn u) walk') (free : u.body.holdsLife = false) :
    Balanced (m.spawn u) opens closes := by
  have fresh := hc.fresh m.spawned le_rfl
  have started : (m.spawn u).threads m.spawned = u := by simp
  have others : KeepsOthers m (m.spawn u) m.spawned := by
    intro j hj
    simp [hj]
  have replaced := owed_replace hc.life hc'.life others
  have idleOwes : ({} : Thread).body.owes = false := rfl
  rw [started, fresh, Body.owes_eq_false free, idleOwes] at replaced
  refine ⟨?opener, ?count⟩
  case opener =>
    intro j hj
    simp only [spawn_threads, spawn_shared, Function.update_apply] at hj ⊢
    split_ifs at hj
    · -- a thread inside an open would hold the life lock
      simp [Body.holdsLife_of_opening hj] at free
    · exact h.opener j hj
  case count =>
    have before := h.count
    rw [spawn_shared]
    omega

theorem spawn (hc : Consistent m walk) (h : Balanced m opens closes) (c : Call) :
    Balanced (m.spawn c.thread) opens closes :=
  h.spawn_free hc (hc.spawn c) (by cases c <;> rfl)

theorem hook (hc : Consistent m walk) (h : Balanced m opens closes) (i : Nat)
    (calls : List TransportCall) (fails : Bool) :
    Balanced { m with threads := Function.update m.threads i ((m.threads i).hook calls fails) }
      (opens + ((m.threads i).awaitsHook .openHook).toNat)
      (closes + ((m.threads i).awaitsHook .closeHook).toNat) := by
  have others : KeepsOthers m
      { m with threads := Function.update m.threads i ((m.threads i).hook calls fails) } i := by
    intro j hj
    simp [hj]
  have replaced := owed_replace hc.life (hc.hook i calls fails).life others
  have paid := Thread.hook_owes (m.threads i) calls fails
  simp only [Function.update_self] at replaced
  refine ⟨?opener, ?count⟩
  case opener =>
    intro j hj
    simp only [Function.update_apply] at hj ⊢
    split_ifs at hj with hji
    · subst hji
      exact h.opener j (Thread.opening_of_hook _ _ _ hj)
    · exact h.opener j hj
  case count =>
    have before := h.count
    dsimp only
    omega

theorem step (hc : Consistent m walk) (h : Balanced m opens closes) (e : Event) :
    Balanced (m.step e) (opens + (m.runsHook .openHook e).toNat)
      (closes + (m.runsHook .closeHook e).toNat) := by
  cases e with
  | call c => simpa [runsHook, Machine.step] using h.spawn hc c
  | step i =>
    simp only [Machine.step, runsHook, Bool.toNat_false, Nat.add_zero]
    split
    case h_1 r hr =>
      obtain ⟨sh', t', sp⟩ := r
      exact advance hc (Thread.step_of_exec hr) h
    case h_2 => exact h
  | hook i calls fails => exact h.hook hc i calls fails

theorem run (hc : Consistent m walk) (h : Balanced m opens closes) (es : List Event) :
    Balanced (m.run es) (opens + m.hooksRun .openHook es) (closes + m.hooksRun .closeHook es) := by
  induction es generalizing m walk opens closes with
  | nil => simpa [Machine.run, hooksRun] using h
  | cons e es ih =>
    have next := ih (hc.step e) (h.step hc e)
    simpa [Machine.run, hooksRun, Nat.add_assoc] using next

end Balanced

theorem hooksRun_open_eq (es : List Event) (free : (({} : Machine).run es).shared.lifeLock = none) :
    ({} : Machine).hooksRun .openHook es =
      ({} : Machine).hooksRun .closeHook es + (({} : Machine).run es).shared.cycle.state.openCycles := by
  have h := balanced_init.run consistent_init es
  have settled : (({} : Machine).run es).owed = 0 := by simp [owed, free]
  simpa [settled] using h.count

end ChannelMux.Lifecycle

namespace ChannelMux

open Session Lifecycle

/-- Opens of a channel that is not closed, or with options its descriptor refuses, change nothing,
and open and close hooks pair up over every run. -/
theorem refused_opens_and_paired_hooks :
    (∀ {w : World} {id : ChannelId} {c : Channel} {extra : Options}, w.get? id = some c →
      c.cycle.state ≠ .closed →
      perform w (Act.openWith id extra) =
        (.error ((Failure.invalidState ("open in state " ++ c.cycle.state.name)).within
          c.logger.prefixText), w)) ∧
    (∀ {w : World} {id : ChannelId} {c : Channel} {extra : Options} {e : DescriptorError},
      w.get? id = some c → c.cycle.state = .closed → c.initial.override extra = .error e →
      perform w (Act.openWith id extra) = (.error (e.failure.within c.logger.prefixText), w)) ∧
    (∀ es : List Event, (({} : Machine).run es).shared.lifeLock = none →
      ({} : Machine).hooksRun .openHook es =
        ({} : Machine).hooksRun .closeHook es +
          (({} : Machine).run es).shared.cycle.state.openCycles) :=
  ⟨openWith_of_not_closed, openWith_of_refused, hooksRun_open_eq⟩

/-- An active channel opened again and a closed one opened with a bad `dump` are refused; an open, a
reopen and a close run one hook each way. -/
theorem reopened_channel_refused_and_hooks_paired :
    let d : Descriptor := { source := "null://", scheme := "null", transport := "null",
                            protocol := "", host := "", name := "", dump := .no,
                            options := Options.empty }
    let live : Channel := { name := "n", scheme := "null", initial := d, config := d,
                            cycle := { state := .active }, logger := default, holding := .client }
    let idle : Channel := { live with cycle := {} }
    let loud := Options.ofList [("dump", "loud")]
    let es : List Event :=
      [.call (.open true), .step 0, .step 0, .step 0, .step 0, .step 0, .step 0,
       .hook 0 [] false, .step 0, .step 0, .step 0, .step 0, .step 0, .step 0,
       .call (.open true), .step 1, .step 1, .step 1,
       .call .close, .step 2, .step 2, .step 2, .step 2, .step 2, .step 2,
       .hook 2 [] false, .step 2, .step 2, .step 2, .step 2, .step 2, .step 2]
    perform { channels := #[live] } (Act.openWith 0 .empty) =
      (.error ((Failure.invalidState "open in state Active").within (default : Logger).prefixText),
        { channels := #[live] }) ∧
    (∃ e, d.override loud = .error e ∧
      perform { channels := #[idle] } (Act.openWith 0 loud) =
        (.error (e.failure.within (default : Logger).prefixText), { channels := #[idle] })) ∧
    (({} : Machine).run es).shared.lifeLock = none ∧
      ({} : Machine).hooksRun .openHook es = 1 ∧
      ({} : Machine).hooksRun .openHook es =
        ({} : Machine).hooksRun .closeHook es + (({} : Machine).run es).shared.cycle.state.openCycles := by
  intro d live idle loud es
  have bad : (d.override loud).toBool = false := by decide +kernel
  obtain ⟨e, he⟩ : ∃ e, d.override loud = .error e := by
    cases h : d.override loud with
    | ok d' => simp [h, Except.toBool] at bad
    | error e => exact ⟨e, rfl⟩
  have free : (({} : Machine).run es).shared.lifeLock = none := by decide
  have found (c : Channel) : ({ channels := #[c] } : World).get? 0 = some c := rfl
  refine ⟨refused_opens_and_paired_hooks.1 (found live) (by decide), ⟨e, he,
    refused_opens_and_paired_hooks.2.1 (found idle) rfl he⟩, free, by decide,
    refused_opens_and_paired_hooks.2.2 es free⟩

end ChannelMux
