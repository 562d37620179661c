import ChannelMux.Proofs.HookPairing

/-! The generation of a channel's lifecycle under concurrent callers. -/

namespace ChannelMux

/-- Whether a channel in this state is closed or closing. -/
def LifeState.shut : LifeState → Bool
  | .closed | .closing => true
  | _ => false

namespace Cycle

variable (c : Cycle)

@[simp] theorem moveTo_generation (s : LifeState) : (c.moveTo s).1.generation = c.generation := by
  unfold moveTo
  split <;> rfl

@[simp] theorem activate_generation : c.activate.1.generation = c.generation := by
  unfold activate
  split <;> simp

@[simp] theorem fail_generation : c.fail.1.generation = c.generation := by
  unfold fail
  split <;> simp

@[simp] theorem finishOpen_generation : c.finishOpen.1.generation = c.generation := by
  unfold finishOpen
  split <;> simp

@[simp] theorem finishClose_generation : c.finishClose.1.generation = c.generation := by
  simp [finishClose]

@[simp] theorem beginOpen_generation : c.beginOpen.1.generation = c.generation + 1 := by
  simp [beginOpen]

@[simp] theorem beginClose_generation : c.beginClose.1.generation = c.generation + 1 := by
  simp [beginClose]

@[simp] theorem deferActivation_generation : c.deferActivation.generation = c.generation := rfl

/-- The generation is even exactly while the channel is closed or closing. -/
def Paired : Prop := c.state.shut = true ↔ c.generation % 2 = 0

end Cycle

namespace Lifecycle

namespace Thread.Step

variable {sh sh' : Shared} {i : Nat} {t t' : Thread} {sp : Option Thread}

theorem keeps_of_other (hs : Thread.Step sh i t sh' t' sp) (other : t.body.holdsLife = false) :
    sh'.cycle.generation = sh.cycle.generation ∧ sh'.cycle.state.shut = sh.cycle.state.shut := by
  cases hs <;> cases hst : sh.cycle.state <;> simp_all [Body.holdsLife, LifeState.shut]

theorem keeps_of_body (hs : Thread.Step sh i t sh' t' sp) (same : t'.body = t.body) :
    sh'.cycle.generation = sh.cycle.generation ∧ sh'.cycle.state.shut = sh.cycle.state.shut := by
  cases hs <;> cases hst : sh.cycle.state <;> simp_all [LifeState.shut]

theorem generation_le (hs : Thread.Step sh i t sh' t' sp) :
    sh.cycle.generation ≤ sh'.cycle.generation := by
  cases hs <;> simp

theorem paired (hs : Thread.Step sh i t sh' t' sp) (h : sh.cycle.Paired)
    (closer : t.body.closing = true → sh.cycle.state = .closing)
    (begins : t.body = .closeBegin → sh.cycle.state ≠ .closing) : sh'.cycle.Paired := by
  unfold Cycle.Paired at h ⊢
  cases hs
  case openFinish =>
    simp only [Shared.move_cycle, Cycle.finishOpen_state, Cycle.finishOpen_generation]
    split <;> simp_all [LifeState.shut]
  all_goals cases hst : sh.cycle.state <;> simp_all [LifeState.shut, Body.closing] <;> omega

theorem closed_after (hs : Thread.Step sh i t sh' t' sp) (h : sh'.cycle.state = .closed) :
    sh.cycle.state = .closed ∨ (t.held = none ∧ t.work = [] ∧ t.body = .closeFinish) := by
  cases hs
  case openFinish =>
    simp only [Shared.move_cycle, Cycle.finishOpen_state] at h
    split at h <;> simp_all
  all_goals cases hst : sh.cycle.state <;> simp_all

theorem closing_after (hs : Thread.Step sh i t sh' t' sp) (h : sh.cycle.state = .closing) :
    sh'.cycle.state = .closing ∨ (t.held = none ∧ t.work = [] ∧ t.body = .closeFinish) := by
  cases hs <;> simp_all

theorem generation_moves (hs : Thread.Step sh i t sh' t' sp)
    (h : sh'.cycle.generation ≠ sh.cycle.generation) :
    sh'.cycle.generation = sh.cycle.generation + 1 ∧
      (sh.cycle.state = .closed ∨
        (t.held = none ∧ t.work = [] ∧ t.body = .closeBegin ∧ sh'.cycle.state = .closing)) := by
  cases hs <;> simp_all

theorem closeFinish_of (hs : Thread.Step sh i t sh' t' sp) (h : t'.body = .closeFinish) :
    t.body = .closeFinish := by
  cases hs <;> simp_all

theorem closeBegin_generation (hs : Thread.Step sh i ⟨none, [], .closeBegin⟩ sh' t' sp)
    (live : sh.cycle.state ≠ .closed) : sh'.cycle.generation = sh.cycle.generation + 1 := by
  cases hs
  case closeSkipped closed => exact absurd closed live
  case closeBegin => simp

end Thread.Step

namespace Thread

theorem eq_of_awaitsHook {t : Thread} {b : Body} (h : t.awaitsHook b = true) :
    t = ⟨none, [], b⟩ := by
  obtain ⟨held, work, body⟩ := t
  simp only [awaitsHook, Bool.and_eq_true, Option.isNone_iff_eq_none, List.isEmpty_iff,
    beq_iff_eq] at h
  obtain ⟨⟨rfl, rfl⟩, rfl⟩ := h
  rfl

theorem closeFinish_of_hook {t : Thread} {calls : List TransportCall} {fails : Bool}
    (h : (t.hook calls fails).body = .closeFinish) :
    t.body = .closeFinish ∨ t.awaitsHook .closeHook = true := by
  by_cases waiting : t.held = none ∧ t.work = []
  · obtain ⟨held, work, body⟩ := t
    obtain ⟨rfl, rfl⟩ := waiting
    cases body <;> cases fails <;> simp_all [hook, awaitsHook]
  · rw [hook_of_busy t calls fails waiting] at h
    exact Or.inl h

end Thread

namespace Consistent

variable {m : Machine} {walk : List LifeState}

theorem not_closing_of_holder (h : Consistent m walk) {i : Nat}
    (holds : (m.threads i).body.holdsLife = true) (other : (m.threads i).body.closing = false) :
    m.shared.cycle.state ≠ .closing := by
  intro hc
  obtain ⟨j, hj⟩ := h.closerExists hc
  have same : i = j := h.holders_eq holds (Body.holdsLife_of_closing hj)
  simp [same, hj] at other

end Consistent

end Lifecycle

end ChannelMux
