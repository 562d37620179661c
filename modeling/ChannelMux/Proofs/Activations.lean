import ChannelMux.Proofs.ShutdownOnce
import Mathlib

/-! Activations of a shutdown helper under every interleaving of their callers. -/

namespace ChannelMux.Shutdown

variable {ε : Type}

theorem Op.exec_keeps_activated {h : Helper ε} {op : Op ε} {e : Effect ε}
    (he : op.exec h = some e) (act : h.activated) : e.helper.activated := by
  cases op with
  | start x =>
    simp only [Op.exec] at he
    split at he <;> cases he <;> exact act
  | launch =>
    simp only [Op.exec] at he
    split at he <;> cases he <;> exact act
  | pause =>
    simp only [Op.exec] at he
    split at he <;> cases he <;> exact act
  | held => cases he
  | resume =>
    simp only [Op.exec] at he
    split at he <;> cases he <;> exact act
  | check w =>
    simp only [Op.exec, act, if_true] at he
    cases he
    exact act
  | activating w => cases he
  | record r w =>
    cases r <;> simp only [Op.exec] at he <;> cases he
    · rfl
    · exact act
  | wait =>
    simp only [Op.exec] at he
    split at he <;> cases he
    exact act
  | add =>
    cases he
    exact act

namespace Helper

variable (h : Helper ε)

theorem advance_activated {h' : Helper ε} (he : h.advance = some h') :
    h'.activated = h.activated := by
  unfold advance at he
  split at he
  all_goals first
    | (cases he; rfl)
    | (split at he <;> cases he <;> rfl)
    | cases he

theorem handled_activated (v : Option ε) : (h.handled v).activated = h.activated := by
  unfold handled
  split <;> rfl

theorem watch_activated (j : Nat) : (h.watch j).activated = h.activated := by
  unfold watch
  split
  · split_ifs <;> rfl
  · rfl

end Helper

namespace Machine

variable {m : Machine ε}

theorem step_keeps_activated (act : m.helper.activated) (e : Event ε) :
    (m.step e).helper.activated := by
  cases e with
  | call c => exact act
  | resume i => exact act
  | activated i r => exact act
  | step i =>
    cases ht : m.threads[i]? with
    | none => simpa [Machine.step, ht] using act
    | some t =>
      cases hx : t.exec m.helper with
      | none => simpa [Machine.step, ht, hx] using act
      | some p =>
        obtain ⟨h', t'⟩ := p
        obtain ⟨op, rest, e, ops, he, rfl, rfl⟩ := Thread.exec_eq_some hx
        simp only [Machine.step, ht, hx]
        exact Op.exec_keeps_activated he act
  | shutdown =>
    cases advanced : m.helper.advance with
    | none => simpa [Machine.step, advanced] using act
    | some h' =>
      simp only [Machine.step, advanced]
      rw [m.helper.advance_activated advanced]
      exact act
  | handled v => simpa [Machine.step, Helper.handled_activated] using act
  | watch j => simpa [Machine.step, Helper.watch_activated] using act
  | finish j => exact act

theorem step_of_exec {i : Nat} {t t' : Thread ε} {h : Helper ε} (ht : m.threads[i]? = some t)
    (hx : t.exec m.helper = some (h, t')) :
    (m.step (.step i)).helper = h ∧ (m.step (.step i)).threads[i]? = some t' := by
  have lt := (List.getElem?_eq_some_iff.mp ht).1
  simp only [Machine.step, ht, hx]
  simp [lt]

theorem step_check {i : Nat} {t : Thread ε} {w : Bool} {rest : List (Op ε)}
    (ht : m.threads[i]? = some t) (ops : t.ops = .check w :: rest) :
    (m.step (.step i)).threads[i]? =
      some (if m.helper.activated then { t with ops := rest }
        else if m.helper.started then { t with ops := (if w then [.wait] else []) ++ rest }
        else { t with ops := .activating w :: rest }) := by
  by_cases act : m.helper.activated
  · have hx : t.exec m.helper = some (m.helper, { t with ops := rest }) := by
      unfold Thread.exec
      simp [ops, Op.exec, act]
    simpa [act] using (step_of_exec ht hx).2
  · by_cases st : m.helper.started
    · have hx : t.exec m.helper =
          some (m.helper, { t with ops := (if w then [.wait] else []) ++ rest }) := by
        unfold Thread.exec
        simp [ops, Op.exec, act, st]
      simpa [act, st] using (step_of_exec ht hx).2
    · have hx : t.exec m.helper = some ({ m.helper with pauses := m.helper.pauses + 1 },
          { t with ops := .activating w :: rest }) := by
        unfold Thread.exec
        simp [ops, Op.exec, act, st]
      simpa [act, st] using (step_of_exec ht hx).2

/-- An activation called on thread `n` once the helper was activated: the helper is still
activated, and the thread holds its check, or nothing once the check has run. -/
def LateActivation (n : Nat) (w : Bool) (m : Machine ε) : Prop :=
  m.helper.activated ∧ ∃ t, m.threads[n]? = some t ∧ (t.ops = [.check w] ∨ t.ops = [])

namespace LateActivation

variable {n : Nat} {w : Bool}

theorem step (late : LateActivation n w m) (e : Event ε) : LateActivation n w (m.step e) := by
  obtain ⟨act, t, ht, held⟩ := late
  have lt := (List.getElem?_eq_some_iff.mp ht).1
  refine ⟨step_keeps_activated act e, ?_⟩
  cases e with
  | call c => exact ⟨t, by simp [Machine.step, List.getElem?_append_left lt, ht], held⟩
  | resume i =>
    refine ⟨t, ?_, held⟩
    have same : t.resumed = t := by
      unfold Thread.resumed
      rcases held with ops | ops <;> simp [ops]
    by_cases hi : i = n
    · subst hi
      simp [Machine.step, ht, same]
    · simp [Machine.step, hi, ht]
  | activated i r =>
    refine ⟨t, ?_, held⟩
    have same : t.answered r = t := by
      unfold Thread.answered
      rcases held with ops | ops <;> simp [ops]
    by_cases hi : i = n
    · subst hi
      simp [Machine.step, ht, same]
    · simp [Machine.step, hi, ht]
  | step i =>
    by_cases hi : i = n
    · -- its own step: the check finds the helper activated and ends the call
      subst hi
      rcases held with ops | ops
      · refine ⟨{ t with ops := [] }, ?_, .inr rfl⟩
        rw [step_check ht ops, if_pos act]
      · have idle : t.exec m.helper = none := by simp [Thread.exec, ops]
        exact ⟨t, by simp [Machine.step, ht, idle], .inr ops⟩
    · refine ⟨t, ?_, held⟩
      cases hs : m.threads[i]? with
      | none => simp [Machine.step, hs, ht]
      | some s =>
        cases hx : s.exec m.helper with
        | none => simp [Machine.step, hs, hx, ht]
        | some p => simp [Machine.step, hs, hx, List.getElem?_set_ne hi, ht]
  | shutdown =>
    refine ⟨t, ?_, held⟩
    cases advanced : m.helper.advance <;> simp [Machine.step, advanced, ht]
  | handled v => exact ⟨t, ht, held⟩
  | watch j => exact ⟨t, ht, held⟩
  | finish j => exact ⟨t, ht, held⟩

theorem run (late : LateActivation n w m) (es : List (Event ε)) :
    LateActivation n w (m.run es) := by
  induction es generalizing m with
  | nil => exact late
  | cons e es ih => exact ih (late.step e)

end LateActivation

theorem late_of_call (act : m.helper.activated) (w : Bool) :
    LateActivation m.threads.length w (m.step (.call (.activate w))) :=
  ⟨act, { ops := [.check w] }, by simp [Machine.step, Call.ops], .inl rfl⟩

/-- Activations under any interleaving: an activated helper stays activated, and an activation
called on it never runs a handler. -/
theorem activated_helper_runs_no_more_handlers (m : Machine ε) :
    (∀ e, m.helper.activated → (m.step e).helper.activated) ∧
    (∀ i t w rest, m.threads[i]? = some t → t.ops = .check w :: rest →
      (m.step (.step i)).threads[i]? =
        some (if m.helper.activated then { t with ops := rest }
          else if m.helper.started then { t with ops := (if w then [.wait] else []) ++ rest }
          else { t with ops := .activating w :: rest })) ∧
    (m.helper.activated → ∀ w es t,
      (m.run (.call (.activate w) :: es)).threads[m.threads.length]? = some t →
        t.ops = [.check w] ∨ t.ops = []) := by
  refine ⟨fun e act => step_keeps_activated act e, fun i t w rest ht ops => step_check ht ops, ?_⟩
  intro act w es t ht
  obtain ⟨-, u, hu, held⟩ := (late_of_call act w).run es
  rw [run_cons, hu] at ht
  cases ht
  exact held

/-- Two activations that both check before either handler returns both run their handlers; both
then succeed, and both calls return with the helper activated. -/
theorem concurrent_activations_run_two_handlers :
    let m := ({} : Machine Nat).run
      [.call (.activate false), .call (.activate false), .step 0, .step 1]
    m.threads.map (·.ops) = [[.activating false], [.activating false]] ∧
      (m.run [.activated 0 none, .activated 1 none, .step 0, .step 1, .step 0, .step 1]).threads.map
        (·.ops) = [[], []] := by
  exact ⟨rfl, rfl⟩

end Machine

end ChannelMux.Shutdown
