import ChannelMux.Lifecycle.Shutdown
import Mathlib

/-! A shutdown helper under every interleaving of its callers. -/

namespace ChannelMux.Shutdown

variable {ε : Type}

/-- What the helper's record keeps between its steps. -/
structure Helper.Sound (h : Helper ε) : Prop where
  scheduled_of_started : h.started → h.scheduled
  paused : h.scheduled → h.started = false → 0 < h.pauses
  unpaused : h.started → h.pauses = 0
  requests_nil : h.requests = [] ↔ h.scheduled = false
  current : h.returned = none → h.scheduled → h.requests.head? = some h.status
  first : ∀ a, h.received = some a → h.requests.head? = some a
  final : ∀ v, h.returned = some v → h.status = v
  launched : h.stage.isSome → 0 < h.launches
  staged : 0 < Stage.rank h.stage → h.started
  returned_iff : h.returned.isSome ↔ 4 ≤ Stage.rank h.stage
  done_iff : h.done ↔ 6 ≤ Stage.rank h.stage
  doneClosed_iff : h.doneClosed ↔ 7 ≤ Stage.rank h.stage
  drained : 5 ≤ Stage.rank h.stage → ∀ c ∈ h.children, c.early → c.finished
  waiting_eq : h.waiting = h.children.countP (·.watched)
  released : ∀ c ∈ h.children, c.watched = false → c.finished
  calm : h.panicked = false

theorem Helper.sound_init : (({} : Helper ε)).Sound where
  scheduled_of_started := by simp
  paused := by simp
  unpaused := by simp
  requests_nil := by simp
  current := by simp
  first := by simp
  final := by simp
  launched := by simp
  staged := by simp [Stage.rank]
  returned_iff := by simp [Stage.rank]
  done_iff := by simp [Stage.rank]
  doneClosed_iff := by simp [Stage.rank]
  drained := by simp [Stage.rank]
  waiting_eq := by simp
  released := by simp
  calm := rfl

namespace Helper.Sound

variable {h : Helper ε} (hs : h.Sound)
include hs

theorem of_unstarted (st : h.started = false) : h.stage = none ∧ h.returned = none := by
  have rank : Stage.rank h.stage = 0 := by
    by_contra pos
    simp [hs.staged (Nat.pos_of_ne_zero pos)] at st
  have returned := hs.returned_iff
  simp only [rank] at returned
  refine ⟨?_, by simpa using returned⟩
  -- only the absent stage has rank 0
  rcases stage : h.stage with _ | s
  · rfl
  · rw [stage] at rank
    cases s <;> simp [Stage.rank] at rank

theorem of_unscheduled (sch : h.scheduled = false) :
    h.requests = [] ∧ h.started = false ∧ h.received = none := by
  have requests := hs.requests_nil.mpr sch
  have st : h.started = false := by
    cases st : h.started
    · rfl
    · simp [hs.scheduled_of_started st] at sch
  refine ⟨requests, st, ?_⟩
  cases received : h.received with
  | none => rfl
  | some a => simpa [requests] using hs.first a received

theorem unstarted_of_paused (pos : 0 < h.pauses) : h.started = false := by
  cases st : h.started
  · rfl
  · simp [hs.unpaused st] at pos

theorem started_iff : h.started ↔ h.scheduled ∧ h.pauses = 0 := by
  constructor
  · intro st
    exact ⟨hs.scheduled_of_started st, hs.unpaused st⟩
  · rintro ⟨sch, unpaused⟩
    cases st : h.started
    · have := hs.paused sch st
      omega
    · rfl

theorem done_marks (done : h.done) :
    h.returned.isSome ∧ ∀ c ∈ h.children, c.early → c.finished := by
  have six := hs.done_iff.mp done
  exact ⟨hs.returned_iff.mpr (by omega), hs.drained (by omega)⟩

end Helper.Sound

/-- What one step of a call keeps: the helper's invariant, the pauses and the launches the step
hands on to the steps that replace it, and what callers have already seen. -/
structure Keeps (h : Helper ε) (op : Op ε) (e : Effect ε) : Prop where
  sound : e.helper.Sound
  pauses : e.helper.pauses + (if op.holds then 1 else 0) = h.pauses + e.next.countP Op.holds
  launches : e.helper.launches + e.next.countP Op.isLaunch + (if h.started then 1 else 0) =
    h.launches + (if op.isLaunch then 1 else 0) + (if e.helper.started then 1 else 0)
  started : h.started → e.helper.started
  returned : e.helper.returned = h.returned
  refused : e.refused → e.helper.started
  answer : ∀ a, e.answer = some a → e.helper.returned = some a
  activated : e.helper.activated → h.activated ∨ op.holds

namespace Helper.Sound

variable {h : Helper ε} {e : Effect ε} (hs : h.Sound)
include hs

theorem keeps_start (x : Option ε) (he : (Op.start x).exec h = some e) : Keeps h (.start x) e := by
  simp only [Op.exec] at he
  by_cases sch : h.scheduled
  · have requested : h.requests ≠ [] := fun nil => by simp [hs.requests_nil.mp nil] at sch
    rw [if_pos sch] at he
    obtain rfl := Option.some.inj he
    refine ⟨{ hs with
        requests_nil := by simp [sch]
        current := fun r s => by rw [List.head?_append_of_ne_nil _ requested]; exact hs.current r s
        first := fun a r => by rw [List.head?_append_of_ne_nil _ requested]; exact hs.first a r },
      by simp [Op.holds], by simp [Op.isLaunch], id, rfl, by simp, by simp, fun a => Or.inl a⟩
  · obtain ⟨requests, st, received⟩ := hs.of_unscheduled (by simpa using sch)
    obtain ⟨stage, returned⟩ := hs.of_unstarted st
    rw [if_neg sch] at he
    obtain rfl := Option.some.inj he
    refine ⟨{ hs with
        scheduled_of_started := fun _ => rfl
        paused := fun _ now => Nat.pos_of_ne_zero (by simpa using now)
        unpaused := fun now => by simpa using now
        requests_nil := by simp
        current := fun _ _ => by simp [requests]
        first := fun a r => by simp [received] at r
        final := fun v r => by simp [returned] at r
        staged := fun pos => by simp [stage, Stage.rank] at pos }, ?_, ?_, ?_, rfl, by simp,
      by simp, fun a => Or.inl a⟩
    · split <;> simp_all [Op.holds]
    · split <;> simp_all [Op.isLaunch]
    · simp [st]

theorem keeps_launch (launch : h.launches = 0 ∧ h.started) (he : Op.launch.exec h = some e) :
    Keeps h .launch e := by
  obtain ⟨none_yet, st⟩ := launch
  simp only [Op.exec, none_yet, if_true, Option.some.injEq] at he
  subst he
  have stage : h.stage = none := by
    cases stage : h.stage
    · rfl
    · simpa [none_yet] using hs.launched (by simp [stage])
  have rank : Stage.rank h.stage = 0 := by simp [stage, Stage.rank]
  have returned := hs.returned_iff
  have done := hs.done_iff
  have closed := hs.doneClosed_iff
  simp only [rank] at returned done closed
  refine ⟨{ hs with
      launched := fun _ => Nat.one_pos
      staged := fun _ => st
      returned_iff := by simpa [Stage.rank] using returned
      done_iff := by simpa [Stage.rank] using done
      doneClosed_iff := by simpa [Stage.rank] using closed
      drained := fun five => by simp [Stage.rank] at five }, ?_, ?_, id, rfl, by simp, by simp,
    fun a => Or.inl a⟩
  · simp [Op.holds]
  · simp [Op.isLaunch, none_yet]

theorem keeps_pause (he : Op.pause.exec h = some e) : Keeps h .pause e := by
  simp only [Op.exec] at he
  by_cases st : h.started
  · rw [if_pos st] at he
    obtain rfl := Option.some.inj he
    exact ⟨hs, by simp [Op.holds], by simp [Op.isLaunch], id, rfl, fun _ => st, by simp,
      fun a => Or.inl a⟩
  · rw [if_neg st] at he
    obtain rfl := Option.some.inj he
    refine ⟨{ hs with
        paused := fun _ _ => Nat.succ_pos _
        unpaused := fun now => absurd now st }, by simp [Op.holds], by simp [Op.isLaunch], id, rfl,
      by simp, by simp, fun a => Or.inl a⟩

theorem keeps_resume (held : 0 < h.pauses) (he : Op.resume.exec h = some e) : Keeps h .resume e := by
  have st := hs.unstarted_of_paused held
  simp only [Op.exec, Nat.not_lt.mpr held, if_false, Option.some.injEq] at he
  subst he
  simp only [st, Bool.false_or, Bool.not_false, Bool.and_true]
  refine ⟨{ hs with
      scheduled_of_started := fun now => by simp_all
      paused := fun sch now => by simp_all; omega
      unpaused := fun now => by simp_all
      staged := fun pos => by simp [(hs.of_unstarted st).1, Stage.rank] at pos }, ?_, ?_, ?_, rfl,
    by simp, by simp, fun a => Or.inl a⟩
  · simp only [Op.holds, if_true]
    split <;> simp [Op.holds] <;> omega
  · split <;> simp_all [Op.isLaunch]
  · simp [st]

theorem keeps_check (w : Bool) (he : (Op.check w).exec h = some e) : Keeps h (.check w) e := by
  simp only [Op.exec] at he
  by_cases act : h.activated
  · rw [if_pos act] at he
    obtain rfl := Option.some.inj he
    exact ⟨hs, by simp [Op.holds], by simp [Op.isLaunch], id, rfl, by simp, by simp,
      fun a => Or.inl a⟩
  rw [if_neg act] at he
  by_cases st : h.started
  · rw [if_pos st] at he
    obtain rfl := Option.some.inj he
    refine ⟨hs, ?_, ?_, id, rfl, by simp, by simp, fun a => Or.inl a⟩
    · split <;> rfl
    · split <;> rfl
  · rw [if_neg st] at he
    obtain rfl := Option.some.inj he
    refine ⟨{ hs with
        paused := fun _ _ => Nat.succ_pos _
        unpaused := fun now => absurd now st }, by simp [Op.holds], by simp [Op.isLaunch], id, rfl,
      by simp, by simp, fun a => Or.inl a⟩

theorem keeps_record (r : Option ε) (w : Bool) (he : (Op.record r w).exec h = some e) :
    Keeps h (.record r w) e := by
  cases r with
  | none =>
    simp only [Op.exec, Option.some.injEq] at he
    subst he
    exact ⟨{ hs with }, by simp [Op.holds], by simp [Op.isLaunch], id, rfl, by simp, by simp,
      fun _ => Or.inr rfl⟩
  | some x =>
    simp only [Op.exec, Option.some.injEq] at he
    subst he
    refine ⟨hs, ?_, ?_, id, rfl, by simp, by simp, fun a => Or.inl a⟩
    · split <;> rfl
    · split <;> rfl

theorem keeps_wait (he : Op.wait.exec h = some e) : Keeps h .wait e := by
  simp only [Op.exec] at he
  split at he
  · next closed =>
    simp only [Option.some.injEq] at he
    subst he
    have returned : h.returned.isSome := hs.returned_iff.mpr (by
      have := hs.doneClosed_iff.mp closed
      omega)
    obtain ⟨v, hv⟩ := Option.isSome_iff_exists.mp returned
    refine ⟨hs, by simp [Op.holds], by simp [Op.isLaunch], id, rfl, by simp, ?_,
      fun a => Or.inl a⟩
    intro a answered
    simp only [Option.some.injEq] at answered
    rw [hv, ← answered, hs.final v hv]
  · cases he

theorem keeps_add (he : Op.add.exec h = some e) : Keeps h .add e := by
  simp only [Op.exec, Option.some.injEq] at he
  subst he
  refine ⟨{ hs with
      drained := fun five c mem early => ?_
      waiting_eq := by simp [hs.waiting_eq, List.countP_append]
      released := fun c mem unwatched => ?_ }, by simp [Op.holds], by simp [Op.isLaunch], id, rfl,
    by simp, by simp, fun a => Or.inl a⟩
  · rcases List.mem_append.mp mem with old | new
    · exact hs.drained five c old early
    · simp only [List.mem_singleton] at new
      subst new
      have st : h.started := hs.staged (by change 5 ≤ Stage.rank h.stage at five; omega)
      simp [st] at early
  · rcases List.mem_append.mp mem with old | new
    · exact hs.released c old unwatched
    · simp only [List.mem_singleton] at new
      subst new
      simp at unwatched

end Helper.Sound

theorem Op.exec_keeps {h : Helper ε} {op : Op ε} {e : Effect ε} (hs : h.Sound)
    (holding : op.holds → 0 < h.pauses) (launch : op.isLaunch → h.launches = 0 ∧ h.started)
    (he : op.exec h = some e) : Keeps h op e := by
  cases op with
  | start x => exact hs.keeps_start x he
  | launch => exact hs.keeps_launch (launch rfl) he
  | pause => exact hs.keeps_pause he
  | held => simp [Op.exec] at he
  | resume => exact hs.keeps_resume (holding rfl) he
  | check w => exact hs.keeps_check w he
  | activating w => simp [Op.exec] at he
  | record r w => exact hs.keeps_record r w he
  | wait => exact hs.keeps_wait he
  | add => exact hs.keeps_add he

/-- What the shutdown's own steps and the watchers' leave as the callers see it. -/
structure Helper.Quiet (h h' : Helper ε) : Prop where
  pauses : h'.pauses = h.pauses
  launches : h'.launches = h.launches
  started : h'.started = h.started
  activated : h'.activated = h.activated
  returned : ∀ a, h.returned = some a → h'.returned = some a

theorem Helper.Quiet.refl (h : Helper ε) : Helper.Quiet h h :=
  ⟨rfl, rfl, rfl, rfl, fun _ r => r⟩

namespace Helper.Sound

variable {h : Helper ε} (hs : h.Sound)
include hs

theorem of_staged (pos : 0 < Stage.rank h.stage) : h.started ∧ 0 < h.launches := by
  refine ⟨hs.staged pos, hs.launched ?_⟩
  cases stage : h.stage
  · simp [stage, Stage.rank] at pos
  · rfl

theorem set_child {j : Nat} {c : Child ε} (hj : h.children[j]? = some c) (c' : Child ε) (w : Nat)
    (early : c'.early = c.early) (finished : c.finished → c'.finished)
    (released : c'.watched = false → c'.finished)
    (counted : w + (if c.watched then 1 else 0) = h.waiting + (if c'.watched then 1 else 0)) :
    ({ h with waiting := w, children := h.children.set j c' }).Sound := by
  obtain ⟨lt, rfl⟩ := List.getElem?_eq_some_iff.mp hj
  have mem := List.getElem_mem lt
  -- a watched child is one of those the wait group counts
  have counts : (if h.children[j].watched then 1 else 0) ≤ h.children.countP (·.watched) := by
    split
    · exact List.countP_pos_iff.mpr ⟨_, mem, by assumption⟩
    · exact Nat.zero_le _
  refine { hs with
    drained := fun five d dmem dearly => ?_
    waiting_eq := ?_
    released := fun d dmem unwatched => ?_ }
  · rcases List.mem_or_eq_of_mem_set dmem with old | rfl
    · exact hs.drained five d old dearly
    · exact finished (hs.drained five _ mem (early ▸ dearly))
  · simp only [List.countP_set lt]
    have := hs.waiting_eq
    omega
  · rcases List.mem_or_eq_of_mem_set dmem with old | rfl
    · exact hs.released d old unwatched
    · exact released unwatched

theorem watch (j : Nat) : (h.watch j).Sound ∧ Quiet h (h.watch j) := by
  unfold Helper.watch
  cases hj : h.children[j]? with
  | none => exact ⟨hs, Quiet.refl h⟩
  | some c =>
    simp only
    split
    · exact ⟨hs, Quiet.refl h⟩
    · next watched =>
      split
      · next fin =>
        refine ⟨hs.set_child hj _ _ rfl (fun _ => fin) (fun _ => fin) ?_, ⟨rfl, rfl, rfl, rfl, fun _ r => r⟩⟩
        have := hs.waiting_eq
        have pos : 0 < h.waiting := by
          rw [this]
          exact List.countP_pos_iff.mpr ⟨c, List.mem_of_getElem? hj, by simpa using watched⟩
        simp only [Bool.not_eq_true', Bool.not_eq_false] at watched
        simp only [watched, if_true, Bool.false_eq_true, if_false]
        omega
      · split
        · exact ⟨hs.set_child hj _ _ rfl id (hs.released c (List.mem_of_getElem? hj)) (by simp),
            ⟨rfl, rfl, rfl, rfl, fun _ r => r⟩⟩
        · exact ⟨hs, Quiet.refl h⟩

theorem finish (j : Nat) : (h.finish j).Sound ∧ Quiet h (h.finish j) := by
  unfold Helper.finish
  cases hj : h.children[j]? with
  | none =>
    rw [List.modify_eq_self (by simpa using hj)]
    exact ⟨hs, Quiet.refl h⟩
  | some c =>
    rw [List.modify_eq_set_getElem?, hj]
    exact ⟨hs.set_child hj _ _ rfl (fun _ => rfl) (fun _ => rfl) (by simp),
      ⟨rfl, rfl, rfl, rfl, fun _ r => r⟩⟩

theorem handled (v : Option ε) : (h.handled v).Sound ∧ Quiet h (h.handled v) := by
  unfold Helper.handled
  split
  · next stage =>
    have launched := hs.of_staged (by simp [stage, Stage.rank])
    exact ⟨{ hs with
        launched := fun _ => launched.2
        staged := fun _ => launched.1
        returned_iff := by simpa [stage, Stage.rank] using hs.returned_iff
        done_iff := by simpa [stage, Stage.rank] using hs.done_iff
        doneClosed_iff := by simpa [stage, Stage.rank] using hs.doneClosed_iff
        drained := fun five => by simp [Stage.rank] at five }, ⟨rfl, rfl, rfl, rfl, fun _ r => r⟩⟩
  · exact ⟨hs, Quiet.refl h⟩

theorem advance {h' : Helper ε} (he : h.advance = some h') : h'.Sound ∧ Quiet h h' := by
  unfold Helper.advance at he
  split at he
  · next stage =>
    obtain rfl := Option.some.inj he
    have launched := hs.of_staged (by simp [stage, Stage.rank])
    have returned : h.returned = none := by simpa [stage, Stage.rank] using hs.returned_iff
    refine ⟨{ hs with
        first := fun a r => ?_
        launched := fun _ => launched.2
        staged := fun _ => launched.1
        returned_iff := by simpa [stage, Stage.rank] using hs.returned_iff
        done_iff := by simpa [stage, Stage.rank] using hs.done_iff
        doneClosed_iff := by simpa [stage, Stage.rank] using hs.doneClosed_iff
        drained := fun five => by simp [Stage.rank] at five }, ⟨rfl, rfl, rfl, rfl, fun _ r => r⟩⟩
    -- the handler is handed the advisory status, which is the first request's
    obtain rfl := Option.some.inj r
    exact hs.current returned (hs.scheduled_of_started launched.1)
  · next v stage =>
    obtain rfl := Option.some.inj he
    have launched := hs.of_staged (by simp [stage, Stage.rank])
    have returned : h.returned = none := by simpa [stage, Stage.rank] using hs.returned_iff
    refine ⟨{ hs with
        current := fun r => by simp at r
        final := fun a r => Option.some.inj r
        launched := fun _ => launched.2
        staged := fun _ => launched.1
        returned_iff := by simp [Stage.rank]
        done_iff := by simpa [stage, Stage.rank] using hs.done_iff
        doneClosed_iff := by simpa [stage, Stage.rank] using hs.doneClosed_iff
        drained := fun five => by simp [Stage.rank] at five },
      ⟨rfl, rfl, rfl, rfl, fun a r => by simp [returned] at r⟩⟩
  · next stage =>
    split at he
    · next drained =>
      obtain rfl := Option.some.inj he
      have launched := hs.of_staged (by simp [stage, Stage.rank])
      -- no child is counted on the wait group, so each has finished
      have unwatched : ∀ c ∈ h.children, c.watched = false := by
        have counted := hs.waiting_eq
        rw [drained, eq_comm, List.countP_eq_zero] at counted
        simpa using counted
      refine ⟨{ hs with
          launched := fun _ => launched.2
          staged := fun _ => launched.1
          returned_iff := by simpa [stage, Stage.rank] using hs.returned_iff
          done_iff := by simpa [stage, Stage.rank] using hs.done_iff
          doneClosed_iff := by simpa [stage, Stage.rank] using hs.doneClosed_iff
          drained := fun _ c mem _ => hs.released c mem (unwatched c mem) },
        ⟨rfl, rfl, rfl, rfl, fun _ r => r⟩⟩
    · cases he
  · next stage =>
    obtain rfl := Option.some.inj he
    have launched := hs.of_staged (by simp [stage, Stage.rank])
    refine ⟨{ hs with
        launched := fun _ => launched.2
        staged := fun _ => launched.1
        returned_iff := by simpa [stage, Stage.rank] using hs.returned_iff
        done_iff := by simp [Stage.rank]
        doneClosed_iff := by simpa [stage, Stage.rank] using hs.doneClosed_iff
        drained := fun _ => hs.drained (by simp [stage, Stage.rank]) },
      ⟨rfl, rfl, rfl, rfl, fun _ r => r⟩⟩
  · next stage =>
    obtain rfl := Option.some.inj he
    have launched := hs.of_staged (by simp [stage, Stage.rank])
    refine ⟨{ hs with
        launched := fun _ => launched.2
        staged := fun _ => launched.1
        returned_iff := by simpa [stage, Stage.rank] using hs.returned_iff
        done_iff := by simpa [stage, Stage.rank] using hs.done_iff
        doneClosed_iff := by simp [Stage.rank]
        drained := fun _ => hs.drained (by simp [stage, Stage.rank]) },
      ⟨rfl, rfl, rfl, rfl, fun _ r => r⟩⟩
  · cases he

end Helper.Sound

section Lists

variable {α : Type}

theorem sum_map_set (f : α → Nat) {l : List α} {i : Nat} (hi : i < l.length) (a : α) :
    ((l.set i a).map f).sum + f l[i] = (l.map f).sum + f a := by
  induction l generalizing i with
  | nil => simp at hi
  | cons x l ih =>
    cases i with
    | zero => simp; omega
    | succ i =>
      have := ih (Nat.lt_of_succ_lt_succ hi)
      simp only [List.set_cons_succ, List.map_cons, List.sum_cons, List.getElem_cons_succ]
      omega

theorem map_modify_of_comp {β : Type} {g : α → β} {f : α → α} (hf : ∀ x, g (f x) = g x)
    (l : List α) (i : Nat) : (l.modify i f).map g = l.map g :=
  List.ext_getElem (by simp) fun k _ _ => by
    simp only [List.getElem_map, List.getElem_modify]
    split <;> simp [hf]

theorem mem_of_mem_modify {f : α → α} {l : List α} {i : Nat} {x : α} (h : x ∈ l.modify i f) :
    x ∈ l ∨ ∃ y ∈ l, x = f y := by
  rw [List.modify_eq_set_getElem?] at h
  cases hy : l[i]? with
  | none =>
    rw [hy] at h
    exact .inl h
  | some y =>
    rw [hy] at h
    change x ∈ l.set i (f y) at h
    rcases List.mem_or_eq_of_mem_set h with old | rfl
    · exact .inl old
    · exact .inr ⟨y, List.mem_of_getElem? hy, rfl⟩

end Lists

theorem Thread.exec_eq_some {t t' : Thread ε} {h h' : Helper ε} (hx : t.exec h = some (h', t')) :
    ∃ op rest e, t.ops = op :: rest ∧ op.exec h = some e ∧ h' = e.helper ∧
      t' = { ops := e.next ++ rest, refused := t.refused || e.refused,
             answer := e.answer.or t.answer } := by
  unfold Thread.exec at hx
  split at hx
  · cases hx
  · next op rest ops =>
    obtain ⟨e, he, same⟩ := Option.map_eq_some_iff.mp hx
    simp only [Prod.mk.injEq] at same
    exact ⟨op, rest, e, ops, he, same.1.symm, same.2.symm⟩

/-- Two threads alike to the helper: with as many pauses to resume and launches to make, the
same answer and the same refusal. -/
structure Thread.Alike (t u : Thread ε) : Prop where
  holds : t.ops.countP Op.holds = u.ops.countP Op.holds
  launches : t.ops.countP Op.isLaunch = u.ops.countP Op.isLaunch
  answer : t.answer = u.answer
  refused : t.refused = u.refused

theorem Thread.resumed_alike (t : Thread ε) : t.resumed.Alike t := by
  unfold Thread.resumed
  split
  · next rest ops => exact ⟨by rw [ops]; rfl, by rw [ops]; rfl, rfl, rfl⟩
  · exact ⟨rfl, rfl, rfl, rfl⟩

theorem Thread.answered_alike (t : Thread ε) (r : Option ε) : (t.answered r).Alike t := by
  unfold Thread.answered
  split
  · next w rest ops => exact ⟨by rw [ops]; rfl, by rw [ops]; rfl, rfl, rfl⟩
  · exact ⟨rfl, rfl, rfl, rfl⟩

namespace Machine

/-- The pauses the callers' threads hold: one for each thread with a pause still to resume. -/
def holding (ts : List (Thread ε)) : Nat := (ts.map fun t => t.ops.countP Op.holds).sum

/-- The launches the callers' threads still have to make. -/
def pending (ts : List (Thread ε)) : Nat := (ts.map fun t => t.ops.countP Op.isLaunch).sum

/-- The helper's invariant, and what ties it to the callers' threads. -/
structure Sound (m : Machine ε) : Prop where
  helper : m.helper.Sound
  pauses_eq : m.helper.pauses = holding m.threads
  launches_eq : m.helper.launches + pending m.threads = if m.helper.started then 1 else 0
  answers : ∀ t ∈ m.threads, ∀ a, t.answer = some a → m.helper.returned = some a
  refusals : ∀ t ∈ m.threads, t.refused → m.helper.started

theorem sound_init : ({} : Machine ε).Sound :=
  ⟨Helper.sound_init, rfl, rfl, by simp, by simp⟩

variable {m : Machine ε}

namespace Sound

variable (hs : m.Sound)
include hs

theorem quiet {h' : Helper ε} (sound : h'.Sound) (q : m.helper.Quiet h') :
    ({ m with helper := h' }).Sound where
  helper := sound
  pauses_eq := q.pauses.trans hs.pauses_eq
  launches_eq := by rw [q.launches, q.started]; exact hs.launches_eq
  answers := fun t mem a r => q.returned a (hs.answers t mem a r)
  refusals := fun t mem r => q.started ▸ hs.refusals t mem r

theorem retouch (i : Nat) {f : Thread ε → Thread ε} (alike : ∀ t, (f t).Alike t) :
    ({ m with threads := m.threads.modify i f }).Sound where
  helper := hs.helper
  pauses_eq := by
    have same : (m.threads.modify i f).map (fun t => t.ops.countP Op.holds) =
        m.threads.map (fun t => t.ops.countP Op.holds) :=
      map_modify_of_comp (fun t => (alike t).holds) m.threads i
    simp only [holding, same]
    exact hs.pauses_eq
  launches_eq := by
    have same : (m.threads.modify i f).map (fun t => t.ops.countP Op.isLaunch) =
        m.threads.map (fun t => t.ops.countP Op.isLaunch) :=
      map_modify_of_comp (fun t => (alike t).launches) m.threads i
    simp only [pending, same]
    exact hs.launches_eq
  answers := fun t mem a r => by
    rcases mem_of_mem_modify mem with old | ⟨u, old, rfl⟩
    · exact hs.answers t old a r
    · exact hs.answers u old a ((alike u).answer ▸ r)
  refusals := fun t mem r => by
    rcases mem_of_mem_modify mem with old | ⟨u, old, rfl⟩
    · exact hs.refusals t old r
    · exact hs.refusals u old ((alike u).refused ▸ r)

theorem call (c : Call ε) : (m.step (.call c)).Sound where
  helper := hs.helper
  pauses_eq := by
    have none_held : c.ops.countP Op.holds = 0 := by cases c <;> rfl
    have grown : holding (m.threads ++ [{ ops := c.ops }]) = holding m.threads := by
      simp [holding, none_held]
    exact hs.pauses_eq.trans grown.symm
  launches_eq := by
    have none_due : c.ops.countP Op.isLaunch = 0 := by cases c <;> rfl
    have grown : pending (m.threads ++ [{ ops := c.ops }]) = pending m.threads := by
      simp [pending, none_due]
    show m.helper.launches + pending (m.threads ++ [{ ops := c.ops }]) = _
    rw [grown]
    exact hs.launches_eq
  answers := fun t mem a r => by
    rcases List.mem_append.mp mem with old | new
    · exact hs.answers t old a r
    · simp only [List.mem_singleton] at new
      simp [new] at r
  refusals := fun t mem r => by
    rcases List.mem_append.mp mem with old | new
    · exact hs.refusals t old r
    · simp only [List.mem_singleton] at new
      simp [new] at r

theorem paused_of_holds {t : Thread ε} {op : Op ε} {rest : List (Op ε)} (mem : t ∈ m.threads)
    (ops : t.ops = op :: rest) (hold : op.holds) : 0 < m.helper.pauses := by
  have held : t.ops.countP Op.holds ≤ holding m.threads :=
    List.le_sum_of_mem (List.mem_map_of_mem mem)
  rw [ops, List.countP_cons, if_pos hold] at held
  rw [hs.pauses_eq]
  omega

theorem unlaunched_of_isLaunch {t : Thread ε} {op : Op ε} {rest : List (Op ε)}
    (mem : t ∈ m.threads) (ops : t.ops = op :: rest) (launch : op.isLaunch) :
    m.helper.launches = 0 ∧ m.helper.started := by
  have due : t.ops.countP Op.isLaunch ≤ pending m.threads :=
    List.le_sum_of_mem (List.mem_map_of_mem mem)
  rw [ops, List.countP_cons, if_pos launch] at due
  have launched := hs.launches_eq
  cases st : m.helper.started
  · simp only [st, Bool.false_eq_true, if_false] at launched
    omega
  · simp only [st, if_true] at launched
    exact ⟨by omega, rfl⟩

theorem keeps {t : Thread ε} {op : Op ε} {rest : List (Op ε)} {e : Effect ε} (mem : t ∈ m.threads)
    (ops : t.ops = op :: rest) (he : op.exec m.helper = some e) : Keeps m.helper op e :=
  Op.exec_keeps hs.helper (hs.paused_of_holds mem ops) (hs.unlaunched_of_isLaunch mem ops) he

theorem thread (i : Nat) : (m.step (.step i)).Sound := by
  cases ht : m.threads[i]? with
  | none =>
    have same : m.step (.step i) = m := by simp [Machine.step, ht]
    rw [same]
    exact hs
  | some t =>
    cases hx : t.exec m.helper with
    | none =>
      have same : m.step (.step i) = m := by simp [Machine.step, ht, hx]
      rw [same]
      exact hs
    | some p =>
      obtain ⟨h', t'⟩ := p
      have stepped : m.step (.step i) = { helper := h', threads := m.threads.set i t' } := by
        simp [Machine.step, ht, hx]
      rw [stepped]
      obtain ⟨op, rest, e, ops, he, rfl, rfl⟩ := Thread.exec_eq_some hx
      obtain ⟨lt, rfl⟩ := List.getElem?_eq_some_iff.mp ht
      have mem := List.getElem_mem lt
      have keeps := hs.keeps mem ops he
      have paused := hs.pauses_eq
      have launched := hs.launches_eq
      have pauses := sum_map_set (fun t => t.ops.countP Op.holds) lt
        { ops := e.next ++ rest, refused := m.threads[i].refused || e.refused,
          answer := e.answer.or m.threads[i].answer }
      have launches := sum_map_set (fun t => t.ops.countP Op.isLaunch) lt
        { ops := e.next ++ rest, refused := m.threads[i].refused || e.refused,
          answer := e.answer.or m.threads[i].answer }
      simp only [ops, List.countP_cons, List.countP_append] at pauses launches
      refine ⟨keeps.sound, ?_, ?_, ?_, ?_⟩
      · have := keeps.pauses
        unfold holding at paused ⊢
        dsimp only
        omega
      · have := keeps.launches
        unfold pending at launched ⊢
        dsimp only
        omega
      · intro u umem a answered
        rcases List.mem_or_eq_of_mem_set umem with old | rfl
        · rw [keeps.returned]
          exact hs.answers u old a answered
        · cases now : e.answer with
          | some b =>
            simp only [now, Option.some_or, Option.some.injEq] at answered
            exact answered ▸ keeps.answer b now
          | none =>
            simp only [now, Option.none_or] at answered
            rw [keeps.returned]
            exact hs.answers _ mem a answered
      · intro u umem refused
        rcases List.mem_or_eq_of_mem_set umem with old | rfl
        · exact keeps.started (hs.refusals u old refused)
        · rcases Bool.or_eq_true_iff.mp refused with before | now
          · exact keeps.started (hs.refusals _ mem before)
          · exact keeps.refused now

theorem step (e : Event ε) : (m.step e).Sound := by
  cases e with
  | call c => exact hs.call c
  | step i => exact hs.thread i
  | resume i => exact hs.retouch i Thread.resumed_alike
  | activated i r => exact hs.retouch i fun t => t.answered_alike r
  | shutdown =>
    cases advanced : m.helper.advance with
    | none =>
      have same : m.step .shutdown = m := by simp [Machine.step, advanced]
      rw [same]
      exact hs
    | some h' =>
      have stepped : m.step .shutdown = { m with helper := h' } := by simp [Machine.step, advanced]
      obtain ⟨sound, quiet⟩ := hs.helper.advance advanced
      rw [stepped]
      exact hs.quiet sound quiet
  | handled v =>
    obtain ⟨sound, quiet⟩ := hs.helper.handled v
    exact hs.quiet sound quiet
  | watch j =>
    obtain ⟨sound, quiet⟩ := hs.helper.watch j
    exact hs.quiet sound quiet
  | finish j =>
    obtain ⟨sound, quiet⟩ := hs.helper.finish j
    exact hs.quiet sound quiet

theorem activated_step (e : Event ε) :
    (m.step e).helper.activated → m.helper.activated ∨ m.helper.started = false := by
  intro act
  cases e with
  | call c => exact .inl act
  | resume i => exact .inl act
  | activated i r => exact .inl act
  | step i =>
    cases ht : m.threads[i]? with
    | none => simp [Machine.step, ht] at act; exact .inl act
    | some t =>
      cases hx : t.exec m.helper with
      | none => simp [Machine.step, ht, hx] at act; exact .inl act
      | some p =>
        obtain ⟨h', t'⟩ := p
        obtain ⟨op, rest, e, ops, he, rfl, rfl⟩ := Thread.exec_eq_some hx
        have mem := List.mem_of_getElem? ht
        simp only [Machine.step, ht, hx] at act
        rcases (hs.keeps mem ops he).activated act with before | hold
        · exact .inl before
        · exact .inr (hs.helper.unstarted_of_paused (hs.paused_of_holds mem ops hold))
  | shutdown =>
    cases advanced : m.helper.advance with
    | none => simp [Machine.step, advanced] at act; exact .inl act
    | some h' =>
      simp only [Machine.step, advanced] at act
      exact .inl ((hs.helper.advance advanced).2.activated ▸ act)
  | handled v => exact .inl ((hs.helper.handled v).2.activated ▸ act)
  | watch j => exact .inl ((hs.helper.watch j).2.activated ▸ act)
  | finish j => exact .inl ((hs.helper.finish j).2.activated ▸ act)

end Sound

theorem step_pause {i : Nat} {t : Thread ε} {rest : List (Op ε)} (ht : m.threads[i]? = some t)
    (ops : t.ops = .pause :: rest) :
    (m.step (.step i)).threads[i]? =
      some (if m.helper.started then { t with ops := rest, refused := true }
        else { t with ops := .held :: rest }) := by
  have lt := (List.getElem?_eq_some_iff.mp ht).1
  by_cases st : m.helper.started
  · have hx : t.exec m.helper = some (m.helper, { t with ops := rest, refused := true }) := by
      unfold Thread.exec
      simp [ops, Op.exec, st]
    simp only [Machine.step, ht, hx]
    simp [lt, st]
  · have hx : t.exec m.helper =
        some ({ m.helper with pauses := m.helper.pauses + 1 }, { t with ops := .held :: rest }) := by
      unfold Thread.exec
      simp [ops, Op.exec, st]
    simp only [Machine.step, ht, hx]
    simp [lt, st]

theorem Sound.run {m : Machine ε} (hs : m.Sound) (es : List (Event ε)) : (m.run es).Sound := by
  induction es generalizing m with
  | nil => exact hs
  | cons e es ih => exact ih (hs.step e)

theorem sound_run (es : List (Event ε)) : (({} : Machine ε).run es).Sound :=
  sound_init.run es

/-- A shutdown helper under any interleaving starts its shutdown once, exactly when scheduled and
not paused, and is done only after its handler and children. -/
theorem helper_runs_shutdown_once (es : List (Event ε)) :
    let m := ({} : Machine ε).run es
    (m.helper.started ↔ m.helper.scheduled ∧ m.helper.pauses = 0) ∧
    m.helper.pauses = holding m.threads ∧
    m.helper.launches + pending m.threads = (if m.helper.started then 1 else 0) ∧
    m.helper.panicked = false ∧
    (∀ a, m.helper.received = some a → m.helper.requests.head? = some a) ∧
    (∀ t ∈ m.threads, ∀ a, t.answer = some a → m.helper.returned = some a) ∧
    (∀ i t rest, m.threads[i]? = some t → t.ops = .pause :: rest →
      (m.step (.step i)).threads[i]? =
        some (if m.helper.started then { t with ops := rest, refused := true }
          else { t with ops := .held :: rest })) ∧
    (∀ t ∈ m.threads, t.refused → m.helper.started) ∧
    (∀ e, (m.step e).helper.activated → m.helper.activated ∨ m.helper.started = false) ∧
    (m.helper.done → m.helper.returned.isSome ∧ ∀ c ∈ m.helper.children, c.early → c.finished) := by
  intro m
  have hs : m.Sound := sound_run es
  exact ⟨hs.helper.started_iff, hs.pauses_eq, hs.launches_eq, hs.helper.calm, hs.helper.first,
    hs.answers, fun _ _ _ ht ops => step_pause ht ops, hs.refusals, hs.activated_step,
    hs.helper.done_marks⟩

/-- A pause defers a shutdown requested while it is held, and its resume launches it. -/
example : (({} : Machine Nat).run [.call .pause, .step 0, .call (.start (some 1)), .step 1,
    .resume 0, .step 0, .step 0]).helper.launches = 1 := by
  rfl

end Machine

end ChannelMux.Shutdown
