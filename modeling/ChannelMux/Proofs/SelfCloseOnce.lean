import ChannelMux.Http.SelfClose
import ChannelMux.Proofs.Generations
import ChannelMux.Proofs.RequestTable

/-! A self-closing request channel closes itself at most once per open cycle, and only the cycle its
trigger came from. -/

namespace ChannelMux.Http

open Lifecycle

/-- The close a goroutine's retire triggered, until the goroutine wraps up. -/
def Leg.trigger? : Leg → Option Trigger
  | .retired tr => tr
  | _ => none

/-- Where the thread of a close that `tr` scheduled can be, against the cycle. -/
def Scheduled (tr : Trigger) (c : Cycle) : Lifecycle.Body → Prop
  | .laterLock g | .laterCheck g => g = tr.generation ∨ (g = tr.generation + 1 ∧ g % 2 = 0)
  | .closeBegin => c.generation = tr.generation ∧ c.state.shut = false
  | .closeHook | .closeFinish | .unlock | .idle => True
  | _ => False

namespace Scheduled

variable {tr : Trigger} {c c' : Cycle} {b : Lifecycle.Body}

theorem of_cycle (h : Scheduled tr c b)
    (keeps : b = .closeBegin → c'.generation = c.generation ∧ c'.state.shut = c.state.shut) :
    Scheduled tr c' b := by
  cases b <;> simp_all [Scheduled]

theorem hook {t : Thread} (h : Scheduled tr c t.body) (calls : List TransportCall) (fails : Bool) :
    Scheduled tr c (t.hook calls fails).body := by
  by_cases waiting : t.held = none ∧ t.work = []
  · obtain ⟨held, work, body⟩ := t
    obtain ⟨rfl, rfl⟩ := waiting
    cases body <;> cases fails <;> simp_all [Thread.hook, Scheduled]
  · rwa [Thread.hook_of_busy t calls fails waiting]

theorem step {sh sh' : Shared} {i : Nat} {t t' : Thread} {sp : Option Thread}
    (hs : Thread.Step sh i t sh' t' sp) (h : Scheduled tr sh.cycle t.body)
    (paired : sh.cycle.Paired)
    (holder : t.body.holdsLife = true → t.body.closing = false → sh.cycle.state ≠ .closing) :
    Scheduled tr sh'.cycle t'.body := by
  by_cases same : t'.body = t.body
  · rw [same]
    exact h.of_cycle fun _ => hs.keeps_of_body same
  cases hs
  case laterClose g current =>
    have fresh : sh.cycle.generation = g ∧ sh.cycle.state ≠ .closed := by
      simpa [Cycle.staleFor] using current
    have live : sh.cycle.state.shut = false := by
      have open_ := holder rfl rfl
      cases hst : sh.cycle.state <;> simp_all [LifeState.shut]
    have odd : ¬sh.cycle.generation % 2 = 0 := by
      simpa [Cycle.Paired, live] using paired
    simp only [Scheduled] at h ⊢
    exact ⟨by omega, live⟩
  all_goals simp_all [Scheduled]

end Scheduled

namespace SelfClosing

/-- The exchanges in the table, none while the channel has no table. -/
def pending (m : SelfClosing) : List Exchange := (m.table.map (·.pending)).getD []

/-- The triggers of the closes retires have scheduled: of goroutines yet to wrap up, and of the
threads started for them. -/
def triggers (m : SelfClosing) : List Trigger :=
  m.runners.filterMap (·.leg.trigger?) ++ m.closers.map (·.2)

variable {m : SelfClosing}

theorem waitsAt_eq (m : SelfClosing) (i : Nat) (b : Lifecycle.Body) :
    m.waitsAt i b = (m.base.threads i).awaitsHook b := rfl

@[simp] theorem setLeg_base (s : Nat) (leg : Leg) : (m.setLeg s leg).base = m.base := rfl

@[simp] theorem setLeg_table (s : Nat) (leg : Leg) : (m.setLeg s leg).table = m.table := rfl

@[simp] theorem setLeg_serials (s : Nat) (leg : Leg) : (m.setLeg s leg).serials = m.serials := rfl

theorem mem_runners {s : Nat} {r : Runner} (h : m.runner? s = some r) : r ∈ m.runners :=
  List.mem_of_find?_eq_some h

theorem drained_false {r : Runner} (hr : r ∈ m.runners) (live : r.leg ≠ .returned) :
    m.drained = false := by
  rw [drained, List.all_eq_false]
  exact ⟨r, hr, by simpa using live⟩

theorem drained_false_of_trigger {tr : Trigger} (h : tr ∈ m.runners.filterMap (·.leg.trigger?)) :
    m.drained = false := by
  obtain ⟨r, hr, ht⟩ := List.mem_filterMap.1 h
  refine drained_false hr fun ret => ?_
  simp [ret, Leg.trigger?] at ht

theorem drained_setLeg (h : m.drained = true) (s : Nat) : (m.setLeg s .returned).drained = true := by
  simp only [drained, setLeg, List.all_map, List.all_eq_true, Function.comp_apply] at h ⊢
  intro r hr
  split
  · rfl
  · exact h r hr

theorem trigger_of_setLeg {s : Nat} {leg : Leg} {tr : Trigger}
    (h : tr ∈ (m.setLeg s leg).runners.filterMap (·.leg.trigger?)) :
    tr ∈ m.runners.filterMap (·.leg.trigger?) ∨ leg.trigger? = some tr := by
  simp only [setLeg, List.filterMap_map, List.mem_filterMap, Function.comp_apply] at h ⊢
  obtain ⟨r, hr, ht⟩ := h
  by_cases hs : r.serial = s
  · simp only [hs, if_true] at ht
    exact Or.inr ht
  · simp only [hs, if_false] at ht
    exact Or.inl ⟨r, hr, ht⟩

theorem start_eq_ok {addr : Int} {r : Outgoing} {m' : SelfClosing} (h : m.start addr r = .ok m') :
    ∃ l l', m.table = some l ∧ l.start m.serials addr r = .ok l' ∧
      m' = { m with table := some l', serials := m.serials + 1,
                    runners := m.runners ++ [{ serial := m.serials }] } := by
  unfold start at h
  split at h
  · cases h
  · rename_i l hl
    split at h
    · rename_i l' hl'
      cases h
      exact ⟨l, l', hl, hl', rfl⟩
    · cases h

theorem eq_of_waitsAt {i : Nat} {b : Lifecycle.Body} (h : m.waitsAt i b = true) :
    m.base.threads i = ⟨none, [], b⟩ :=
  Thread.eq_of_awaitsHook h

theorem waitsAt_closeHook {i : Nat} {b : Lifecycle.Body} (h : m.waitsAt i b = true)
    (ne : b ≠ .closeHook) (m' : SelfClosing) (same : m'.base = m.base) :
    m'.waitsAt i .closeHook = false := by
  simp [waitsAt_eq, same, eq_of_waitsAt h, Thread.awaitsHook, ne]

theorem base_of_start {addr : Int} {r : Outgoing} {m' : SelfClosing}
    (h : m.start addr r = .ok m') : m'.base = m.base := by
  obtain ⟨-, -, -, -, rfl⟩ := start_eq_ok h
  rfl

theorem begun_eq (i : Nat) : ∃ o : Option (Nat × Trigger), m.begun i = o.toList := by
  unfold begun
  split
  · exact ⟨_, rfl⟩
  · exact ⟨none, rfl⟩

theorem begun_of_stuck {i : Nat} (hr : (m.base.threads i).exec m.base.shared i = none) :
    m.begun i = [] := by
  unfold begun
  split
  · rename_i waiting
    simp only [Bool.and_eq_true, waitsAt_eq] at waiting
    rw [Thread.eq_of_awaitsHook waiting.1] at hr
    simp only [Thread.exec, Body.exec] at hr
    split at hr <;> simp at hr
  · rfl

/-- What a self-closing channel keeps along every run. Its lifecycle is consistent and keeps the
hook count, and the generation is even exactly while the channel is shut. -/
structure Sound (m : SelfClosing) : Prop where
  consistent : ∃ walk, Consistent m.base walk
  balanced : ∃ opens closes, Balanced m.base opens closes
  paired : m.base.shared.cycle.Paired
  bound : m.table.isSome = true → m.base.shared.cycle.state ≠ .closed
  unbound : ∀ j, (m.base.threads j).body = .closeFinish → m.table = none
  drained : m.base.shared.cycle.state = .closed → m.drained = true
  retired : ∀ tr ∈ m.runners.filterMap (·.leg.trigger?), m.generation = tr.generation ∨
    (m.generation = tr.generation + 1 ∧ m.base.shared.cycle.state = .closing)
  closers : ∀ c ∈ m.closers, c.1 < m.base.spawned ∧
    Scheduled c.2 m.base.shared.cycle (m.base.threads c.1).body
  started : ∀ tr ∈ m.triggers, tr.started ≤ m.serials ∧ ∀ x ∈ m.pending, tr.started ≤ x.serial
  logged : ∀ s ∈ m.selfCloses, s.1 < m.generation ∧ s.1 = s.2.generation
  ordered : (m.selfCloses.map (·.1)).Pairwise (· < ·)

theorem sound_init : Sound {} where
  consistent := ⟨[], consistent_init⟩
  balanced := ⟨0, 0, balanced_init⟩
  paired := by unfold Cycle.Paired; decide
  bound := by simp
  unbound _ _ := rfl
  drained _ := rfl
  retired := by simp
  closers := by simp
  started := by simp [SelfClosing.triggers]
  logged := by simp
  ordered := by simp

namespace Sound

theorem spawn (h : Sound m) (u : Thread) (held : u.held = none) (free : u.body.holdsLife = false) :
    Sound { m with base := m.base.spawn u } := by
  obtain ⟨walk, hc⟩ := h.consistent
  obtain ⟨opens, closes, hb⟩ := h.balanced
  have hc' := hc.spawn_free held free
  refine { h with consistent := ⟨walk, hc'⟩, balanced := ⟨opens, closes, hb.spawn_free hc hc' free⟩,
                  unbound := ?_, closers := ?_ }
  · intro j hj
    simp only [Machine.spawn_threads, Function.update_apply] at hj
    split_ifs at hj
    · simp [hj, Body.holdsLife] at free
    · exact h.unbound j hj
  · intro c hc
    obtain ⟨lt, sched⟩ := h.closers c hc
    refine ⟨by simp; omega, ?_⟩
    simpa [Function.update_apply, Nat.ne_of_lt lt] using sched

theorem call (h : Sound m) (c : UserCall) : Sound (m.step (.call c)) :=
  h.spawn c.toCall.thread (by cases c <;> rfl) (by cases c <;> rfl)

theorem schedule (h : Sound m) {tr : Trigger}
    (now : m.generation = tr.generation ∨
      (m.generation = tr.generation + 1 ∧ m.base.shared.cycle.state = .closing))
    (first : tr.started ≤ m.serials ∧ ∀ x ∈ m.pending, tr.started ≤ x.serial) :
    Sound { m with base := m.base.spawn { body := .laterLock m.generation },
                   closers := m.closers ++ [(m.base.spawned, tr)] } := by
  have spawned := h.spawn { body := .laterLock m.generation } rfl rfl
  refine { spawned with closers := ?_, started := ?_ }
  · intro c hc
    rcases List.mem_append.1 hc with old | new
    · exact spawned.closers c old
    · obtain rfl := List.mem_singleton.1 new
      refine ⟨by simp, ?_⟩
      simp only [Machine.spawn_threads, Function.update_self, Scheduled]
      rcases now with same | ⟨next, closing⟩
      · exact Or.inl same
      · -- a closing channel is in an even generation
        have even : m.generation % 2 = 0 := h.paired.1 (by simp [closing, LifeState.shut])
        exact Or.inr ⟨next, even⟩
  · intro tr' htr
    simp only [triggers, List.map_append, List.map_cons, List.map_nil, List.mem_append,
      List.mem_singleton] at htr
    rcases htr with old | old | rfl
    · exact h.started tr' (List.mem_append_left _ old)
    · exact h.started tr' (List.mem_append_right _ old)
    · exact first

theorem bind (h : Sound m) {i : Nat} (opener : m.waitsAt i .openHook = true) (o : RequestOptions)
    (e : Engine) (p : Bool) :
    Sound { m with table := some { options := o, engine := e, privateEngine := p } } := by
  obtain ⟨walk, hc⟩ := h.consistent
  obtain ⟨opens, closes, hb⟩ := h.balanced
  have waiting := eq_of_waitsAt opener
  have holds : (m.base.threads i).body.holdsLife = true := by rw [waiting]; rfl
  have live : m.base.shared.cycle.state ≠ .closed := hb.opener i (by rw [waiting]; rfl)
  refine { h with bound := fun _ => live, unbound := ?_, drained := fun closed => absurd closed live,
                  started := fun tr htr => ⟨(h.started tr htr).1, by simp [pending]⟩ }
  intro j hj
  -- a thread finishing a close would hold the life lock too
  have same : i = j := hc.holders_eq holds (by rw [hj]; rfl)
  subst same
  simp [waiting] at hj

theorem unbind (h : Sound m) : Sound { m with table := none } :=
  { h with bound := by simp, unbound := fun _ _ => rfl,
           started := fun tr htr => ⟨(h.started tr htr).1, by simp [pending]⟩ }

theorem cancel (h : Sound m) (addr : Int) :
    Sound { m with table := m.table.map (RequestLine.cancel · addr) } := by
  refine { h with bound := fun bound => h.bound (by simpa using bound), unbound := ?_,
                  started := ?_ }
  · intro j hj
    simp [h.unbound j hj]
  · intro tr htr
    refine ⟨(h.started tr htr).1, fun x hx => (h.started tr htr).2 x ?_⟩
    cases ht : m.table with
    | none => simp [pending, ht] at hx
    | some l =>
      simp only [pending, ht, Option.map_some, Option.getD_some, RequestLine.cancel_pending,
        List.mem_filter] at hx ⊢
      exact hx.1

theorem start (h : Sound m) {addr : Int} {r : Outgoing} {m' : SelfClosing}
    (hs : m.start addr r = .ok m') : Sound m' := by
  obtain ⟨l, l', hl, hl', rfl⟩ := start_eq_ok hs
  obtain ⟨-, x, prepared, rfl⟩ := l.start_ok hl'
  have serial := (l.prepare_fields prepared).1
  have live := h.bound (by simp [hl])
  refine { h with bound := fun _ => live, unbound := fun j hj => by simp [h.unbound j hj] at hl,
                  drained := fun closed => absurd closed live, retired := ?_, started := ?_ }
  · intro tr htr
    exact h.retired tr (by simpa [Leg.trigger?] using htr)
  · intro tr htr
    have before := h.started tr (by simpa [triggers, Leg.trigger?] using htr)
    refine ⟨Nat.le_succ_of_le before.1, fun y hy => ?_⟩
    simp only [pending, Option.map_some, Option.getD_some, List.mem_append,
      List.mem_singleton] at hy
    rcases hy with old | rfl
    · exact before.2 y (by simp [pending, hl, old])
    · exact serial ▸ before.1

theorem hook (h : Sound m) (i : Nat) (calls : List TransportCall) (fails : Bool)
    (unbound : m.waitsAt i .closeHook = false ∨ m.table = none) : Sound (m.hook i calls fails) := by
  obtain ⟨walk, hc⟩ := h.consistent
  obtain ⟨opens, closes, hb⟩ := h.balanced
  refine { h with consistent := ⟨_, hc.step (.hook i calls fails)⟩,
                  balanced := ⟨_, _, hb.step hc (.hook i calls fails)⟩,
                  unbound := ?_, closers := ?_ }
  · intro j hj
    simp only [SelfClosing.hook, Machine.step, Function.update_apply] at hj
    split_ifs at hj with same
    · subst same
      rcases Thread.closeFinish_of_hook hj with finishing | closing
      · exact h.unbound j finishing
      · rcases unbound with other | gone
        · rw [waitsAt_eq, closing] at other
          cases other
        · exact gone
    · exact h.unbound j hj
  · intro c hc
    obtain ⟨lt, sched⟩ := h.closers c hc
    refine ⟨lt, ?_⟩
    simp only [SelfClosing.hook, Machine.step, Function.update_apply]
    split_ifs with same
    · subst same
      exact sched.hook calls fails
    · exact sched

theorem setLeg_quiet (h : Sound m) (s : Nat) {leg : Leg} (quiet : leg.trigger? = none)
    (drained : m.base.shared.cycle.state = .closed → (m.setLeg s leg).drained = true) :
    Sound (m.setLeg s leg) := by
  refine { h with drained := drained, retired := ?_, started := ?_ }
  · intro tr htr
    rcases trigger_of_setLeg htr with old | new
    · exact h.retired tr old
    · simp [quiet] at new
  · intro tr htr
    rcases List.mem_append.1 htr with runner | closer
    · rcases trigger_of_setLeg runner with old | new
      · exact h.started tr (List.mem_append_left _ old)
      · simp [quiet] at new
    · exact h.started tr (List.mem_append_right _ closer)

theorem retire (h : Sound m) {l : RequestLine} (hl : m.table = some l) (s : Nat) :
    Sound ({ m with table := some (l.retire s).1 }.setLeg s (.retired
      (if (l.retire s).2 && l.options.autoclose then
        some { generation := m.generation, started := m.serials } else none))) := by
  have live := h.bound (by simp [hl])
  have kept : ∀ x ∈ (l.retire s).1.pending, x ∈ l.pending := by
    intro x hx
    rw [RequestLine.retire_pending, List.mem_filter] at hx
    exact hx.1
  refine { h with bound := fun _ => live, unbound := fun j hj => by simp [h.unbound j hj] at hl,
                  drained := fun closed => absurd closed live, retired := ?_, started := ?_ }
  · intro tr htr
    rcases trigger_of_setLeg htr with old | new
    · exact h.retired tr old
    · left
      split at new
      · simp only [Leg.trigger?, Option.some.injEq] at new
        subst new
        rfl
      · simp [Leg.trigger?] at new
  · intro tr htr
    rcases List.mem_append.1 htr with runner | closer
    · rcases trigger_of_setLeg runner with old | new
      · have before := h.started tr (List.mem_append_left _ old)
        exact ⟨before.1, fun x hx => before.2 x (by simpa [pending, hl] using kept x hx)⟩
      · -- the retire that triggered left the table empty
        split at new
        · rename_i empty
          simp only [Leg.trigger?, Option.some.injEq] at new
          subst new
          simp only [Bool.and_eq_true, RequestLine.retire, List.isEmpty_iff] at empty
          exact ⟨le_rfl, by simp [pending, RequestLine.retire, empty.1]⟩
        · simp [Leg.trigger?] at new
    · have before := h.started tr (List.mem_append_right _ closer)
      exact ⟨before.1, fun x hx => before.2 x (by simpa [pending, hl] using kept x hx)⟩

theorem finish (h : Sound m) (s : Nat) : Sound (m.step (.finish s)) := by
  simp only [SelfClosing.step]
  split
  · rename_i serial hr
    split
    · rename_i l hl
      exact h.retire hl s
    · -- without a table the channel may be closed, but not drained while the goroutine runs
      have busy : m.drained = false := drained_false (mem_runners hr) (by simp)
      exact h.setLeg_quiet s rfl fun closed => by simp [h.drained closed] at busy
  · exact h

theorem wrapUp (h : Sound m) (s : Nat) : Sound (m.step (.wrapUp s)) := by
  simp only [SelfClosing.step]
  split
  · rename_i serial trigger hr
    have returned := h.setLeg_quiet s rfl fun closed => drained_setLeg (h.drained closed) s
    split
    · rename_i tr
      have htr : tr ∈ m.runners.filterMap (·.leg.trigger?) :=
        List.mem_filterMap.2 ⟨_, mem_runners hr, rfl⟩
      exact returned.schedule (h.retired tr htr) (h.started tr (List.mem_append_left _ htr))
    · exact returned
  · exact h

theorem opened (h : Sound m) (i : Nat) (bound : Option (RequestOptions × Engine × Bool)) :
    Sound (m.step (.opened i bound)) := by
  simp only [SelfClosing.step]
  split
  · rename_i opener
    -- the thread runs its open hook, not a close hook
    have other := waitsAt_closeHook opener (by decide)
    rcases bound with _ | ⟨o, e, p⟩
    · exact h.hook i [] true (.inl (other _ rfl))
    · have bound := h.bind opener o e p
      dsimp only
      split
      · split
        · rename_i m' started
          exact (bound.start started).hook i _ false
            (.inl (other _ ((base_of_start started).trans rfl)))
        · exact bound.hook i _ true (.inl (other _ rfl))
      · exact bound.hook i _ false (.inl (other _ rfl))
  · exact h

theorem closed (h : Sound m) (i : Nat) : Sound (m.step (.closed i)) := by
  simp only [SelfClosing.step]
  split
  · exact h.unbind.hook i [] false (.inr rfl)
  · exact h

theorem posted (h : Sound m) (i : Nat) (action : PostAction) : Sound (m.step (.posted i action)) := by
  simp only [SelfClosing.step]
  split
  · rename_i poster
    -- the thread runs its post hook, not a close hook
    have other := waitsAt_closeHook poster (by decide)
    split
    · split
      · rename_i m' started
        exact (h.start started).hook i [] false (.inl (other _ (base_of_start started)))
      · exact h.hook i [] false (.inl (other _ rfl))
    · exact (h.cancel _).hook i [] false (.inl (other _ rfl))
    · exact h.hook i [] false (.inl (other _ rfl))
  · exact h

section Advance

variable {i : Nat} {sh' : Shared} {t' : Thread} {sp : Option Thread}
  (h : Sound m) (hs : Thread.Step m.base.shared i (m.base.threads i) sh' t' sp)
include h hs

theorem advance_unbound :
    ∀ j, ((m.base.advance i (sh', t', sp)).threads j).body = .closeFinish → m.table = none := by
  obtain ⟨walk, hc⟩ := h.consistent
  intro j hj
  rw [Machine.advance_threads (hc.stepping_lt hs)] at hj
  split_ifs at hj with hji hjs
  · exact h.unbound i (hs.closeFinish_of hj)
  · -- a thread a step starts waits for the life lock
    have quiet := hs.started_quiet.2.2.1
    rw [hjs, hc.fresh _ le_rfl] at hj
    simp [hj, Body.holdsLife] at quiet
  · exact h.unbound j hj

theorem advance_closers :
    ∀ c ∈ m.closers, c.1 < (m.base.advance i (sh', t', sp)).spawned ∧
      Scheduled c.2 sh'.cycle ((m.base.advance i (sh', t', sp)).threads c.1).body := by
  obtain ⟨walk, hc⟩ := h.consistent
  intro c hc'
  obtain ⟨lt, sched⟩ := h.closers c hc'
  refine ⟨by cases sp <;> simp <;> omega, ?_⟩
  rw [Machine.advance_threads (hc.stepping_lt hs)]
  split_ifs with same fresh
  · subst same
    exact sched.step hs h.paired hc.not_closing_of_holder
  · exact absurd fresh (Nat.ne_of_lt lt)
  · -- the start of a close holds the life lock, so the stepping thread does not
    refine sched.of_cycle fun begins => hs.keeps_of_other (hc.free_of_other ?_ (Ne.symm same))
    exact (hc.life c.1).2 (by rw [begins]; rfl)

theorem advance_retired (unblocked : m.waitsAt i .closeFinish = true → m.drained = true) :
    ∀ tr ∈ m.runners.filterMap (·.leg.trigger?), sh'.cycle.generation = tr.generation ∨
      (sh'.cycle.generation = tr.generation + 1 ∧ sh'.cycle.state = .closing) := by
  obtain ⟨walk, hc⟩ := h.consistent
  intro tr htr
  have busy := drained_false_of_trigger htr
  have live : m.base.shared.cycle.state ≠ .closed := fun closed => by
    simp [h.drained closed] at busy
  have stays : ¬((m.base.threads i).held = none ∧ (m.base.threads i).work = [] ∧
      (m.base.threads i).body = .closeFinish) := by
    rintro ⟨free, idle, finishing⟩
    simp [unblocked (by simp [waitsAt, free, idle, finishing])] at busy
  have before := h.retired tr htr
  simp only [generation] at before
  by_cases moved : sh'.cycle.generation = m.base.shared.cycle.generation
  · rcases before with same | ⟨next, closing⟩
    · exact Or.inl (moved.trans same)
    · rcases hs.closing_after closing with still | finishing
      · exact Or.inr ⟨moved.trans next, still⟩
      · exact absurd finishing stays
  · obtain ⟨next, how⟩ := hs.generation_moves moved
    rcases how with closed | ⟨-, -, begins, closing⟩
    · exact absurd closed live
    · -- the close began on a channel that was not closing, so in the trigger's generation
      have notClosing : m.base.shared.cycle.state ≠ .closing :=
        hc.not_closing_of_holder (by rw [begins]; rfl) (by rw [begins]; rfl)
      rcases before with same | ⟨-, closing'⟩
      · exact Or.inr ⟨by omega, closing⟩
      · exact absurd closing' notClosing

theorem begun_spec {x : Nat × Trigger} (hx : x ∈ m.begun i) :
    x.1 = m.generation ∧ x.1 = x.2.generation ∧ sh'.cycle.generation = m.generation + 1 := by
  unfold begun at hx
  split at hx
  · rename_i waiting
    simp only [Bool.and_eq_true, bne_iff_ne, ne_eq] at waiting
    obtain ⟨c, found, rfl⟩ : ∃ c, m.closers.find? (·.1 = i) = some c ∧ x = (m.generation, c.2) := by
      cases hf : m.closers.find? (·.1 = i) <;> simp_all
    have same : c.1 = i := by simpa using List.find?_some found
    have sched := (h.closers c (List.mem_of_find?_eq_some found)).2
    have eq := eq_of_waitsAt waiting.1
    rw [same, eq] at sched
    rw [eq] at hs
    simp only [Scheduled] at sched
    exact ⟨rfl, sched.1, hs.closeBegin_generation waiting.2⟩
  · simp at hx

theorem advance_logged :
    ∀ x ∈ m.selfCloses ++ m.begun i, x.1 < sh'.cycle.generation ∧ x.1 = x.2.generation := by
  intro x hx
  rcases List.mem_append.1 hx with old | new
  · have before := h.logged x old
    exact ⟨lt_of_lt_of_le before.1 hs.generation_le, before.2⟩
  · obtain ⟨now, trig, next⟩ := begun_spec h hs new
    simp only [generation] at now next
    exact ⟨by omega, trig⟩

theorem advance_ordered : ((m.selfCloses ++ m.begun i).map (·.1)).Pairwise (· < ·) := by
  rw [List.map_append, List.pairwise_append]
  refine ⟨h.ordered, ?_, ?_⟩
  · obtain ⟨o, ho⟩ := begun_eq (m := m) i
    rw [ho]
    cases o <;> simp
  · simp only [List.mem_map]
    rintro _ ⟨x, old, rfl⟩ _ ⟨y, new, rfl⟩
    have before := (h.logged x old).1
    have now := (begun_spec h hs new).1
    omega

theorem advance (unblocked : m.waitsAt i .closeFinish = true → m.drained = true) :
    Sound { m with base := m.base.advance i (sh', t', sp),
                   selfCloses := m.selfCloses ++ m.begun i } := by
  obtain ⟨walk, hc⟩ := h.consistent
  obtain ⟨opens, closes, hb⟩ := h.balanced
  have begins : (m.base.threads i).body = .closeBegin → m.base.shared.cycle.state ≠ .closing :=
    fun begins => hc.not_closing_of_holder (by rw [begins]; rfl) (by rw [begins]; rfl)
  refine
    { consistent := ⟨_, hc.advance hs⟩
      balanced := ⟨opens, closes, Balanced.advance hc hs hb⟩
      paired := ?paired, bound := ?bound, unbound := advance_unbound h hs, drained := ?drained
      retired := ?retired, closers := ?closers, started := h.started, logged := ?logged
      ordered := advance_ordered h hs }
  case paired =>
    simp only [Machine.advance_shared]
    exact hs.paired h.paired (hc.closer i) begins
  case bound =>
    intro bound
    simp only [Machine.advance_shared]
    intro closed
    rcases hs.closed_after closed with was | ⟨-, -, finishing⟩
    · exact h.bound bound was
    · simp [h.unbound i finishing] at bound
  case drained =>
    simp only [Machine.advance_shared]
    intro closed
    rcases hs.closed_after closed with was | ⟨free, idle, finishing⟩
    · exact h.drained was
    · exact unblocked (by simp [waitsAt, free, idle, finishing])
  case retired =>
    simp only [generation, Machine.advance_shared]
    exact advance_retired h hs unblocked
  case closers =>
    simp only [Machine.advance_shared]
    exact advance_closers h hs
  case logged =>
    simp only [generation, Machine.advance_shared]
    exact advance_logged h hs

end Advance

theorem stepThread (h : Sound m) (i : Nat) : Sound (m.step (.step i)) := by
  simp only [SelfClosing.step]
  split
  · exact h
  · rename_i unblocked
    have unblocked' : m.waitsAt i .closeFinish = true → m.drained = true := by
      intro waiting
      simpa [waiting] using unblocked
    simp only [Machine.step]
    split
    · rename_i r hr
      obtain ⟨sh', t', sp⟩ := r
      exact h.advance (Thread.step_of_exec hr) unblocked'
    · rename_i hr
      rw [begun_of_stuck hr, List.append_nil]
      exact h

theorem step (h : Sound m) : ∀ e, Sound (m.step e)
  | .call c => h.call c
  | .step i => h.stepThread i
  | .opened i bound => h.opened i bound
  | .closed i => h.closed i
  | .posted i action => h.posted i action
  | .finish s => h.finish s
  | .wrapUp s => h.wrapUp s

theorem run (h : Sound m) (es : List SelfClosing.Event) : Sound (m.run es) := by
  induction es generalizing m with
  | nil => exact h
  | cons e es ih => exact ih (h.step e)

end Sound

end SelfClosing

/-- A self-closing request channel begins at most one close of its own per open cycle, never with an
older exchange still in the table. -/
theorem self_close_once_per_cycle (es : List SelfClosing.Event) :
    let m := ({} : SelfClosing).run es
    (∀ c ∈ m.closers, ∀ x ∈ m.pending, c.2.started ≤ x.serial) ∧
      (m.selfCloses.map (·.1)).Pairwise (· < ·) ∧
      ∀ s ∈ m.selfCloses, s.1 = s.2.generation := by
  intro m
  have h : SelfClosing.Sound m := SelfClosing.sound_init.run es
  refine ⟨fun c hc => ?_, h.ordered, fun s hs => (h.logged s hs).2⟩
  exact (h.started c.2 (List.mem_append_right _ (List.mem_map_of_mem hc))).2

-- The open runs to its hook, which binds a self-closing table and starts address 0; once the open
-- is done, the exchange ends and its retire empties the table, and the close scheduled when its
-- goroutine wraps up begins in generation 1, where it was triggered.
example :
    (({} : SelfClosing).run
      ([.call (.open true)] ++ List.replicate 6 (.step 0) ++
        [.opened 0 (some ({ (default : RequestOptions) with base := "http://h", autoclose := true },
          {}, false))] ++
        List.replicate 14 (.step 0) ++ [.finish 0, .wrapUp 0, .step 1, .step 1, .step 1])).selfCloses =
      [(1, ⟨1, 1⟩)] := by
  decide +kernel

end ChannelMux.Http
