import ChannelMux.Direct.Pair
import ChannelMux.Proofs.ShutdownOnce
import Mathlib

/-! Direct pairs under every interleaving of their callers, pumps, closes and reopens. -/

namespace ChannelMux.Direct

variable {α : Type}

/-- What a queue keeps: what its pump dispatched followed by what waits is what it accepted, and
no more messages wait than it can take. -/
structure Queue.Sound (q : Queue α) : Prop where
  fifo : q.dispatched ++ q.waiting = q.accepted
  bounded : q.waiting.length ≤ q.capacity

/-- Every queue of a pair keeps `Queue.Sound`. -/
def Pair.Sound (p : Pair α) : Prop := ∀ q ∈ p.queues, q.Sound

namespace Pair

/-- The queue of an end while it is open. -/
def current (p : Pair α) (f : Nat) : Option (Queue α) := (p.queueOf f).bind fun k => p.queues[k]?

/-- What putting a message in end `f`'s queue answers. -/
def admits (p : Pair α) (f : Nat) : Answer :=
  match p.current f with
  | none => .invalid
  | some q => if q.capacity ≤ q.waiting.length then .full else .accepted

theorem enqueue_answer (p : Pair α) (f : Nat) (m : α) : (p.enqueue f m).2 = p.admits f := by
  unfold admits current enqueue
  cases hk : p.queueOf f with
  | none => rfl
  | some k =>
    cases hq : p.queues[k]? with
    | none => simp [hq]
    | some q => by_cases full : q.capacity ≤ q.waiting.length <;> simp [hq, full]

namespace Sound

variable {p : Pair α} (hs : p.Sound)
include hs

theorem set_queue {k : Nat} {q : Queue α} (hq : q.Sound) :
    Pair.Sound { p with queues := p.queues.set k q } := by
  intro r mem
  rcases List.mem_or_eq_of_mem_set mem with old | rfl
  · exact hs r old
  · exact hq

theorem modify_queue {k : Nat} {g : Queue α → Queue α} (hg : ∀ q, q.Sound → (g q).Sound) :
    Pair.Sound { p with queues := p.queues.modify k g } := by
  intro r mem
  rcases Shutdown.mem_of_mem_modify mem with old | ⟨q, old, rfl⟩
  · exact hs r old
  · exact hg q (hs q old)

theorem enqueue (f : Nat) (m : α) : (p.enqueue f m).1.Sound := by
  unfold Pair.enqueue
  split
  · exact hs
  · rename_i k _
    split
    · exact hs
    · rename_i q hq
      have sound := hs q (List.mem_of_getElem? hq)
      split_ifs with full
      · exact hs
      · refine hs.set_queue ⟨?_, ?_⟩
        · rw [← List.append_assoc, sound.fifo]
        · simp only [List.length_append, List.length_singleton]
          omega

theorem create (f : Option Nat) : (p.create f).Sound := by
  unfold Pair.create
  split
  · exact hs
  · split
    · split_ifs
      · exact hs
      · exact hs
    · exact hs

theorem openEnd (e size : Nat) : (p.openEnd e size).Sound := by
  unfold Pair.openEnd
  split
  · split_ifs
    · intro r mem
      rcases List.mem_append.mp mem with old | fresh
      · exact hs r old
      · rw [List.mem_singleton.mp fresh]
        exact ⟨rfl, Nat.zero_le _⟩
    · exact hs
  · exact hs

theorem take (k : Nat) : (p.take k).Sound := by
  unfold Pair.take
  split
  · rename_i q hq
    have sound := hs q (List.mem_of_getElem? hq)
    split
    · rename_i x rest waiting
      refine hs.set_queue ⟨?_, ?_⟩
      · rw [← sound.fifo, waiting]
        simp
      · have := sound.bounded
        rw [waiting] at this
        simp only [List.length_cons] at this
        simp only
        omega
    · exact hs
  · exact hs

theorem exit (k : Nat) : (p.exit k).Sound := by
  unfold Pair.exit
  split
  · rename_i q hq
    have sound := hs q (List.mem_of_getElem? hq)
    split_ifs
    · exact hs.set_queue ⟨sound.fifo, sound.bounded⟩
    · exact hs
  · exact hs

theorem op_exec {op : Op α} {e : Effect α} (he : op.exec p = some e) : e.pair.Sound := by
  cases op with
  | post x m =>
    simp only [Op.exec] at he
    split at he <;> cases he <;> exact hs
  | enqueue f m =>
    simp only [Op.exec] at he
    cases he
    exact hs.enqueue f m
  | detach x =>
    simp only [Op.exec] at he
    split at he <;> cases he <;> exact hs
  | stop k =>
    cases he
    exact hs.modify_queue fun q sound => ⟨sound.fifo, sound.bounded⟩
  | await k =>
    simp only [Op.exec] at he
    split at he
    · cases he
    · cases he
      exact hs
  | release x =>
    simp only [Op.exec] at he
    split at he <;> cases he <;> exact hs
  | detachPeer f x =>
    simp only [Op.exec] at he
    split at he
    · split at he <;> cases he <;> exact hs
    · cases he
      exact hs

end Sound

end Pair

theorem Thread.exec_eq_some {t t' : Thread α} {p p' : Pair α} (hx : t.exec p = some (p', t')) :
    ∃ op rest e, t.ops = op :: rest ∧ op.exec p = some e ∧ p' = e.pair ∧
      t' = { ops := e.next ++ rest, answers := t.answers ++ e.answer.toList } := by
  unfold Thread.exec at hx
  split at hx
  · cases hx
  · rename_i op rest ops
    cases he : op.exec p with
    | none => simp [he] at hx
    | some e =>
      simp only [he, Option.map_some, Option.some.injEq, Prod.mk.injEq] at hx
      exact ⟨op, rest, e, ops, he, hx.1.symm, hx.2.symm⟩

namespace Pair

variable {p : Pair α}

theorem current_mem {f : Nat} {q : Queue α} (hq : p.current f = some q) : q ∈ p.queues := by
  unfold current at hq
  cases hk : p.queueOf f with
  | none => simp [hk] at hq
  | some k =>
    rw [hk, Option.bind_some] at hq
    exact List.mem_of_getElem? hq

theorem admits_invalid_iff (f : Nat) : p.admits f = .invalid ↔ p.current f = none := by
  unfold admits
  cases p.current f with
  | none => simp
  | some q => by_cases full : q.capacity ≤ q.waiting.length <;> simp [full]

theorem Sound.admits_full_iff (hs : p.Sound) (f : Nat) :
    p.admits f = .full ↔ ∃ q, p.current f = some q ∧ q.waiting.length = q.capacity := by
  unfold admits
  cases hq : p.current f with
  | none => simp
  | some q =>
    have bounded := (hs q (current_mem hq)).bounded
    by_cases full : q.capacity ≤ q.waiting.length
    · simp [full]
      omega
    · simp [full]
      omega

theorem peerOf_set_queue {e : Nat} {en : End} (he : p.ends[e]? = some en) (k : Option Nat)
    (qs : List (Queue α)) (f : Nat) :
    Pair.peerOf { ends := p.ends.set e { en with queue := k }, queues := qs } f = p.peerOf f := by
  unfold peerOf
  by_cases same : e = f
  · subst same
    obtain ⟨lt, get⟩ := List.getElem?_eq_some_iff.mp he
    simp [lt, get]
  · simp [List.getElem?_set_ne same]

theorem create_attach {g : Nat} {ge : End} (hg : p.ends[g]? = some ge) (free : ge.peer = none) :
    p.create (some g) = { p with ends := p.ends.set g { ge with peer := some p.ends.length } ++
      [{ master := some g, peer := some g }] } := by
  simp [create, hg, free]

theorem peerOf_create (g : Option Nat) {f : Nat} (hf : f < p.ends.length) :
    (p.create g).peerOf f = p.peerOf f ∨
      (p.peerOf f = none ∧ g = some f ∧ (p.create g).peerOf f = some p.ends.length) := by
  cases g with
  | none => simp [create, peerOf, List.getElem?_append_left hf]
  | some g =>
    cases hg : p.ends[g]? with
    | none => simp [create, hg]
    | some ge =>
      by_cases free : ge.peer = none
      · rw [create_attach hg free]
        have lt := (List.getElem?_eq_some_iff.mp hg).1
        by_cases same : g = f
        · subst same
          right
          refine ⟨by simp [peerOf, hg, free], rfl, ?_⟩
          simp only [peerOf]
          rw [List.getElem?_append_left (by simpa using hf)]
          simp [lt]
        · left
          simp only [peerOf]
          rw [List.getElem?_append_left (by simpa using hf), List.getElem?_set_ne same]
      · simp [create, hg, free]

theorem peerOf_openEnd (e size f : Nat) : (p.openEnd e size).peerOf f = p.peerOf f := by
  unfold openEnd
  cases he : p.ends[e]? with
  | none => rfl
  | some en =>
    simp only
    split_ifs
    · exact peerOf_set_queue he _ _ f
    · rfl

@[simp] theorem take_ends (k : Nat) : (p.take k).ends = p.ends := by
  unfold take
  split
  · split <;> rfl
  · rfl

@[simp] theorem exit_ends (k : Nat) : (p.exit k).ends = p.ends := by
  unfold exit
  split
  · split_ifs <;> rfl
  · rfl

@[simp] theorem enqueue_ends (f : Nat) (x : α) : (p.enqueue f x).1.ends = p.ends := by
  unfold enqueue
  split
  · rfl
  · split
    · rfl
    · split_ifs <;> rfl

theorem op_exec_peerOf {op : Op α} {e : Effect α} (he : op.exec p = some e) (f : Nat) :
    e.pair.peerOf f = p.peerOf f ∨
      ∃ s, op = .detachPeer f s ∧ p.peerOf f = some s ∧ e.pair.peerOf f = none := by
  cases op with
  | post x m =>
    simp only [Op.exec] at he
    split at he <;> cases he <;> exact .inl rfl
  | enqueue g m =>
    simp only [Op.exec] at he
    cases he
    left
    simp [peerOf]
  | detach x =>
    simp only [Op.exec] at he
    split at he
    · rename_i en hx
      cases he
      exact .inl (peerOf_set_queue hx none _ f)
    · cases he
      exact .inl rfl
  | stop k =>
    cases he
    exact .inl rfl
  | await k =>
    simp only [Op.exec] at he
    split at he
    · cases he
    · cases he
      exact .inl rfl
  | release x =>
    simp only [Op.exec] at he
    split at he <;> cases he <;> exact .inl rfl
  | detachPeer g x =>
    simp only [Op.exec] at he
    split at he
    · rename_i ge hg
      split at he
      · rename_i held
        cases he
        have lt := (List.getElem?_eq_some_iff.mp hg).1
        by_cases same : g = f
        · subst same
          right
          exact ⟨x, rfl, by simp [peerOf, hg, held], by simp [peerOf, lt]⟩
        · left
          simp [peerOf, List.getElem?_set_ne same]
      · cases he
        exact .inl rfl
    · cases he
      exact .inl rfl

end Pair

namespace Machine

theorem step_sound {m : Machine α} (hs : m.pair.Sound) (ev : Event α) : (m.step ev).pair.Sound := by
  cases ev with
  | create f => exact hs.create f
  | openEnd e size => exact hs.openEnd e size
  | call c => exact hs
  | step i =>
    simp only [Machine.step]
    split
    · split
      · rename_i p t' hx
        obtain ⟨op, rest, e, -, he, rfl, -⟩ := Thread.exec_eq_some hx
        exact hs.op_exec he
      · exact hs
    · exact hs
  | take k => exact hs.take k
  | exit k => exact hs.exit k

theorem sound_run (es : List (Event α)) : (({} : Machine α).run es).pair.Sound := by
  suffices ∀ (m : Machine α), m.pair.Sound → (m.run es).pair.Sound from
    this {} fun q mem => by simp at mem
  induction es with
  | nil => exact fun m hs => hs
  | cons ev es ih => exact fun m hs => ih (m.step ev) (step_sound hs ev)

variable {m : Machine α}

theorem step_of_exec {i : Nat} {t t' : Thread α} {p : Pair α} (ht : m.threads[i]? = some t)
    (hx : t.exec m.pair = some (p, t')) :
    (m.step (.step i)).pair = p ∧ (m.step (.step i)).threads[i]? = some t' := by
  have lt := (List.getElem?_eq_some_iff.mp ht).1
  simp only [Machine.step, ht, hx]
  simp [lt]

theorem step_post {i : Nat} {t : Thread α} {e : Nat} {x : α} {rest : List (Op α)}
    (ht : m.threads[i]? = some t) (ops : t.ops = .post e x :: rest) :
    (m.step (.step i)).threads[i]? =
      some (match m.pair.peerOf e with
        | none => { ops := rest, answers := t.answers ++ [.invalid] }
        | some f => { ops := .enqueue f x :: rest, answers := t.answers }) := by
  cases hp : m.pair.peerOf e with
  | none =>
    have hx : t.exec m.pair = some (m.pair, { ops := rest, answers := t.answers ++ [.invalid] }) := by
      simp [Thread.exec, ops, Op.exec, hp]
    exact (step_of_exec ht hx).2
  | some f =>
    have hx : t.exec m.pair = some (m.pair, { ops := .enqueue f x :: rest, answers := t.answers }) := by
      simp [Thread.exec, ops, Op.exec, hp]
    exact (step_of_exec ht hx).2

theorem step_enqueue {i : Nat} {t : Thread α} {f : Nat} {x : α} {rest : List (Op α)}
    (ht : m.threads[i]? = some t) (ops : t.ops = .enqueue f x :: rest) :
    (m.step (.step i)).threads[i]? = some { ops := rest, answers := t.answers ++ [m.pair.admits f] } := by
  have hx : t.exec m.pair = some ((m.pair.enqueue f x).1,
      { ops := rest, answers := t.answers ++ [m.pair.admits f] }) := by
    simp [Thread.exec, ops, Op.exec, Pair.enqueue_answer]
  exact (step_of_exec ht hx).2

theorem step_peerOf (ev : Event α) {f : Nat} (hf : f < m.pair.ends.length) :
    (m.step ev).pair.peerOf f = m.pair.peerOf f ∨
      (m.pair.peerOf f = none ∧ ev = .create (some f) ∧
        (m.step ev).pair.peerOf f = some m.pair.ends.length) ∨
      ∃ s i t rest, m.pair.peerOf f = some s ∧ (m.step ev).pair.peerOf f = none ∧
        ev = .step i ∧ m.threads[i]? = some t ∧ t.ops = .detachPeer f s :: rest := by
  cases ev with
  | create g =>
    rcases m.pair.peerOf_create g hf with same | ⟨none, rfl, attached⟩
    · exact .inl same
    · exact .inr (.inl ⟨none, rfl, attached⟩)
  | openEnd e size => exact .inl (m.pair.peerOf_openEnd e size f)
  | call c => exact .inl rfl
  | take k => exact .inl (by simp [Machine.step, Pair.peerOf])
  | exit k => exact .inl (by simp [Machine.step, Pair.peerOf])
  | step i =>
    cases ht : m.threads[i]? with
    | none => exact .inl (by simp [Machine.step, ht])
    | some t =>
      cases hx : t.exec m.pair with
      | none => exact .inl (by simp [Machine.step, ht, hx])
      | some r =>
        obtain ⟨p', t'⟩ := r
        obtain ⟨op, rest, e, ops, he, rfl, -⟩ := Thread.exec_eq_some hx
        rw [(step_of_exec ht hx).1]
        rcases Pair.op_exec_peerOf he f with same | ⟨s, rfl, before, after⟩
        · exact .inl same
        · exact .inr (.inr ⟨s, i, t, rest, before, after, rfl, ht, ops⟩)

/-- A direct pair under any interleaving: each queue dispatches what it accepted in order and within
its size, and a post goes to its end's current peer. -/
theorem direct_pairs_deliver_in_order (es : List (Event α)) :
    let m := ({} : Machine α).run es
    (∀ q ∈ m.pair.queues, q.dispatched <+: q.accepted ∧
      q.dispatched ++ q.waiting = q.accepted ∧ q.waiting.length ≤ q.capacity) ∧
    (∀ i t e x rest, m.threads[i]? = some t → t.ops = .post e x :: rest →
      (m.step (.step i)).threads[i]? =
        some (match m.pair.peerOf e with
          | none => { ops := rest, answers := t.answers ++ [.invalid] }
          | some f => { ops := .enqueue f x :: rest, answers := t.answers })) ∧
    (∀ i t f x rest, m.threads[i]? = some t → t.ops = .enqueue f x :: rest →
      (m.step (.step i)).threads[i]? =
        some { ops := rest, answers := t.answers ++ [m.pair.admits f] }) ∧
    (∀ f, m.pair.admits f = .invalid ↔ m.pair.current f = none) ∧
    (∀ f, m.pair.admits f = .full ↔
      ∃ q, m.pair.current f = some q ∧ q.waiting.length = q.capacity) ∧
    (∀ ev f, f < m.pair.ends.length →
      (m.step ev).pair.peerOf f = m.pair.peerOf f ∨
        (m.pair.peerOf f = none ∧ ev = .create (some f) ∧
          (m.step ev).pair.peerOf f = some m.pair.ends.length) ∨
        ∃ s i t rest, m.pair.peerOf f = some s ∧ (m.step ev).pair.peerOf f = none ∧
          ev = .step i ∧ m.threads[i]? = some t ∧ t.ops = .detachPeer f s :: rest) := by
  intro m
  have hs : m.pair.Sound := sound_run es
  refine ⟨fun q mem => ?_, fun i t e x rest ht ops => step_post ht ops,
    fun i t f x rest ht ops => step_enqueue ht ops, Pair.admits_invalid_iff,
    hs.admits_full_iff, fun ev f hf => step_peerOf ev hf⟩
  obtain ⟨fifo, bounded⟩ := hs q mem
  exact ⟨⟨q.waiting, fifo⟩, fifo, bounded⟩

/-- A queue of one message: the first of two posts is accepted and the second is refused as
full, until the pump takes the first. -/
example : (({} : Machine Nat).run [.create none, .create (some 0), .openEnd 0 1,
    .call (.post 1 [7, 8]), .step 0, .step 0, .step 0, .step 0]).threads.map (·.answers) =
      [[.accepted, .full]] := by
  decide

end Machine

end ChannelMux.Direct
