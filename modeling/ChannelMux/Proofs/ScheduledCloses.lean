import ChannelMux.Proofs.Generations

/-! Closes a channel schedules for itself. -/

namespace ChannelMux.Lifecycle

namespace Thread

/-- Whether a thread's next step begins an open (of a closed channel, with its options accepted)
or a close (of a channel that is not closed). -/
def begins (t : Thread) (sh : Shared) : Bool :=
  match t with
  | ⟨none, [], .openBegin ok⟩ => decide (sh.cycle.state = .closed) && ok
  | ⟨none, [], .closeBegin⟩ => decide (sh.cycle.state ≠ .closed)
  | _ => false

/-- Whether a thread's next step is a transport's call scheduling a close. -/
def schedules (t : Thread) : Bool :=
  match t.held, t.work with
  | none, .closeAsync :: _ => true
  | _, _ => false

end Thread

/-- A close scheduled for a channel, as far as it has gone. -/
structure LateClose where
  thread : Nat
  generation : Nat
  begunAtCall : Nat
  found : Option Cycle := none
  checked : Option (Bool × Nat) := none
  deriving DecidableEq, Repr

/-- Whether the check of a scheduled close let it go on into the close. -/
def LateClose.wentOn (l : LateClose) : Bool :=
  match l.checked with
  | some (went, _) => went
  | none => false

/-- What a step of the thread of a scheduled close, from `before` to `after`, adds to its record
`l`, with the record `sh` as the step found it and `begun` opens and closes begun so far. -/
def LateClose.observe (l : LateClose) (before after : Thread) (sh : Shared) (begun : Nat) :
    LateClose :=
  match l.found, l.checked, before with
  | none, _, ⟨none, [], .laterLock _⟩ =>
    if after.body = before.body then l else { l with found := some sh.cycle }
  | some _, none, ⟨none, [], .laterCheck _⟩ =>
    { l with checked := some (after.body == .closeBegin, begun) }
  | _, _, _ => l

/-- A run of a channel, with the opens and closes begun so far and the closes it scheduled. -/
structure Traced where
  machine : Machine := {}
  begun : Nat := 0
  lateCloses : List LateClose := []

namespace Traced

/-- The close thread `i`'s next step schedules, if it schedules one: it runs on the next thread. -/
def scheduled (t : Traced) (i : Nat) : List LateClose :=
  if (t.machine.threads i).schedules then
    [{ thread := t.machine.spawned, generation := t.machine.shared.cycle.generation,
       begunAtCall := t.begun }]
  else []

/-- The record of a scheduled close after thread `i`'s next step: only the close's own thread adds
to it. -/
def note (t : Traced) (i : Nat) (l : LateClose) : LateClose :=
  if l.thread = i then
    l.observe (t.machine.threads i) ((t.machine.step (.step i)).threads i) t.machine.shared t.begun
  else l

/-- Takes one event of the channel, recording what a step of thread `i` begins, schedules or adds
to the record of the close that thread runs. -/
def step (t : Traced) : Event → Traced
  | .step i =>
    { machine := t.machine.step (.step i),
      begun := t.begun + ((t.machine.threads i).begins t.machine.shared).toNat,
      lateCloses := t.lateCloses.map (t.note i) ++ t.scheduled i }
  | e => { t with machine := t.machine.step e }

def run (t : Traced) (es : List Event) : Traced := es.foldl step t

@[simp] theorem step_machine (t : Traced) (e : Event) : (t.step e).machine = t.machine.step e := by
  cases e <;> rfl

@[simp] theorem run_machine (t : Traced) (es : List Event) : (t.run es).machine = t.machine.run es := by
  induction es generalizing t with
  | nil => rfl
  | cons e es ih => exact (ih (t.step e)).trans (by rw [step_machine]; rfl)

end Traced

/-! ### What one step of a thread begins, schedules and records -/

namespace Thread.Step

variable {sh sh' : Shared} {i : Nat} {t t' : Thread} {sp : Option Thread}

theorem generation_begins (hs : Thread.Step sh i t sh' t' sp) :
    sh'.cycle.generation = sh.cycle.generation + (t.begins sh).toNat := by
  cases hs <;> simp_all [Thread.begins]

theorem schedules_eq (hs : Thread.Step sh i t sh' t' sp) : t.schedules = sp.isSome := by
  cases hs <;> rfl

end Thread.Step

namespace Thread

section Stuck

variable {t : Thread} {sh : Shared} {i : Nat}

theorem begins_of_stuck (h : t.exec sh i = none) : t.begins sh = false := by
  unfold begins
  split
  · simp only [exec, Body.exec, Option.map_eq_none_iff] at h
    split at h <;> simp at h
  · simp only [exec, Body.exec, Option.map_eq_none_iff] at h
    split at h <;> simp at h
  · rfl

theorem schedules_of_stuck (h : t.exec sh i = none) : t.schedules = false := by
  obtain ⟨held, work, body⟩ := t
  unfold schedules
  split
  · simp_all [exec, Frame.exec]
  · rfl

theorem observe_of_stuck (h : t.exec sh i = none) (l : LateClose) (begun : Nat) :
    l.observe t t sh begun = l := by
  unfold LateClose.observe
  split
  · simp
  · simp only [exec, Body.exec, Option.map_eq_none_iff] at h
    split at h <;> simp at h
  · rfl

end Stuck

end Thread

/-! ### Where a scheduled close stands -/

namespace LateClose

/-- Where the thread of a scheduled close stands against the channel `m`, with `begun` opens and
closes begun, by how far the close has gone. Before the life lock it waits for it. -/
def Stands (l : LateClose) (m : Machine) (begun : Nat) : Prop :=
  match l.found, l.checked with
  | none, none => m.threads l.thread = { body := .laterLock l.generation }
  | some c, none => m.threads l.thread = { body := .laterCheck l.generation } ∧
      m.shared.cycle.generation = c.generation ∧
      (m.shared.cycle.state = .closed ↔ c.state = .closed)
  | some c, some (went, k) => (went = true ↔ c.generation = l.generation ∧ c.state ≠ .closed) ∧
      (went = true → k = l.begunAtCall ∧ (l.generation < begun ∨
        (m.threads l.thread = { body := .closeBegin } ∧ m.shared.cycle.state ≠ .closed)))
  | none, some _ => False

variable {l : LateClose} {t u : Thread} {sh : Shared} {b : Nat}

@[simp] theorem observe_thread : (l.observe t u sh b).thread = l.thread := by
  unfold observe
  split <;> (try split) <;> rfl

@[simp] theorem observe_generation : (l.observe t u sh b).generation = l.generation := by
  unfold observe
  split <;> (try split) <;> rfl

@[simp] theorem observe_begunAtCall : (l.observe t u sh b).begunAtCall = l.begunAtCall := by
  unfold observe
  split <;> (try split) <;> rfl

theorem wentOn_observe (h : (l.observe t u sh b).wentOn = true) :
    l.wentOn = true ∨
      (l.checked = none ∧ ∃ g, t = { body := .laterCheck g } ∧ u.body = .closeBegin) := by
  unfold observe at h
  split at h
  · split at h <;> simp_all [wentOn]
  · rename_i g _ hc
    exact .inr ⟨hc, g, rfl, by simpa [wentOn] using h⟩
  · exact .inl h

theorem Stands.checked {m : Machine} (h : l.Stands m b) {went : Bool} {k : Nat}
    (hk : l.checked = some (went, k)) :
    ∃ c, l.found = some c ∧ (went = true ↔ c.generation = l.generation ∧ c.state ≠ .closed) ∧
      (went = true → k = l.begunAtCall) := by
  unfold Stands at h
  rw [hk] at h
  rcases hf : l.found with _ | c
  · simp [hf] at h
  · simp only [hf] at h
    exact ⟨c, rfl, h.1, fun hw => (h.2 hw).1⟩

theorem Stands.wentOn {m : Machine} (h : l.Stands m b) (hw : l.wentOn = true) :
    l.generation < b ∨ m.threads l.thread = { body := .closeBegin } := by
  unfold Stands at h
  unfold LateClose.wentOn at hw
  rcases hk : l.checked with _ | ⟨went, k⟩
  · simp [hk] at hw
  · rcases hf : l.found with _ | c
    · simp [hf, hk] at h
    · simp only [hk, hf] at h hw
      rcases (h.2 hw).2 with lt | ⟨closer, -⟩
      exacts [.inl lt, .inr closer]

theorem Stands.congr {m m' : Machine} (h : l.Stands m b)
    (same : m'.threads l.thread = m.threads l.thread) (shared : m'.shared = m.shared) :
    l.Stands m' b := by
  unfold Stands at h ⊢
  rw [same, shared]
  exact h

end LateClose

namespace LateClose

section Advance

variable {l : LateClose} {m : Machine} {walk : List LifeState} {i : Nat} {sh' : Shared}
  {t' : Thread} {sp : Option Thread} {begun : Nat}

theorem Stands.other (h : l.Stands m begun) (hc : Consistent m walk)
    (hs : Thread.Step m.shared i (m.threads i) sh' t' sp) (hne : l.thread ≠ i)
    (hlt : l.thread < m.spawned) {begun' : Nat} (more : begun ≤ begun') :
    l.Stands (m.advance i (sh', t', sp)) begun' := by
  have same : (m.advance i (sh', t', sp)).threads l.thread = m.threads l.thread := by
    rw [Machine.advance_threads (hc.stepping_lt hs), if_neg hne, if_neg (Nat.ne_of_lt hlt)]
  have outside : (m.threads l.thread).body.holdsLife = true →
      (m.threads i).body.holdsLife = false :=
    fun holds => hc.free_of_other ((hc.life _).2 holds) (Ne.symm hne)
  unfold Stands at h ⊢
  rw [same, Machine.advance_shared]
  rcases hf : l.found with _ | c <;> rcases hk : l.checked with _ | ⟨went, k⟩ <;>
    simp only [hf, hk] at h ⊢
  · exact h
  · obtain ⟨thread, generation, closed⟩ := h
    have other := outside (by rw [thread]; rfl)
    exact ⟨thread, (hs.keeps_of_other other).1.trans generation,
      (hs.closed_iff_of_other other).trans closed⟩
  · refine ⟨h.1, fun hw => ⟨(h.2 hw).1, ?_⟩⟩
    rcases (h.2 hw).2 with lt | ⟨closer, live⟩
    · exact .inl (by omega)
    · have other := outside (by rw [closer]; rfl)
      exact .inr ⟨closer, by rwa [Ne, hs.closed_iff_of_other other]⟩

theorem Stands.self (h : l.Stands m begun) (hc : Consistent m walk)
    (hs : Thread.Step m.shared l.thread (m.threads l.thread) sh' t' sp)
    (counted : m.shared.cycle.generation = begun)
    (called : l.generation = l.begunAtCall ∧ l.begunAtCall ≤ begun) :
    (l.observe (m.threads l.thread) t' m.shared begun).Stands (m.advance l.thread (sh', t', sp))
      (begun + ((m.threads l.thread).begins m.shared).toNat) := by
  have own : (m.advance l.thread (sh', t', sp)).threads l.thread = t' := by
    simp [Machine.advance_threads (hc.stepping_lt hs)]
  unfold Stands at h
  rcases hf : l.found with _ | c <;> rcases hk : l.checked with _ | ⟨went, k⟩ <;>
    simp only [hf, hk] at h
  · -- waiting for the life lock: the step takes it and records the cycle
    rw [h] at hs ⊢
    cases hs with
    | laterLock free =>
      simp only [observe, hf, reduceCtorEq, if_false]
      simp [Stands, own, hk]
  · -- holding it: the check reads what the close found
    obtain ⟨thread, generation, closed⟩ := h
    have current_iff : m.shared.cycle.staleFor l.generation = false ↔
        c.generation = l.generation ∧ c.state ≠ .closed := by
      simp [Cycle.staleFor, generation, closed]
    rw [thread] at hs ⊢
    cases hs with
    | laterStale stale =>
      simp only [observe, hf, hk]
      simp only [Stands, reduceCtorEq, beq_iff_eq, false_iff, false_implies, and_true]
      rw [← current_iff, stale]
      simp
    | laterClose current =>
      simp only [Bool.not_eq_true] at current
      have live := (current_iff.1 current).2
      simp only [observe, hf, hk]
      simp only [Stands, beq_self_eq_true, true_iff, forall_const]
      refine ⟨current_iff.1 current, ?_, .inr ⟨own, ?_⟩⟩
      · have := current_iff.1 current
        omega
      · rw [Machine.advance_shared, Ne, closed]
        exact live
  · -- past the check: a close that went on begins, moving the generation on
    have same : l.observe (m.threads l.thread) t' m.shared begun = l := by
      unfold observe
      rw [hf, hk]
    rw [same]
    simp only [Stands, hf, hk]
    refine ⟨h.1, fun hw => ⟨(h.2 hw).1, ?_⟩⟩
    rcases (h.2 hw).2 with lt | ⟨closer, live⟩
    · exact .inl (by omega)
    · rw [closer] at hs ⊢
      cases hs with
      | closeSkipped closed => exact absurd closed live
      | closeBegin => exact .inl (by simp [Thread.begins, live]; omega)

end Advance

end LateClose

/-! ### What every traced run keeps -/

namespace Traced

/-- What a traced run keeps: the channel is consistent, and its generation is the number of opens
and closes begun. -/
structure Sound (t : Traced) : Prop where
  consistent : ∃ walk, Consistent t.machine walk
  counted : t.machine.shared.cycle.generation = t.begun
  distinct : (t.lateCloses.map (·.thread)).Nodup
  started : ∀ l ∈ t.lateCloses,
    l.thread < t.machine.spawned ∧ l.generation = l.begunAtCall ∧ l.begunAtCall ≤ t.begun
  stands : ∀ l ∈ t.lateCloses, l.Stands t.machine t.begun
  once : ∀ l₁ ∈ t.lateCloses, ∀ l₂ ∈ t.lateCloses, l₁.thread ≠ l₂.thread →
    l₁.wentOn = true → l₂.wentOn = true → l₁.generation ≠ l₂.generation

theorem sound_init : Sound {} where
  consistent := ⟨[], consistent_init⟩
  counted := rfl
  distinct := List.nodup_nil
  started := by simp
  stands := by simp
  once := by simp

variable {t : Traced}

theorem Sound.of_threads (h : t.Sound) {m : Machine} {walk : List LifeState}
    (hc : Consistent m walk) (shared : m.shared = t.machine.shared)
    (spawned : t.machine.spawned ≤ m.spawned) (stands : ∀ l ∈ t.lateCloses, l.Stands m t.begun) :
    Sound { t with machine := m } where
  consistent := ⟨walk, hc⟩
  counted := shared ▸ h.counted
  distinct := h.distinct
  started l hl := by
    obtain ⟨lt, rest⟩ := h.started l hl
    exact ⟨by dsimp only; omega, rest⟩
  stands := stands
  once := h.once

theorem Sound.call (h : t.Sound) (c : Call) : (t.step (.call c)).Sound := by
  obtain ⟨walk, hc⟩ := h.consistent
  refine h.of_threads (hc.spawn c) rfl (Nat.le_succ _) fun l hl => (h.stands l hl).congr ?_ rfl
  have lt := (h.started l hl).1
  simp [Machine.step, Nat.ne_of_lt lt]

theorem Sound.hook (h : t.Sound) (i : Nat) (calls : List TransportCall) (fails : Bool) :
    (t.step (.hook i calls fails)).Sound := by
  obtain ⟨walk, hc⟩ := h.consistent
  refine h.of_threads (hc.hook i calls fails) rfl le_rfl fun l hl => ?_
  have hs := h.stands l hl
  by_cases hi : l.thread = i
  · subst hi
    unfold LateClose.Stands at hs ⊢
    simp only [Machine.step, Function.update_self]
    rcases hf : l.found with _ | c <;> rcases hk : l.checked with _ | ⟨went, k⟩ <;>
      simp only [hf, hk] at hs ⊢
    · rw [hs]
      rfl
    · rw [hs.1]
      exact ⟨rfl, hs.2⟩
    · refine ⟨hs.1, fun hw => ⟨(hs.2 hw).1, ?_⟩⟩
      rcases (hs.2 hw).2 with lt | ⟨closer, live⟩
      · exact .inl lt
      · rw [closer]
        exact .inr ⟨rfl, live⟩
  · exact hs.congr (by simp [Machine.step, hi]) rfl

@[simp] theorem note_thread (i : Nat) (l : LateClose) : (t.note i l).thread = l.thread := by
  unfold note
  split <;> simp

@[simp] theorem note_generation (i : Nat) (l : LateClose) :
    (t.note i l).generation = l.generation := by
  unfold note
  split <;> simp

@[simp] theorem note_begunAtCall (i : Nat) (l : LateClose) :
    (t.note i l).begunAtCall = l.begunAtCall := by
  unfold note
  split <;> simp

theorem step_of_stuck {i : Nat} (hx : (t.machine.threads i).exec t.machine.shared i = none) :
    t.step (.step i) = t := by
  have same : t.machine.step (.step i) = t.machine := by simp [Machine.step, hx]
  have kept : t.lateCloses.map (t.note i) = t.lateCloses := by
    refine List.map_id'' (fun l => ?_) _
    unfold note
    split
    · rw [same]
      exact Thread.observe_of_stuck hx l t.begun
    · rfl
  simp [step, same, Thread.begins_of_stuck hx, scheduled, Thread.schedules_of_stuck hx, kept]

section Advance

variable {i : Nat} {sh' : Shared} {t' : Thread} {sp : Option Thread}

theorem Sound.generation_lt (h : t.Sound) {l : LateClose} (hl : l ∈ t.lateCloses)
    (hw : l.wentOn = true) (hne : l.thread ≠ i) (holds : (t.machine.threads i).body.holdsLife = true) :
    l.generation < t.begun := by
  obtain ⟨walk, hc⟩ := h.consistent
  rcases (h.stands l hl).wentOn hw with lt | closer
  · exact lt
  · -- two threads cannot both hold the life lock
    have both := hc.holders_eq holds (by rw [closer]; rfl)
    exact absurd both.symm hne

theorem Sound.after_eq (h : t.Sound)
    (hx : (t.machine.threads i).exec t.machine.shared i = some (sh', t', sp)) :
    (t.machine.step (.step i)).threads i = t' := by
  obtain ⟨walk, hc⟩ := h.consistent
  simp [Machine.step, hx, Machine.advance_threads (hc.stepping_lt (Thread.step_of_exec hx))]

theorem Sound.note_wentOn (h : t.Sound) {l : LateClose} (hl : l ∈ t.lateCloses)
    (hx : (t.machine.threads i).exec t.machine.shared i = some (sh', t', sp))
    (hw : (t.note i l).wentOn = true) :
    l.wentOn = true ∨ (l.thread = i ∧ l.generation = t.begun ∧
      (t.machine.threads i).body.holdsLife = true) := by
  unfold note at hw
  split at hw
  · rename_i hself
    rw [h.after_eq hx] at hw
    rcases LateClose.wentOn_observe hw with went | ⟨unchecked, g, thread, into⟩
    · exact .inl went
    · have stands := h.stands l hl
      unfold LateClose.Stands at stands
      rw [unchecked] at stands
      rcases hf : l.found with _ | c <;> simp only [hf] at stands
      · rw [hself, thread] at stands
        cases stands
      · rw [hself, thread] at stands
        have hg : g = l.generation := by
          injection stands.1 with _ _ hb
          injection hb
        -- the check went on into the close, so it found the scheduled generation
        have hs := Thread.step_of_exec hx
        rw [thread] at hs
        cases hs with
        | laterStale => cases into
        | laterClose current =>
          simp only [Cycle.staleFor, Bool.or_eq_true, bne_iff_ne, ne_eq, decide_eq_true_eq,
            not_or, not_not] at current
          refine .inr ⟨hself, ?_, by rw [thread]; rfl⟩
          rw [← h.counted, current.1, hg]
  · exact .inl hw

theorem Sound.advance (h : t.Sound) (hx : (t.machine.threads i).exec t.machine.shared i = some (sh', t', sp)) :
    (t.step (.step i)).Sound := by
  have hs := Thread.step_of_exec hx
  obtain ⟨walk, hc⟩ := h.consistent
  have hi := hc.stepping_lt hs
  have counted' : sh'.cycle.generation = t.begun + ((t.machine.threads i).begins t.machine.shared).toNat := by
    rw [hs.generation_begins, h.counted]
  have spawned' : t.machine.spawned ≤ (t.machine.advance i (sh', t', sp)).spawned := by
    cases sp <;> simp
  -- the close the step schedules runs on the thread the step starts
  have fresh : ∀ l ∈ t.scheduled i, l.thread = t.machine.spawned ∧ l.generation = t.begun ∧
      l.begunAtCall = t.begun ∧ l.thread < (t.machine.advance i (sh', t', sp)).spawned ∧
      (l.found, l.checked) = (none, none) ∧
      (t.machine.advance i (sh', t', sp)).threads l.thread = { body := .laterLock l.generation } := by
    intro l hl
    unfold scheduled at hl
    split_ifs at hl with hsch
    · obtain rfl := List.mem_singleton.1 hl
      rw [hs.schedules_eq, Option.isSome_iff_exists] at hsch
      obtain ⟨u, rfl⟩ := hsch
      refine ⟨rfl, h.counted, rfl, by simp, rfl, ?_⟩
      rw [Machine.advance_threads hi, if_neg (Nat.ne_of_gt hi), if_pos rfl, hs.started rfl]
      rfl
    · simp at hl
  simp only [step, Machine.step, hx]
  refine ⟨⟨_, hc.advance hs⟩, by simpa using counted', ?distinct, ?started, ?stands, ?once⟩
  case distinct =>
    rw [List.map_append, List.map_map]
    have same : LateClose.thread ∘ t.note i = LateClose.thread := funext fun l => note_thread i l
    rw [same, List.nodup_append]
    refine ⟨h.distinct, ?_, ?_⟩
    · unfold scheduled
      split <;> simp
    · intro a ha b hb
      obtain ⟨l, hl, rfl⟩ := List.mem_map.1 ha
      obtain ⟨l', hl', rfl⟩ := List.mem_map.1 hb
      rw [(fresh l' hl').1]
      exact Nat.ne_of_lt (h.started l hl).1
  case started =>
    intro l hl
    dsimp only
    rcases List.mem_append.1 hl with old | new
    · obtain ⟨l₀, hl₀, rfl⟩ := List.mem_map.1 old
      obtain ⟨lt, gen, le⟩ := h.started l₀ hl₀
      simp only [note_thread, note_generation, note_begunAtCall]
      exact ⟨by omega, gen, by omega⟩
    · obtain ⟨-, gen, call, lt, -, -⟩ := fresh l new
      exact ⟨lt, gen.trans call.symm, by omega⟩
  case stands =>
    intro l hl
    rcases List.mem_append.1 hl with old | new
    · obtain ⟨l₀, hl₀, rfl⟩ := List.mem_map.1 old
      unfold note
      split_ifs with hself
      · subst hself
        rw [h.after_eq hx]
        exact (h.stands l₀ hl₀).self hc hs h.counted (h.started l₀ hl₀).2
      · exact (h.stands l₀ hl₀).other hc hs hself (h.started l₀ hl₀).1 (Nat.le_add_right _ _)
    · obtain ⟨-, -, -, -, progress, thread⟩ := fresh l new
      simp only [Prod.mk.injEq] at progress
      unfold LateClose.Stands
      rw [progress.1, progress.2]
      exact thread
  case once =>
    -- a close the step schedules is not checked yet
    have unchecked : ∀ l ∈ t.scheduled i, l.wentOn = false := by
      intro l hl
      obtain ⟨-, -, -, -, progress, -⟩ := fresh l hl
      simp only [Prod.mk.injEq] at progress
      simp [LateClose.wentOn, progress.2]
    intro l₁ h₁ l₂ h₂ hne w₁ w₂
    rcases List.mem_append.1 h₁ with old₁ | new₁
    · rcases List.mem_append.1 h₂ with old₂ | new₂
      · obtain ⟨a, ha, rfl⟩ := List.mem_map.1 old₁
        obtain ⟨b, hb, rfl⟩ := List.mem_map.1 old₂
        simp only [note_thread, note_generation] at hne ⊢
        rcases h.note_wentOn ha hx w₁ with wa | ⟨ia, ga, holds⟩ <;>
          rcases h.note_wentOn hb hx w₂ with wb | ⟨ib, gb, holds'⟩
        · exact h.once a ha b hb hne wa wb
        · have lt := h.generation_lt ha wa (by rwa [← ib]) holds'
          omega
        · have lt := h.generation_lt hb wb (by rw [← ia]; exact Ne.symm hne) holds
          omega
        · exact absurd (ia.trans ib.symm) hne
      · simp [unchecked l₂ new₂] at w₂
    · simp [unchecked l₁ new₁] at w₁

end Advance

theorem Sound.step (h : t.Sound) : ∀ e, (t.step e).Sound
  | .call c => h.call c
  | .hook i calls fails => h.hook i calls fails
  | .step i => by
    cases hx : (t.machine.threads i).exec t.machine.shared i with
    | none => rwa [step_of_stuck hx]
    | some r =>
      obtain ⟨sh', t', sp⟩ := r
      exact h.advance hx

theorem Sound.run (h : t.Sound) (es : List Event) : (t.run es).Sound := by
  induction es generalizing t with
  | nil => exact h
  | cons e es ih => exact ih (h.step e)

end Traced

/-- A close the transport scheduled goes on only in the open cycle it was scheduled in, and at most
one per generation. -/
theorem scheduled_close_runs_only_in_its_cycle (es : List Event) :
    let t := ({} : Traced).run es
    t.machine.shared.cycle.generation = t.begun ∧
      (∀ l ∈ t.lateCloses, ∀ went k, l.checked = some (went, k) →
        ∃ c, l.found = some c ∧ (went = true ↔ c.generation = l.generation ∧ c.state ≠ .closed) ∧
          (went = true → k = l.begunAtCall)) ∧
      ∀ l₁ ∈ t.lateCloses, ∀ l₂ ∈ t.lateCloses, l₁.thread ≠ l₂.thread →
        l₁.wentOn = true → l₂.wentOn = true → l₁.generation ≠ l₂.generation := by
  intro t
  have h : t.Sound := Traced.sound_init.run es
  exact ⟨h.counted, fun l hl went k hk => (h.stands l hl).checked hk, h.once⟩

-- An open channel gets two scheduled closes in its first cycle: the first goes on and closes the
-- channel; the second, checked after that close began, finds the generation moved on and gives up.
example :
    (({} : Traced).run
      ([.call (.open true)] ++ List.replicate 6 (.step 0) ++ [.hook 0 [] false] ++
        List.replicate 6 (.step 0) ++
        [.call (.transport .closeAsync), .step 1, .call (.transport .closeAsync), .step 3] ++
        List.replicate 7 (.step 2) ++ [.hook 2 [] false] ++ List.replicate 6 (.step 2) ++
        [.step 4, .step 4])).lateCloses.map (·.wentOn) = [true, false] := by
  decide +kernel

end ChannelMux.Lifecycle
