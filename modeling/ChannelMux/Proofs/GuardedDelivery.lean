import ChannelMux.Lifecycle.Fanout
import Mathlib

/-! What concurrent deliveries, waits for deliveries and state changes guarantee a channel's
callbacks. -/

namespace ChannelMux.Lifecycle

namespace Caller

/-- Whether a thread at this point of its call holds the delivery lock. -/
def holding : Caller → Bool
  | .deliverKeep _ _ | .deliverState _ _ | .deliverTake _ _ | .deliverCall _ _ _ | .syncUnlock
  | .flushTake | .flushNext _ | .flushCall _ _ _ => true
  | _ => false

/-- Whether a delivery has passed its state check and is about to call callbacks, or calls them. -/
def dispatching : Caller → Bool
  | .deliverTake _ _ | .deliverCall _ _ _ => true
  | _ => false

/-- Whether a delivery under guard `g` has been kept by it and has not returned. -/
def keptBy (g : Nat) : Caller → Bool
  | .deliverState _ guard | .deliverTake _ guard | .deliverCall _ guard _ => guard == some g
  | _ => false

theorem holding_of_dispatching {c : Caller} (h : c.dispatching = true) : c.holding = true := by
  cases c <;> simp_all [dispatching, holding]

theorem holding_of_keptBy {c : Caller} {g : Nat} (h : c.keptBy g = true) : c.holding = true := by
  cases c <;> simp_all [keptBy, holding]

end Caller

/-- The steps a thread can take, one case for each branch of its code. -/
inductive Caller.Step (m : Fanout) (i : Nat) : Caller → Fanout → Caller → Prop
  | lock {msg g} (free : m.holder = none) :
      Caller.Step m i (.deliverLock msg g) { m with holder := some i } (.deliverKeep msg g)
  | keep {msg g} (kept : m.keeps g = true) :
      Caller.Step m i (.deliverKeep msg g) m (.deliverState msg g)
  | withdraw {msg g} (stopped : m.keeps g = false) :
      Caller.Step m i (.deliverKeep msg g) { m with holder := none } (.delivered msg g false)
  | drop {msg g} (closed : m.state = .closed) :
      Caller.Step m i (.deliverState msg g) { m with holder := none } (.delivered msg g false)
  | live {msg g} (alive : m.state ≠ .closed) :
      Caller.Step m i (.deliverState msg g) m (.deliverTake msg g)
  | take {msg g} :
      Caller.Step m i (.deliverTake msg g)
        { m with log := m.log ++ [.begin i (.delivered msg) m.registered] }
        (.deliverCall msg g m.registered)
  | call {msg g id ids} :
      Caller.Step m i (.deliverCall msg g (id :: ids))
        { m with log := m.log ++ [.call i id (.delivered msg) g] } (.deliverCall msg g ids)
  | passed {msg g} :
      Caller.Step m i (.deliverCall msg g []) { m with holder := none } (.delivered msg g true)
  | syncLock (free : m.holder = none) :
      Caller.Step m i .syncLock { m with holder := some i } .syncUnlock
  | syncUnlock : Caller.Step m i .syncUnlock { m with holder := none } .done
  | enter {s} : Caller.Step m i (.enter s) (m.enter s) .flushLock
  | flushLock (free : m.holder = none) :
      Caller.Step m i .flushLock { m with holder := some i } .flushTake
  | flushTake : Caller.Step m i .flushTake { m with pending := [] } (.flushNext m.pending)
  | flushDone : Caller.Step m i (.flushNext []) { m with holder := none } .done
  | notice {s batch} :
      Caller.Step m i (.flushNext (s :: batch))
        { m with log := m.log ++ [.begin i (.notice s) m.registered] }
        (.flushCall s m.registered batch)
  | noticeCall {s id ids batch} :
      Caller.Step m i (.flushCall s (id :: ids) batch)
        { m with log := m.log ++ [.call i id (.notice s) none] } (.flushCall s ids batch)
  | noticeDone {s batch} : Caller.Step m i (.flushCall s [] batch) m (.flushNext batch)

theorem Caller.step_of_exec {m m' : Fanout} {i : Nat} {c c' : Caller}
    (h : m.exec i c = some (m', c')) : Caller.Step m i c m' c' := by
  cases c with
  | deliverLock | syncLock | flushLock =>
    simp only [Fanout.exec] at h
    split at h
    · cases h; constructor; assumption
    · cases h
  | deliverKeep msg g =>
    simp only [Fanout.exec] at h
    split at h <;> cases h
    · exact .keep ‹_›
    · rename_i stopped
      exact .withdraw (by simpa using stopped)
  | deliverState msg g =>
    simp only [Fanout.exec] at h
    split at h <;> cases h
    · exact .drop ‹_›
    · exact .live ‹_›
  | deliverCall msg g ids =>
    cases ids <;> cases h <;> constructor
  | flushNext batch =>
    cases batch <;> cases h <;> constructor
  | flushCall s ids batch =>
    cases ids <;> cases h <;> constructor
  | delivered | done => cases h
  | deliverTake | syncUnlock | enter | flushTake => cases h; constructor

namespace Caller.Step

variable {m m' : Fanout} {i : Nat} {c c' : Caller}

theorem frame (h : Caller.Step m i c m' c') :
    m'.threads = m.threads ∧ m'.callbacks = m.callbacks ∧ m'.nextId = m.nextId ∧
      m'.kept = m.kept := by
  cases h <;> simp

theorem holder (h : Caller.Step m i c m' c') :
    (m'.holder = m.holder ∧ c'.holding = c.holding) ∨
    (m.holder = none ∧ m'.holder = some i ∧ c'.holding = true) ∨
    (m'.holder = none ∧ c.holding = true ∧ c'.holding = false) := by
  cases h <;> simp_all [Caller.holding]

theorem log (h : Caller.Step m i c m' c') :
    m'.log = m.log ∨ (c.holding = true ∧ ∃ e, m'.log = m.log ++ [e] ∧ e.thread = i) := by
  cases h <;> simp [Caller.holding, Handoff.thread]

theorem keptBy_of_call {t id : Nat} {item : Dispatch} {g : Nat} (h : Caller.Step m i c m' c')
    (logged : m'.log = m.log ++ [.call t id item (some g)]) : c.keptBy g = true := by
  cases h <;> simp_all [Caller.keptBy]

theorem keptBy_of_stopped {g : Nat} (h : Caller.Step m i c m' c') (stopped : m.kept g = false)
    (kept : c'.keptBy g = true) : c.keptBy g = true := by
  cases h with
  | keep ok =>
    rename_i guard
    cases guard <;> simp_all [Caller.keptBy, Fanout.keeps]
  | _ => simp_all [Caller.keptBy]

end Caller.Step

namespace Fanout

variable {m : Fanout}

theorem enter_announced (s : LifeState)
    (h : m.state ≠ .closed ∨ m.pending.getLast? = some .closed) :
    (m.enter s).state ≠ .closed ∨ (m.enter s).pending.getLast? = some .closed := by
  unfold enter
  split
  · exact h
  · by_cases closing : s = .closed <;> simp [closing]

theorem registered_pairwise (nodup : m.callbacks.Nodup) : m.registered.Pairwise (· < ·) := by
  have sorted : m.registered.Pairwise fun a b => decide (a ≤ b) = true :=
    List.pairwise_mergeSort (fun _ _ _ ab bc => by simp_all; omega)
      (fun a b => by simp; omega) _
  have apart : m.registered.Nodup := (List.mergeSort_perm _ _).nodup_iff.2 nodup
  exact (sorted.and apart).imp fun ⟨le, ne⟩ => Nat.lt_of_le_of_ne (by simpa using le) ne

end Fanout

/-- What the log shows of thread `t` at point `c` of its call. Nothing, for a delivery before its
dispatch and for one that withdrew or dropped its message. -/
def Caller.Traced (log : List Handoff) (t : Nat) : Caller → Prop
  | .deliverCall msg g rest =>
    ∃ pre made, log = pre ++ .begin t (.delivered msg) (made ++ rest) ::
        made.map (fun id => .call t id (.delivered msg) g) ∧
      (∀ e ∈ pre, e.thread ≠ t) ∧ (made ++ rest).Pairwise (· < ·)
  | .delivered msg g true =>
    ∃ pre ids post, log = pre ++ Handoff.dispatch t (.delivered msg) g ids ++ post ∧
      (∀ e ∈ pre ++ post, e.thread ≠ t) ∧ ids.Pairwise (· < ·)
  | .deliverLock _ _ | .deliverKeep _ _ | .deliverState _ _ | .deliverTake _ _
  | .delivered _ _ false => ∀ e ∈ log, e.thread ≠ t
  | _ => True

theorem Caller.Traced.append {log : List Handoff} {t : Nat} {d : Caller}
    (h : Caller.Traced log t d) (free : d.holding = false) {e : Handoff} (other : e.thread ≠ t) :
    Caller.Traced (log ++ [e]) t d := by
  cases d with
  | deliverCall => simp [Caller.holding] at free
  | delivered msg g passed =>
    cases passed with
    | true =>
      obtain ⟨pre, ids, post, eq, apart, sorted⟩ := h
      refine ⟨pre, ids, post ++ [e], by simp [eq], ?_, sorted⟩
      intro x mem
      simp only [List.mem_append, List.mem_singleton] at mem
      rcases mem with mem | mem | rfl
      · exact apart x (List.mem_append_left _ mem)
      · exact apart x (List.mem_append_right _ mem)
      · exact other
    | false =>
      intro x mem
      rcases List.mem_append.1 mem with mem | mem
      · exact h x mem
      · rw [List.mem_singleton.1 mem]; exact other
  | deliverLock | deliverKeep | deliverState | deliverTake =>
    intro x mem
    rcases List.mem_append.1 mem with mem | mem
    · exact h x mem
    · rw [List.mem_singleton.1 mem]; exact other
  | syncLock | syncUnlock | enter | flushLock | flushTake | flushNext | flushCall | done => trivial

/-- What holds of every record a run reaches. -/
structure Fanout.Sound (m : Fanout) : Prop where
  /-- The delivery lock is held by exactly the thread at a point of its call that holds it. -/
  exclusive : ∀ i, m.holder = some i ↔ ∃ c, m.threads[i]? = some c ∧ c.holding = true
  nodup : m.callbacks.Nodup
  numbered : ∀ id ∈ m.callbacks, id < m.nextId
  logged : ∀ e ∈ m.log, e.thread < m.threads.length
  /-- A dispatching delivery read a state that is still current, or Closed has been entered
  since and its notice not dispatched. -/
  announced : ∀ (t : Nat) (c : Caller), m.threads[t]? = some c → c.dispatching = true →
    m.state ≠ .closed ∨ m.pending.getLast? = some .closed
  traced : ∀ (t : Nat) (c : Caller), m.threads[t]? = some c → Caller.Traced m.log t c

theorem getElem?_spawned {l : List Caller} {c d : Caller} {j : Nat} (h : (l ++ [c])[j]? = some d) :
    l[j]? = some d ∨ (j = l.length ∧ d = c) := by
  rcases Nat.lt_or_ge j l.length with lt | ge
  · exact .inl (by rwa [List.getElem?_append_left lt] at h)
  · rw [List.getElem?_append_right ge, List.getElem?_singleton] at h
    split at h
    · cases h; exact .inr ⟨by omega, rfl⟩
    · cases h

theorem getElem?_set_stepped {l : List Caller} {i : Nat} {c c' : Caller} (hc : l[i]? = some c) :
    (l.set i c')[i]? = some c' :=
  List.getElem?_set_self (List.getElem?_eq_some_iff.1 hc).1

namespace Fanout.Sound

variable {m m' : Fanout} {i : Nat} {c c' : Caller}

theorem init (kept : Nat → Bool) : ({ kept } : Fanout).Sound where
  exclusive i := by simp
  nodup := List.nodup_nil
  numbered := by simp
  logged := by simp
  announced := by simp
  traced := by simp

theorem idle_of_free (s : m.Sound) (free : m.holder = none) {t : Nat} {d : Caller}
    (hd : m.threads[t]? = some d) : d.holding = false := by
  cases held : d.holding
  · rfl
  · have := (s.exclusive t).2 ⟨d, hd, held⟩
    simp_all

theorem idle_of_holding (s : m.Sound) (hc : m.threads[i]? = some c) (held : c.holding = true)
    {t : Nat} {d : Caller} (hd : m.threads[t]? = some d) (other : t ≠ i) : d.holding = false := by
  have holds : m.holder = some i := (s.exclusive i).2 ⟨c, hc, held⟩
  cases held' : d.holding
  · rfl
  · have := (s.exclusive t).2 ⟨d, hd, held'⟩
    simp_all

theorem exclusive_step (s : m.Sound) (hc : m.threads[i]? = some c) (h : Caller.Step m i c m' c')
    (j : Nat) : m'.holder = some j ↔ ∃ d, (m.threads.set i c')[j]? = some d ∧ d.holding = true := by
  by_cases same : i = j
  · subst same
    rw [getElem?_set_stepped hc]
    rcases h.holder with ⟨kept, held⟩ | ⟨-, took, held⟩ | ⟨dropped, -, held⟩
    · rw [kept, s.exclusive i]; simp [hc, held]
    · simp [took, held]
    · simp [dropped, held]
  · rw [List.getElem?_set_ne same, ← s.exclusive j]
    rcases h.holder with ⟨kept, -⟩ | ⟨free, took, -⟩ | ⟨dropped, was, -⟩
    · rw [kept]
    · simp [took, free, same]
    · have holds : m.holder = some i := (s.exclusive i).2 ⟨c, hc, was⟩
      simp [dropped, holds, same]

theorem logged_step (s : m.Sound) (hc : m.threads[i]? = some c) (h : Caller.Step m i c m' c') :
    ∀ e ∈ m'.log, e.thread < (m.threads.set i c').length := by
  rw [List.length_set]
  rcases h.log with unchanged | ⟨-, e, appended, mine⟩
  · rw [unchanged]; exact s.logged
  · rw [appended]
    intro x mem
    rcases List.mem_append.1 mem with mem | mem
    · exact s.logged x mem
    · rw [List.mem_singleton.1 mem, mine]; exact (List.getElem?_eq_some_iff.1 hc).1

theorem announced_step (s : m.Sound) (hc : m.threads[i]? = some c) (h : Caller.Step m i c m' c')
    (t : Nat) (d : Caller) (hd : (m.threads.set i c')[t]? = some d)
    (dispatching : d.dispatching = true) :
    m'.state ≠ .closed ∨ m'.pending.getLast? = some .closed := by
  by_cases same : i = t
  · subst same
    rw [getElem?_set_stepped hc] at hd
    cases hd
    -- a delivery starts dispatching only from a state it has just read as not closed
    cases h with
    | live alive => exact .inl alive
    | take => exact s.announced i _ hc rfl
    | call => exact s.announced i _ hc rfl
    | _ => simp [Caller.dispatching] at dispatching
  · rw [List.getElem?_set_ne same] at hd
    have old := s.announced t d hd dispatching
    -- the dispatching thread holds the delivery lock, so no other thread takes the queue
    have idle : c.holding = false :=
      s.idle_of_holding hd (Caller.holding_of_dispatching dispatching) hc same
    cases h with
    | enter => exact enter_announced _ old
    | flushTake => simp [Caller.holding] at idle
    | _ => simpa using old

theorem traced_self (s : m.Sound) (hc : m.threads[i]? = some c) (h : Caller.Step m i c m' c') :
    Caller.Traced m'.log i c' := by
  have old := s.traced i c hc
  cases h with
  | take => exact ⟨m.log, [], by simp, old, by simpa using registered_pairwise s.nodup⟩
  | @call msg g id ids =>
    obtain ⟨pre, made, eq, apart, sorted⟩ := old
    exact ⟨pre, made ++ [id], by simp [eq], apart, by simpa using sorted⟩
  | passed =>
    obtain ⟨pre, made, eq, apart, sorted⟩ := old
    exact ⟨pre, made, [], by simpa [Handoff.dispatch] using eq, by simpa using apart,
      by simpa using sorted⟩
  | lock | keep | withdraw | drop | live => exact old
  | syncLock | syncUnlock | enter | flushLock | flushTake | flushDone | notice | noticeCall
  | noticeDone => trivial

theorem traced_step (s : m.Sound) (hc : m.threads[i]? = some c) (h : Caller.Step m i c m' c')
    (t : Nat) (d : Caller) (hd : (m.threads.set i c')[t]? = some d) :
    Caller.Traced m'.log t d := by
  by_cases same : i = t
  · subst same
    rw [getElem?_set_stepped hc] at hd
    cases hd
    exact s.traced_self hc h
  · rw [List.getElem?_set_ne same] at hd
    rcases h.log with unchanged | ⟨held, e, appended, mine⟩
    · rw [unchanged]; exact s.traced t d hd
    · rw [appended]
      exact (s.traced t d hd).append (s.idle_of_holding hc held hd (Ne.symm same))
        (by rw [mine]; exact same)

theorem exec (s : m.Sound) (hc : m.threads[i]? = some c) (h : Caller.Step m i c m' c') :
    Sound { m' with threads := m'.threads.set i c' } := by
  obtain ⟨threads, callbacks, nextId, -⟩ := h.frame
  refine ⟨?_, ?_, ?_, ?_, ?_, ?_⟩ <;> simp only [threads, callbacks, nextId]
  · exact s.exclusive_step hc h
  · exact s.nodup
  · exact s.numbered
  · exact s.logged_step hc h
  · exact s.announced_step hc h
  · exact s.traced_step hc h

theorem spawn (s : m.Sound) (c : Caller) (idle : c.holding = false)
    (waiting : c.dispatching = false) (clean : Caller.Traced m.log m.threads.length c) :
    Sound { m with threads := m.threads ++ [c] } where
  exclusive j := by
    rw [s.exclusive j]
    constructor
    · rintro ⟨d, hd, held⟩
      exact ⟨d, by rwa [List.getElem?_append_left (List.getElem?_eq_some_iff.1 hd).1], held⟩
    · rintro ⟨d, hd, held⟩
      rcases getElem?_spawned hd with hd | ⟨-, rfl⟩
      · exact ⟨d, hd, held⟩
      · simp [idle] at held
  nodup := s.nodup
  numbered := s.numbered
  logged e mem := by
    have := s.logged e mem
    simp only [List.length_append, List.length_singleton]
    omega
  announced t d hd dispatching := by
    rcases getElem?_spawned hd with hd | ⟨-, rfl⟩
    · exact s.announced t d hd dispatching
    · simp [waiting] at dispatching
  traced t d hd := by
    rcases getElem?_spawned hd with hd | ⟨rfl, rfl⟩
    · exact s.traced t d hd
    · exact clean

theorem step (s : m.Sound) (ev : FanoutEvent) : (m.step ev).Sound := by
  cases ev with
  | deliverIf msg g => exact s.spawn _ rfl rfl fun e mem => Nat.ne_of_lt (s.logged e mem)
  | sync => exact s.spawn _ rfl rfl trivial
  | setState st => exact s.spawn _ rfl rfl trivial
  | step i =>
    simp only [Fanout.step]
    split
    · rename_i c hc
      split
      · rename_i m' c' h
        exact s.exec hc (Caller.step_of_exec h)
      · exact s
    · exact s
  | addCallback =>
    simp only [Fanout.step]
    refine ⟨s.exclusive, ?_, ?_, s.logged, s.announced, s.traced⟩
    · refine List.nodup_append.2 ⟨s.nodup, by simp, ?_⟩
      intro a mem b fresh
      have := s.numbered a mem
      simp only [List.mem_singleton] at fresh
      omega
    · intro id mem
      show id < m.nextId + 1
      rcases List.mem_append.1 mem with mem | mem
      · have := s.numbered id mem; omega
      · simp only [List.mem_singleton] at mem; omega
  | removeCallback id =>
    exact ⟨s.exclusive, s.nodup.erase id, fun x mem => s.numbered x (List.mem_of_mem_erase mem),
      s.logged, s.announced, s.traced⟩
  | silence g => exact ⟨s.exclusive, s.nodup, s.numbered, s.logged, s.announced, s.traced⟩

theorem run (s : m.Sound) (es : List FanoutEvent) : (m.run es).Sound := by
  induction es generalizing m with
  | nil => exact s
  | cons ev es ih => exact ih (s.step ev)

end Fanout.Sound

namespace Fanout

variable {m : Fanout} {g n : Nat}

theorem kept_step (stopped : m.kept g = false) (ev : FanoutEvent) : (m.step ev).kept g = false := by
  cases ev with
  | step i =>
    simp only [Fanout.step]
    split
    · split
      · rename_i h
        rw [(Caller.step_of_exec h).frame.2.2.2]
        exact stopped
      · exact stopped
    · exact stopped
  | silence h =>
    show (if g = h then false else m.kept g) = false
    split <;> simp_all
  | _ => exact stopped

theorem thread_step_of_ne {c : Caller} (hc : m.threads[n]? = some c) (ev : FanoutEvent)
    (other : ev ≠ .step n) : (m.step ev).threads[n]? = some c := by
  have bound := (List.getElem?_eq_some_iff.1 hc).1
  cases ev with
  | deliverIf | sync | setState =>
    simp only [Fanout.step]
    rwa [List.getElem?_append_left bound]
  | step i =>
    have apart : i ≠ n := fun same => other (by rw [same])
    simp only [Fanout.step]
    split
    · split
      · rename_i h
        rw [List.getElem?_set_ne apart, (Caller.step_of_exec h).frame.1]
        exact hc
      · exact hc
    · exact hc
  | addCallback | removeCallback | silence => exact hc

/-- No delivery under guard `g` is past its guard and still running. -/
def Quiet (g : Nat) (m : Fanout) : Prop :=
  ∀ (t : Nat) (c : Caller), m.threads[t]? = some c → c.keptBy g = false

/-- No entry is a call under guard `g`. -/
def Withheld (g : Nat) (entries : List Handoff) : Prop :=
  ∀ e ∈ entries, ∀ t id item, e ≠ .call t id item (some g)

theorem withheld_nil : Withheld g [] := fun _ mem => absurd mem List.not_mem_nil

theorem Withheld.append {xs ys : List Handoff} (hx : Withheld g xs) (hy : Withheld g ys) :
    Withheld g (xs ++ ys) := by
  intro e mem
  rcases List.mem_append.1 mem with mem | mem
  · exact hx e mem
  · exact hy e mem

theorem Quiet.step (q : m.Quiet g) (stopped : m.kept g = false) (ev : FanoutEvent) :
    (m.step ev).Quiet g ∧ ∃ new, (m.step ev).log = m.log ++ new ∧ Withheld g new := by
  cases ev with
  | deliverIf | sync | setState =>
    refine ⟨fun t d hd => ?_, [], by simp [Fanout.step], withheld_nil⟩
    rcases getElem?_spawned hd with hd | ⟨-, rfl⟩
    · exact q t d hd
    · rfl
  | step i =>
    simp only [Fanout.step]
    split
    · rename_i c hc
      split
      · rename_i m' c' h
        have h := Caller.step_of_exec h
        refine ⟨fun t d hd => ?_, ?_⟩
        · by_cases same : i = t
          · subst same
            rw [h.frame.1, getElem?_set_stepped hc] at hd
            cases hd
            cases kept : c'.keptBy g
            · rfl
            · have := h.keptBy_of_stopped stopped kept
              simp_all [q i c hc]
          · rw [h.frame.1, List.getElem?_set_ne same] at hd
            exact q t d hd
        · rcases h.log with unchanged | ⟨-, e, appended, -⟩
          · exact ⟨[], by simp [unchanged], withheld_nil⟩
          · refine ⟨[e], appended, ?_⟩
            rintro x mem t id item rfl
            rw [List.mem_singleton] at mem
            subst mem
            have := h.keptBy_of_call appended
            simp_all [q i c hc]
      · exact ⟨q, [], by simp, withheld_nil⟩
    · exact ⟨q, [], by simp, withheld_nil⟩
  | addCallback | removeCallback | silence =>
    exact ⟨q, [], by simp [Fanout.step], withheld_nil⟩

theorem Quiet.run (q : m.Quiet g) (stopped : m.kept g = false) (es : List FanoutEvent) :
    ∃ new, (m.run es).log = m.log ++ new ∧ Withheld g new := by
  induction es generalizing m with
  | nil => exact ⟨[], by simp, withheld_nil⟩
  | cons ev es ih =>
    obtain ⟨q', new₁, eq₁, withheld₁⟩ := q.step stopped ev
    obtain ⟨new₂, eq₂, withheld₂⟩ := ih q' (kept_step stopped ev)
    exact ⟨new₁ ++ new₂, by simp [eq₂, eq₁], withheld₁.append withheld₂⟩

/-- Thread `n` waits for deliveries, and began after guard `g` stopped: it still waits for the
delivery lock, or no delivery under `g` is running. -/
def Barrier (n g : Nat) (m : Fanout) : Prop :=
  m.kept g = false ∧ (m.threads[n]? = some .syncLock ∨ m.Quiet g)

theorem Barrier.step (s : m.Sound) (b : m.Barrier n g) (ev : FanoutEvent) :
    (m.step ev).Barrier n g := by
  obtain ⟨stopped, waiting | q⟩ := b
  · by_cases own : ev = .step n
    · subst own
      simp only [Fanout.step, waiting]
      split
      · rename_i m' c' h
        cases Caller.step_of_exec h with
        | syncLock free =>
          refine ⟨stopped, .inr fun t d hd => ?_⟩
          by_cases same : n = t
          · subst same
            rw [getElem?_set_stepped waiting] at hd
            cases hd
            rfl
          · rw [List.getElem?_set_ne same] at hd
            cases kept : d.keptBy g
            · rfl
            · have := s.idle_of_free free hd
              simp [Caller.holding_of_keptBy kept] at this
      · exact ⟨stopped, .inl waiting⟩
    · exact ⟨kept_step stopped ev, .inl (thread_step_of_ne waiting ev own)⟩
  · exact ⟨kept_step stopped ev, .inr (q.step stopped ev).1⟩

theorem Barrier.run (s : m.Sound) (b : m.Barrier n g) (es : List FanoutEvent) :
    (m.run es).Barrier n g := by
  induction es generalizing m with
  | nil => exact b
  | cons ev es ih => exact ih (s.step ev) (b.step s ev)

end Fanout

theorem withdrawn_after_wait (kept : Nat → Bool) (es₁ es₂ es₃ : List FanoutEvent) (g : Nat) :
    let m₁ := ({ kept } : Fanout).run es₁
    let m₂ := (m₁.step .sync).run es₂
    m₁.kept g = false → m₂.threads[m₁.threads.length]? = some .done →
      ∀ e ∈ (m₂.run es₃).log.drop m₂.log.length, ∀ t id item, e ≠ .call t id item (some g) := by
  intro m₁ m₂ stopped returned
  have sound : m₁.Sound := (Fanout.Sound.init kept).run es₁
  have waiting : (m₁.step .sync).Barrier m₁.threads.length g :=
    ⟨stopped, .inl (by simp [Fanout.step])⟩
  -- the wait has returned, so it took the delivery lock at some point of the run
  obtain ⟨stopped₂, still | quiet⟩ := waiting.run (sound.step .sync) es₂
  · exact absurd (returned.symm.trans still) (by simp)
  · obtain ⟨new, eq, withheld⟩ := quiet.run stopped₂ es₃
    rw [eq, List.drop_left]
    exact withheld

theorem passed_in_one_dispatch (kept : Nat → Bool) (es : List FanoutEvent) (t : Nat)
    (msg : Message) (g : Option Nat) :
    let m := ({ kept } : Fanout).run es
    m.threads[t]? = some (.delivered msg g true) →
      ∃ pre ids post, m.log = pre ++ Handoff.dispatch t (.delivered msg) g ids ++ post ∧
        (∀ e ∈ pre ++ post, e.thread ≠ t) ∧ ids.Pairwise (· < ·) :=
  fun passed => ((Fanout.Sound.init kept).run es).traced t _ passed

theorem dispatching_before_closed_notice (kept : Nat → Bool) (es : List FanoutEvent) (t : Nat)
    (msg : Message) (g : Option Nat) (ids : List Nat) :
    let m := ({ kept } : Fanout).run es
    m.threads[t]? = some (.deliverCall msg g ids) →
      m.state ≠ .closed ∨ m.pending.getLast? = some .closed :=
  fun calling => ((Fanout.Sound.init kept).run es).announced t _ calling rfl

/-- What the delivery lock guarantees a channel's callbacks, over every interleaving of guarded
deliveries, stops of their guards, waits for deliveries and state changes. -/
theorem guarded_delivery_guarantees :
    (∀ (kept : Nat → Bool) (es₁ es₂ es₃ : List FanoutEvent) (g : Nat),
      let m₁ := ({ kept } : Fanout).run es₁
      let m₂ := (m₁.step .sync).run es₂
      m₁.kept g = false → m₂.threads[m₁.threads.length]? = some .done →
        ∀ e ∈ (m₂.run es₃).log.drop m₂.log.length, ∀ t id item, e ≠ .call t id item (some g)) ∧
    (∀ (kept : Nat → Bool) (es : List FanoutEvent) (t : Nat) (msg : Message) (g : Option Nat),
      let m := ({ kept } : Fanout).run es
      m.threads[t]? = some (.delivered msg g true) →
        ∃ pre ids post, m.log = pre ++ Handoff.dispatch t (.delivered msg) g ids ++ post ∧
          (∀ e ∈ pre ++ post, e.thread ≠ t) ∧ ids.Pairwise (· < ·)) ∧
    (∀ (kept : Nat → Bool) (es : List FanoutEvent) (t : Nat) (msg : Message) (g : Option Nat)
      (ids : List Nat),
      let m := ({ kept } : Fanout).run es
      m.threads[t]? = some (.deliverCall msg g ids) →
        m.state ≠ .closed ∨ m.pending.getLast? = some .closed) :=
  ⟨withdrawn_after_wait, passed_in_one_dispatch, dispatching_before_closed_notice⟩

/-- The channel opens; a callback is registered; a delivery reads the state as active; the
channel is closed on another thread before the delivery takes the callbacks. -/
def closeDuringDispatch : List FanoutEvent :=
  [.setState .opening, .step 0, .step 0, .step 0, .step 0, .step 0, .step 0, .addCallback,
    .deliverIf default none, .step 1, .step 1, .step 1, .setState .closed, .step 2, .step 1]

/-- A delivery can call a callback while the channel is closed. -/
theorem delivery_calls_back_while_closed :
    let m := ({ kept := fun _ => true } : Fanout).run closeDuringDispatch
    m.state = .closed ∧ m.threads[1]? = some (.deliverCall default none [0]) ∧
      (m.step (.step 1)).log.getLast? = some (.call 1 0 (.delivered default) none) := by
  cbv

theorem guarded_delivery_runs :
    (let m₁ := ({ kept := fun _ => true } : Fanout).run [.silence 0]
     let m₂ := (m₁.step .sync).run [.step 0, .step 0]
     m₁.kept 0 = false ∧ m₂.threads[m₁.threads.length]? = some .done ∧
       ∀ e ∈ (m₂.run [.addCallback, .setState .active, .step 1, .deliverIf default (some 0),
          .step 2, .step 2]).log.drop m₂.log.length,
         ∀ t id item, e ≠ .call t id item (some 0)) ∧
    (let m := ({ kept := fun _ => true } : Fanout).run [.addCallback, .addCallback,
        .setState .active, .step 0, .deliverIf default none, .step 1, .step 1, .step 1, .step 1,
        .step 1, .step 1, .step 1]
     m.threads[1]? = some (.delivered default none true) ∧
       ∃ pre ids post, m.log = pre ++ Handoff.dispatch 1 (.delivered default) none ids ++ post ∧
         (∀ e ∈ pre ++ post, e.thread ≠ 1) ∧ ids.Pairwise (· < ·)) ∧
    (let m := ({ kept := fun _ => true } : Fanout).run closeDuringDispatch
     m.threads[1]? = some (.deliverCall default none [0]) ∧
       (m.state ≠ .closed ∨ m.pending.getLast? = some .closed)) := by
  have returned : (((({ kept := fun _ => true } : Fanout).run [.silence 0]).step .sync).run
      [.step 0, .step 0]).threads[0]? = some .done := by cbv
  have passed : (({ kept := fun _ => true } : Fanout).run [.addCallback, .addCallback,
      .setState .active, .step 0, .deliverIf default none, .step 1, .step 1, .step 1, .step 1,
      .step 1, .step 1, .step 1]).threads[1]? = some (.delivered default none true) := by cbv
  have calling : (({ kept := fun _ => true } : Fanout).run closeDuringDispatch).threads[1]? =
      some (.deliverCall default none [0]) := by cbv
  exact ⟨⟨rfl, returned, guarded_delivery_guarantees.1 _ _ _ _ 0 rfl returned⟩,
    ⟨passed, guarded_delivery_guarantees.2.1 _ _ _ _ _ passed⟩,
    ⟨calling, guarded_delivery_guarantees.2.2 _ _ _ _ _ _ calling⟩⟩

end ChannelMux.Lifecycle
