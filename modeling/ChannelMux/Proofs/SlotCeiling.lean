import ChannelMux.Http.Slots
import ChannelMux.Proofs.ShutdownOnce

/-! The slot ceiling of a group, over every run. -/

namespace ChannelMux.Http

variable {σ : Type} {sem : Semaphore σ}

/-- The slots an exchange has taken and given back, by where it is, on an engine that limits its
exchanges or not. -/
def Phase.slotUses (limited : Bool) : Phase → List SlotUse
  | .waiting => []
  | .running => if limited then [.took] else []
  | .returned .noSlot => []
  | .returned _ => if limited then [.took, .gave] else []

@[simp] theorem Phase.slotUses_returned {how : Exit} (ne : how ≠ .noSlot) (limited : Bool) :
    (Phase.returned how).slotUses limited = if limited then [.took, .gave] else [] := by
  cases how with
  | noSlot => exact absurd rfl ne
  | withdrawn => rfl
  | ended => rfl

/-- What the invariant reads of an exchange: its engine, where it is, its record of slots and how
many messages it has dispatched. -/
def Transfer.slotView (t : Transfer) : Nat × Phase × List SlotUse × Nat :=
  (t.engine, t.phase, t.uses, t.sent)

theorem Transfer.slotView_eq_iff {t t' : Transfer} :
    t.slotView = t'.slotView ↔
      t.engine = t'.engine ∧ t.phase = t'.phase ∧ t.uses = t'.uses ∧ t.sent = t'.sent := by
  simp [slotView]

namespace SlotGroup

/-- The invariant of a group's runs. -/
structure Sound (sem : Semaphore σ) (g : SlotGroup σ) : Prop where
  current_lt : ∀ k, g.current = some k → k < g.engines.length
  members_lt : ∀ (m k : Nat), g.members[m]? = some (some k) → k < g.engines.length
  /-- An engine has a semaphore exactly when its settings limit the exchanges. -/
  built : ∀ e ∈ g.engines, e.slots.isSome = decide (0 < e.settings.maxConnections)
  engine_lt : ∀ t ∈ g.transfers, t.engine < g.engines.length
  uses : ∀ t ∈ g.transfers, t.uses = t.phase.slotUses (g.limited t.engine)
  idle : ∀ t ∈ g.transfers, t.phase = .waiting ∨ t.phase = .returned .noSlot → t.sent = 0
  logged_lt : ∀ p ∈ g.log, p.1 < g.transfers.length
  logged : ∀ i t, g.transfers[i]? = some t → g.log.countP (·.1 == i) = t.sent
  /-- A semaphore has one unit taken for each exchange running on its engine. -/
  slots : ∀ k e st, g.engines[k]? = some e → e.slots = some st →
    sem.taken st = g.holding k ∧ sem.taken st ≤ sem.size st ∧
      sem.size st = e.settings.maxConnections.toNat

theorem sound_empty : ({} : SlotGroup σ).Sound sem where
  current_lt _ h := nomatch h
  members_lt _ _ h := nomatch h
  built _ h := nomatch h
  engine_lt _ h := nomatch h
  uses _ h := nomatch h
  idle _ h := nomatch h
  logged_lt _ h := nomatch h
  logged _ _ h := nomatch h
  slots _ _ _ h := nomatch h

theorem holding_eq_countP_view (g : SlotGroup σ) (k : Nat) :
    g.holding k = (g.transfers.map Transfer.slotView).countP
      fun v => v.1 == k && v.2.1 == .running := by
  simp [holding, List.countP_map, Function.comp_def, Transfer.slotView]

theorem holding_set {g : SlotGroup σ} {i : Nat} {t : Transfer} (at_i : g.transfers[i]? = some t)
    (t' : Transfer) (k : Nat) :
    (g.setTransfer i t').holding k + (if t.engine == k && t.phase == .running then 1 else 0) =
      g.holding k + (if t'.engine == k && t'.phase == .running then 1 else 0) := by
  obtain ⟨lt, rfl⟩ := List.getElem?_eq_some_iff.1 at_i
  have below := List.boole_getElem_le_countP
    (p := fun t : Transfer => t.engine == k && t.phase == .running) lt
  simp only [holding, setTransfer, List.countP_set lt]
  omega

theorem getElem?_setTransfer_of_ne {g : SlotGroup σ} {i j : Nat} (t : Transfer) (ne : i ≠ j) :
    (g.setTransfer i t).transfers[j]? = g.transfers[j]? :=
  List.getElem?_set_ne ne

theorem mem_setTransfer {g : SlotGroup σ} {i : Nat} {t u : Transfer}
    (mem : u ∈ (g.setTransfer i t).transfers) : u ∈ g.transfers ∨ u = t :=
  List.mem_or_eq_of_mem_set mem

/-! ### Events that keep what the invariant reads -/

theorem Sound.of_view {g g' : SlotGroup σ} (h : g.Sound sem) (engines : g'.engines = g.engines)
    (log : g'.log = g.log)
    (view : g'.transfers.map Transfer.slotView = g.transfers.map Transfer.slotView)
    (current : ∀ k, g'.current = some k → k < g.engines.length)
    (members : ∀ (m k : Nat), g'.members[m]? = some (some k) → k < g.engines.length) : g'.Sound sem := by
  -- every exchange of `g'` reads as one of `g`, at the same place
  have read : ∀ (i : Nat) (t' : Transfer), g'.transfers[i]? = some t' →
      ∃ t, g.transfers[i]? = some t ∧ t.slotView = t'.slotView := by
    intro i t' at_i
    have mapped : (g.transfers.map Transfer.slotView)[i]? = some t'.slotView := by
      rw [← view, List.getElem?_map, at_i]
      rfl
    rw [List.getElem?_map] at mapped
    exact Option.map_eq_some_iff.1 mapped
  have mem : ∀ t' ∈ g'.transfers, ∃ t ∈ g.transfers, t.slotView = t'.slotView := by
    intro t' mem'
    obtain ⟨i, at_i⟩ := List.mem_iff_getElem?.1 mem'
    obtain ⟨t, at_i', same⟩ := read i t' at_i
    exact ⟨t, List.mem_of_getElem? at_i', same⟩
  have limited : g'.limited = g.limited := by
    funext k
    simp [limited, slotsOf, engines]
  have holding : g'.holding = g.holding := by
    funext k
    rw [holding_eq_countP_view, holding_eq_countP_view, view]
  have length : g'.transfers.length = g.transfers.length := by
    simpa using congrArg List.length view
  refine ⟨?_, ?_, ?_, ?_, ?_, ?_, ?_, ?_, ?_⟩
  · intro k hk
    simpa [engines] using current k hk
  · intro m k hk
    simpa [engines] using members m k hk
  · simpa [engines] using h.built
  · intro t' mem'
    obtain ⟨t, mt, same⟩ := mem t' mem'
    rw [Transfer.slotView_eq_iff] at same
    simpa [engines, ← same.1] using h.engine_lt t mt
  · intro t' mem'
    obtain ⟨t, mt, same⟩ := mem t' mem'
    rw [Transfer.slotView_eq_iff] at same
    rw [limited, ← same.1, ← same.2.1, ← same.2.2.1]
    exact h.uses t mt
  · intro t' mem' waits
    obtain ⟨t, mt, same⟩ := mem t' mem'
    rw [Transfer.slotView_eq_iff] at same
    rw [← same.2.1] at waits
    rw [← same.2.2.2]
    exact h.idle t mt waits
  · intro p mp
    rw [length]
    exact h.logged_lt p (log ▸ mp)
  · intro i t' at_i
    obtain ⟨t, at_i', same⟩ := read i t' at_i
    rw [Transfer.slotView_eq_iff] at same
    rw [log, ← same.2.2.2]
    exact h.logged i t at_i'
  · intro k e st at_k slots_e
    rw [holding]
    exact h.slots k e st (engines ▸ at_k) slots_e

theorem modify_eq_set_of_getElem? {α : Type} {l : List α} {k : Nat} {x : α} (f : α → α)
    (at_k : l[k]? = some x) : l.modify k f = l.set k (f x) := by
  rw [List.modify_eq_set_getElem?, at_k]
  rfl

/-! ### One lemma per kind of event -/

theorem Sound.openGroup (lawful : sem.Lawful) {g : SlotGroup σ} (h : g.Sound sem) (e : Engine) :
    ({ g with engines := g.engines ++ [SlotEngine.build sem e], current := some g.engines.length } :
      SlotGroup σ).Sound sem := by
  have older : ∀ k, k < g.engines.length →
      (g.engines ++ [SlotEngine.build sem e])[k]? = g.engines[k]? :=
    fun k lt => List.getElem?_append_left lt
  have unused : g.holding g.engines.length = 0 := by
    refine List.countP_eq_zero.2 fun t mem counted => ?_
    have below := h.engine_lt t mem
    simp only [Bool.and_eq_true, beq_iff_eq] at counted
    omega
  refine ⟨?_, ?_, ?_, ?_, ?_, h.idle, h.logged_lt, h.logged, ?_⟩
  · intro k hk
    simp only [Option.some.injEq] at hk
    simp only [List.length_append, List.length_singleton]
    omega
  · intro m k hk
    have := h.members_lt m k hk
    simp only [List.length_append, List.length_singleton]
    omega
  · intro x mx
    rcases List.mem_append.1 mx with old | new
    · exact h.built x old
    · rw [List.mem_singleton.1 new]
      unfold SlotEngine.build
      split <;> simp_all
  · intro t mt
    have := h.engine_lt t mt
    simp only [List.length_append, List.length_singleton]
    omega
  · intro t mt
    have same : (g.engines ++ [SlotEngine.build sem e])[t.engine]? = g.engines[t.engine]? :=
      older t.engine (h.engine_lt t mt)
    simp only [limited, slotsOf, same]
    exact h.uses t mt
  · intro k x st at_k slots_x
    rcases Nat.lt_or_ge k g.engines.length with lt | ge
    · exact h.slots k x st ((older k lt) ▸ at_k) slots_x
    · -- the new engine: a fresh semaphore of `max-connections` units, none taken
      rw [List.getElem?_append_right ge] at at_k
      have new : k = g.engines.length ∧ x = SlotEngine.build sem e := by
        cases hk : k - g.engines.length with
        | zero =>
          rw [hk] at at_k
          exact ⟨by omega, (Option.some.inj at_k).symm⟩
        | succ n => simp [hk] at at_k
      obtain ⟨rfl, rfl⟩ := new
      unfold SlotEngine.build at slots_x ⊢
      split at slots_x
      · obtain rfl := Option.some.inj slots_x
        refine ⟨?_, ?_, lawful.size_fresh _⟩
        · rw [lawful.taken_fresh]
          exact unused.symm
        · rw [lawful.taken_fresh]
          exact Nat.zero_le _
      · cases slots_x

theorem Sound.start {g : SlotGroup σ} (h : g.Sound sem) {m k : Nat}
    (bound : g.members[m]? = some (some k)) (plan : List Message) :
    ({ g with transfers := g.transfers ++ [{ member := m, engine := k, plan }] } : SlotGroup σ).Sound
      sem := by
  refine ⟨h.current_lt, h.members_lt, h.built, ?_, ?_, ?_, ?_, ?_, ?_⟩
  · intro t mt
    rcases List.mem_append.1 mt with old | new
    · exact h.engine_lt t old
    · rw [List.mem_singleton.1 new]
      exact h.members_lt m k bound
  · intro t mt
    rcases List.mem_append.1 mt with old | new
    · exact h.uses t old
    · rw [List.mem_singleton.1 new]
      rfl
  · intro t mt
    rcases List.mem_append.1 mt with old | new
    · exact h.idle t old
    · rw [List.mem_singleton.1 new]
      exact fun _ => rfl
  · intro p mp
    have := h.logged_lt p mp
    simp only [List.length_append, List.length_singleton]
    omega
  · intro i t at_i
    rcases Nat.lt_or_ge i g.transfers.length with lt | ge
    · rw [List.getElem?_append_left lt] at at_i
      exact h.logged i t at_i
    · -- the new exchange: nothing in the log names it yet
      rw [List.getElem?_append_right ge] at at_i
      have new : i = g.transfers.length ∧ t = { member := m, engine := k, plan } := by
        cases hi : i - g.transfers.length with
        | zero =>
          rw [hi] at at_i
          exact ⟨by omega, (Option.some.inj at_i).symm⟩
        | succ n => simp [hi] at at_i
      obtain ⟨rfl, rfl⟩ := new
      refine List.countP_eq_zero.2 fun p mp named => ?_
      have := h.logged_lt p mp
      simp only [beq_iff_eq] at named
      omega
  · intro k' e st at_k slots_e
    have counts := h.slots k' e st at_k slots_e
    simpa only [holding, List.countP_append, List.countP_singleton, Bool.and_eq_true, beq_iff_eq,
      reduceCtorEq, and_false, decide_false, ite_false, Nat.add_zero] using counts

theorem Sound.logged_set {g : SlotGroup σ} (h : g.Sound sem) {i : Nat} {t t' : Transfer}
    (at_i : g.transfers[i]? = some t) (sent : t'.sent = t.sent) :
    ∀ j u, (g.transfers.set i t')[j]? = some u → g.log.countP (·.1 == j) = u.sent := by
  intro j u at_j
  by_cases same : i = j
  · subst same
    have lt := (List.getElem?_eq_some_iff.1 at_i).1
    rw [List.getElem?_set_self lt, Option.some.injEq] at at_j
    subst at_j
    rw [sent]
    exact h.logged i t at_i
  · rw [List.getElem?_set_ne same] at at_j
    exact h.logged j u at_j

theorem Sound.replace {g : SlotGroup σ} (h : g.Sound sem) {i : Nat} {t t' : Transfer}
    (at_i : g.transfers[i]? = some t) (engine : t'.engine = t.engine) (sent : t'.sent = t.sent)
    (uses : t'.uses = t'.phase.slotUses (g.limited t.engine))
    (idle : t'.phase = .waiting ∨ t'.phase = .returned .noSlot → t'.sent = 0)
    (counts : g.slotsOf t.engine = none ∨ (t'.phase == .running) = (t.phase == .running)) :
    (g.setTransfer i t').Sound sem := by
  have mt : t ∈ g.transfers := List.mem_of_getElem? at_i
  refine ⟨h.current_lt, h.members_lt, h.built, ?_, ?_, ?_, ?_, h.logged_set at_i sent, ?_⟩
  · intro u mu
    rcases mem_setTransfer mu with old | rfl
    · exact h.engine_lt u old
    · exact engine ▸ h.engine_lt t mt
  · intro u mu
    rcases mem_setTransfer mu with old | rfl
    · exact h.uses u old
    · exact engine ▸ uses
  · intro u mu
    rcases mem_setTransfer mu with old | rfl
    · exact h.idle u old
    · exact idle
  · intro p mp
    simpa [setTransfer] using h.logged_lt p mp
  · intro k e st at_k slots_e
    replace at_k : g.engines[k]? = some e := at_k
    have moved := holding_set at_i t' k
    have before := h.slots k e st at_k slots_e
    refine ⟨?_, before.2.1, before.2.2⟩
    rw [before.1]
    by_cases on : t.engine = k
    · -- the replaced exchange is on this limiting engine, so it counts as it did
      have limits : g.slotsOf t.engine ≠ none := by simp [slotsOf, on, at_k, slots_e]
      have alike := counts.resolve_left limits
      rw [engine, on, alike] at moved
      omega
    · have other : t'.engine ≠ k := engine ▸ on
      simp only [on, other, beq_false_of_ne, ne_eq, not_false_eq_true, Bool.false_and,
        Bool.false_eq_true, if_false, Nat.add_zero] at moved
      omega

theorem Sound.swap {g : SlotGroup σ} (h : g.Sound sem) {i k : Nat} {t t' : Transfer}
    {e : SlotEngine σ} {st st' : σ} (at_i : g.transfers[i]? = some t)
    (at_k : g.engines[k]? = some e) (slots_e : e.slots = some st) (on : t.engine = k)
    (engine : t'.engine = k) (sent : t'.sent = t.sent) (uses : t'.uses = t'.phase.slotUses true)
    (idle : t'.phase = .waiting ∨ t'.phase = .returned .noSlot → t'.sent = 0)
    (taken : sem.taken st' + (if t.phase == .running then 1 else 0) =
      sem.taken st + (if t'.phase == .running then 1 else 0))
    (fits : sem.taken st' ≤ sem.size st') (size : sem.size st' = sem.size st) :
    ({ g.setTransfer i t' with engines := g.engines.set k { e with slots := some st' } } :
      SlotGroup σ).Sound sem := by
  have lt_k := (List.getElem?_eq_some_iff.1 at_k).1
  have limits : g.limited k = true := by simp [limited, slotsOf, at_k, slots_e]
  -- engine `k` keeps a semaphore, so every engine limits as it did
  have limited : ∀ k', ({ g.setTransfer i t' with
      engines := (g.engines.set k { e with slots := some st' }) } : SlotGroup σ).limited k' =
        g.limited k' := by
    intro k'
    by_cases same : k = k'
    · subst same
      simp [limited, slotsOf, List.getElem?_set_self lt_k, at_k, slots_e]
    · simp [limited, slotsOf, List.getElem?_set_ne same]
  refine ⟨?_, ?_, ?_, ?_, ?_, ?_, ?_, h.logged_set at_i sent, ?_⟩
  · simpa [setTransfer] using h.current_lt
  · simpa [setTransfer] using h.members_lt
  · intro x mx
    rcases List.mem_or_eq_of_mem_set mx with old | rfl
    · exact h.built x old
    · simpa [slots_e] using h.built e (List.mem_of_getElem? at_k)
  · intro u mu
    rcases mem_setTransfer mu with old | rfl
    · simpa using h.engine_lt u old
    · simpa [engine] using lt_k
  · intro u mu
    rw [limited]
    rcases mem_setTransfer mu with old | rfl
    · exact h.uses u old
    · rw [engine, uses, limits]
  · intro u mu
    rcases mem_setTransfer mu with old | rfl
    · exact h.idle u old
    · exact idle
  · intro p mp
    simpa [setTransfer] using h.logged_lt p mp
  · intro k' x st'' at_k' slots_x
    have moved := holding_set at_i t' k'
    rw [on, engine] at moved
    change sem.taken st'' = (g.setTransfer i t').holding k' ∧ _
    by_cases same : k = k'
    · -- the engine that moved: its count changes with the exchange
      subst same
      simp only [List.getElem?_set_self lt_k, Option.some.injEq] at at_k'
      subst at_k'
      obtain rfl : st' = st'' := Option.some.inj slots_x
      have before := h.slots k e st at_k slots_e
      simp only [beq_self_eq_true, Bool.true_and] at moved
      refine ⟨by omega, fits, size.trans before.2.2⟩
    · have before := h.slots k' x st'' (by simpa [List.getElem?_set_ne same] using at_k') slots_x
      simp only [beq_false_of_ne same, Bool.false_and, Bool.false_eq_true, if_false,
        Nat.add_zero] at moved
      exact ⟨by omega, before.2⟩

theorem Sound.acquire (lawful : sem.Lawful) {g : SlotGroup σ} (h : g.Sound sem) {i : Nat}
    {t : Transfer} {st st' : σ} (at_i : g.transfers[i]? = some t) (waiting : t.phase = .waiting)
    (limits : g.slotsOf t.engine = some st) (took : sem.acquire st = some st') :
    ({ g with engines := g.engines.modify t.engine fun e => { e with slots := some st' },
              transfers := g.transfers.set i { t with phase := .running, uses := t.uses ++ [.took] } } :
      SlotGroup σ).Sound sem := by
  obtain ⟨e, at_k, slots_e⟩ := Option.bind_eq_some_iff.1 limits
  obtain ⟨free, more, size⟩ := lawful.acquire_some took
  have nothing : t.uses = [] := by
    simpa [waiting, Phase.slotUses] using h.uses t (List.mem_of_getElem? at_i)
  rw [modify_eq_set_of_getElem? _ at_k]
  refine h.swap at_i at_k slots_e rfl rfl rfl (by simp [nothing, Phase.slotUses]) (by simp)
    (by simp [waiting, more]) (by omega) size

theorem Sound.returnFrom (lawful : sem.Lawful) {g : SlotGroup σ} (h : g.Sound sem) {i : Nat}
    {t : Transfer} (at_i : g.transfers[i]? = some t) (running : t.phase = .running) {how : Exit}
    (ne : how ≠ .noSlot) : (g.returnFrom sem i t how).Sound sem := by
  have mt := List.mem_of_getElem? at_i
  have idle : Phase.returned how = .waiting ∨ Phase.returned how = .returned .noSlot →
      t.sent = 0 := by
    rintro (w | w)
    · cases w
    · exact absurd (Phase.returned.inj w) ne
  obtain ⟨e, at_k⟩ : ∃ e, g.engines[t.engine]? = some e :=
    ⟨_, List.getElem?_eq_getElem (h.engine_lt t mt)⟩
  cases limits : e.slots with
  | none =>
    -- nothing limits the engine: only the exchange changes
    have free : g.slotsOf t.engine = none := by simp [slotsOf, at_k, limits]
    have same : g.engines.modify t.engine (fun e => { e with slots := e.slots.map sem.release }) =
        g.engines := by
      apply List.ext_getElem?
      intro j
      rw [List.getElem?_modify]
      split
      · rename_i hj
        subst hj
        rw [at_k]
        cases e
        simp_all
      · simp
    have nothing : t.uses = [] := by
      simpa [running, Phase.slotUses, limited, free] using h.uses t mt
    unfold SlotGroup.returnFrom
    rw [same]
    exact h.replace at_i rfl rfl (by simp [nothing, limited, free, ne]) idle (.inl free)
  | some st =>
    have before := h.slots t.engine e st at_k limits
    have busy : 0 < sem.taken st := by
      rw [before.1]
      exact List.countP_pos_iff.2 ⟨t, mt, by simp [running]⟩
    obtain ⟨less, size⟩ := lawful.release_taken busy
    have lim : g.limited t.engine = true := by simp [limited, slotsOf, at_k, limits]
    have took : t.uses = [.took] := by
      simpa [running, Phase.slotUses, lim] using h.uses t mt
    unfold SlotGroup.returnFrom
    rw [modify_eq_set_of_getElem? _ at_k, limits]
    refine h.swap at_i at_k limits rfl rfl rfl ?_ idle ?_ (by omega) size
    · simp [took, lim, ne]
    · simp [running]
      omega

theorem Sound.dispatch {g : SlotGroup σ} (h : g.Sound sem) {i : Nat} {t : Transfer}
    (at_i : g.transfers[i]? = some t) (running : t.phase = .running) (m : Message) :
    ({ g.setTransfer i { t with sent := t.sent + 1 } with log := g.log ++ [(i, m)] } :
      SlotGroup σ).Sound sem := by
  have mt := List.mem_of_getElem? at_i
  have lt := (List.getElem?_eq_some_iff.1 at_i).1
  refine ⟨h.current_lt, h.members_lt, h.built, ?_, ?_, ?_, ?_, ?_, ?_⟩
  · intro u mu
    rcases mem_setTransfer mu with old | rfl
    · exact h.engine_lt u old
    · exact h.engine_lt t mt
  · intro u mu
    rcases mem_setTransfer mu with old | rfl
    · exact h.uses u old
    · exact h.uses t mt
  · intro u mu
    rcases mem_setTransfer mu with old | rfl
    · exact h.idle u old
    · simp [running]
  · intro p mp
    rcases List.mem_append.1 mp with old | new
    · simpa [setTransfer] using h.logged_lt p old
    · simpa [setTransfer, List.mem_singleton.1 new] using lt
  · intro j u at_j
    rw [List.countP_append, List.countP_singleton]
    by_cases same : i = j
    · subst same
      simp only [setTransfer, List.getElem?_set_self lt, Option.some.injEq] at at_j
      subst at_j
      simp [h.logged i t at_i]
    · rw [getElem?_setTransfer_of_ne _ same] at at_j
      simp [h.logged j u at_j, same]
  · intro k e st at_k slots_e
    have moved := holding_set at_i { t with sent := t.sent + 1 } k
    dsimp only at moved
    have before := h.slots k e st at_k slots_e
    change sem.taken st = (g.setTransfer i { t with sent := t.sent + 1 }).holding k ∧ _
    exact ⟨by omega, before.2⟩

theorem Sound.giveUp {g : SlotGroup σ} (h : g.Sound sem) {i : Nat} {t : Transfer}
    (at_i : g.transfers[i]? = some t) (waiting : t.phase = .waiting) :
    (g.setTransfer i { t with phase := .returned .noSlot }).Sound sem := by
  have mt := List.mem_of_getElem? at_i
  have nothing : t.uses = [] := by simpa [waiting, Phase.slotUses] using h.uses t mt
  exact h.replace at_i rfl rfl (by simp [nothing, Phase.slotUses])
    (fun _ => h.idle t mt (.inl waiting)) (.inr (by simp [waiting]))

theorem Sound.advance (lawful : sem.Lawful) {g : SlotGroup σ} (h : g.Sound sem) {i : Nat}
    {t : Transfer} (at_i : g.transfers[i]? = some t) : (g.advance sem i t).Sound sem := by
  have mt := List.mem_of_getElem? at_i
  unfold SlotGroup.advance
  split
  next waiting =>
    split
    next limits =>
      -- no limit: the exchange runs at once, taking nothing
      have nothing : t.uses = [] := by simpa [waiting, Phase.slotUses] using h.uses t mt
      exact h.replace at_i rfl rfl (by simp [nothing, limited, limits, Phase.slotUses]) (by simp)
        (.inl limits)
    next st limits =>
      split
      next st' took => exact h.acquire lawful at_i waiting limits took
      next => exact h
  next running =>
    split
    next m _ =>
      split
      next => exact h.returnFrom lawful at_i running (by decide)
      next => exact h.dispatch at_i running m
    next => exact h.returnFrom lawful at_i running (by decide)
  next => exact h

theorem Sound.members_set {g : SlotGroup σ} (h : g.Sound sem) (m : Nat) {b : Option Nat}
    (bound : ∀ k, b = some k → k < g.engines.length) :
    ∀ (m' k : Nat), (g.members.set m b)[m']? = some (some k) → k < g.engines.length := by
  intro m' k hk
  rw [List.getElem?_set] at hk
  split_ifs at hk
  · exact bound k (Option.some.inj hk)
  · exact h.members_lt m' k hk

theorem Sound.step (lawful : sem.Lawful) {g : SlotGroup σ} (h : g.Sound sem) (ev : SlotEvent) :
    (g.step sem ev).Sound sem := by
  cases ev with
  | openGroup e => exact h.openGroup lawful e
  | closeGroup => exact h.of_view rfl rfl rfl (fun _ none => nomatch none) h.members_lt
  | join =>
    refine h.of_view rfl rfl rfl h.current_lt fun m k hk => ?_
    change (g.members ++ [none])[m]? = some (some k) at hk
    rcases Nat.lt_or_ge m g.members.length with lt | ge
    · rw [List.getElem?_append_left lt] at hk
      exact h.members_lt m k hk
    · -- the new member is closed
      rw [List.getElem?_append_right ge, List.getElem?_singleton] at hk
      split_ifs at hk
      simp at hk
  | openMember m =>
    simp only [SlotGroup.step]
    split
    next k current _ =>
      exact h.of_view rfl rfl rfl h.current_lt
        (h.members_set m fun k' same => Option.some.inj same ▸ h.current_lt k current)
    · exact h
  | closeMember m =>
    simp only [SlotGroup.step]
    split
    · -- silencing and cancelling leave what the invariant reads of each exchange
      have view : (g.transfers.map fun t =>
          if t.member = m then { t with silenced := true, cancelled := true } else t).map
            Transfer.slotView = g.transfers.map Transfer.slotView := by
        rw [List.map_map]
        refine List.map_congr_left fun t _ => ?_
        simp only [Function.comp_apply]
        split <;> rfl
      exact h.of_view rfl rfl view h.current_lt (h.members_set m fun _ none => nomatch none)
    · exact h
  | start m addr target reply chunk =>
    simp only [SlotGroup.step]
    split
    · rename_i k bound
      exact h.start bound _
    · exact h
  | silence i =>
    exact h.of_view rfl rfl
      (Shutdown.map_modify_of_comp (f := fun (t : Transfer) => { t with silenced := true }) (fun _ => rfl) _ _)
      h.current_lt h.members_lt
  | cancel i =>
    exact h.of_view rfl rfl
      (Shutdown.map_modify_of_comp (f := fun (t : Transfer) => { t with cancelled := true }) (fun _ => rfl) _ _)
      h.current_lt h.members_lt
  | step i =>
    cases at_i : g.transfers[i]? with
    | none => simpa [SlotGroup.step, at_i] using h
    | some t =>
      simp only [SlotGroup.step, at_i]
      exact h.advance lawful at_i
  | giveUp i =>
    cases at_i : g.transfers[i]? with
    | none => simpa [SlotGroup.step, at_i] using h
    | some t =>
      simp only [SlotGroup.step, at_i]
      split
      · rename_i quits
        exact h.giveUp at_i quits.1
      · exact h

theorem Sound.run (lawful : sem.Lawful) {g : SlotGroup σ} (h : g.Sound sem) (es : List SlotEvent) :
    (g.run sem es).Sound sem := by
  induction es generalizing g with
  | nil => exact h
  | cons ev es ih => exact ih (h.step lawful ev)

/-! ### What every run keeps -/

/-- What a group guarantees of its slots at every moment. -/
structure SlotsKept (sem : Semaphore σ) (g : SlotGroup σ) : Prop where
  /-- No limiting engine runs more exchanges than its `max-connections`. -/
  ceiling : ∀ k e, g.engines[k]? = some e → 0 < e.settings.maxConnections →
    g.holding k ≤ e.settings.maxConnections.toNat
  /-- An exchange running on a limiting engine has taken one slot and given none back. -/
  running : ∀ t ∈ g.transfers, g.limited t.engine = true → t.phase = .running →
    t.uses = [.took]
  /-- An exchange of a limiting engine that returned from running, however it returned, took one
  slot and gave it back exactly once. -/
  returned : ∀ t ∈ g.transfers, g.limited t.engine = true → ∀ how, how ≠ .noSlot →
    t.phase = .returned how → t.uses = [.took, .gave]
  /-- An exchange that gave up its wait took nothing, gave nothing back and dispatched nothing. -/
  gaveUp : ∀ i t, g.transfers[i]? = some t → t.phase = .returned .noSlot →
    t.uses = [] ∧ ∀ p ∈ g.log, p.1 ≠ i
  /-- Once no exchange runs on a limiting engine, all its units are free. -/
  drained : ∀ k e st, g.engines[k]? = some e → e.slots = some st →
    (∀ t ∈ g.transfers, t.engine = k → t.phase ≠ .running) → sem.taken st = 0

theorem Sound.slotsKept {g : SlotGroup σ} (h : g.Sound sem) : g.SlotsKept sem where
  ceiling k e at_k limits := by
    -- a positive `max-connections` built a semaphore, whose units bound the count
    obtain ⟨st, slots_e⟩ := Option.isSome_iff_exists.1
      ((h.built e (List.mem_of_getElem? at_k)).trans (decide_eq_true limits))
    obtain ⟨counts, fits, size⟩ := h.slots k e st at_k slots_e
    omega
  running t mt limits phase := by
    simpa [phase, Phase.slotUses, limits] using h.uses t mt
  returned t mt limits how ne phase := by
    simpa [phase, ne, limits] using h.uses t mt
  gaveUp i t at_i phase := by
    have mt := List.mem_of_getElem? at_i
    refine ⟨by simpa [phase, Phase.slotUses] using h.uses t mt, fun p mp named => ?_⟩
    -- the log counts as many messages of exchange `i` as it sent, and it sent none
    have none_sent : g.log.countP (·.1 == i) = 0 := (h.logged i t at_i).trans (h.idle t mt (.inr phase))
    exact List.countP_eq_zero.1 none_sent p mp (by simp [named])
  drained k e st at_k slots_e idle := by
    rw [(h.slots k e st at_k slots_e).1]
    refine List.countP_eq_zero.2 fun t mt counted => ?_
    simp only [Bool.and_eq_true, beq_iff_eq] at counted
    exact idle t mt counted.1 counted.2

/-- Over every run of a group, no engine runs more exchanges than its `max-connections`, and every
slot taken is given back once. -/
theorem slots_kept_over_every_run (lawful : sem.Lawful) (es : List SlotEvent) :
    (({} : SlotGroup σ).run sem es).SlotsKept sem :=
  Sound.slotsKept (sound_empty.run lawful es)

end SlotGroup

/-- A semaphore as its number of units and the number taken. -/
def Semaphore.counter : Semaphore (Nat × Nat) where
  fresh n := (n, 0)
  size s := s.1
  taken s := s.2
  acquire s := if s.2 < s.1 then some (s.1, s.2 + 1) else none
  release s := (s.1, s.2 - 1)

theorem Semaphore.counter_lawful : Semaphore.counter.Lawful where
  size_fresh _ := rfl
  taken_fresh _ := rfl
  acquire_some {st st'} took := by
    simp only [Semaphore.counter] at took
    split at took
    · cases took
      exact ⟨by assumption, rfl, rfl⟩
    · cases took
  release_taken _ := ⟨rfl, rfl⟩

/-- Two exchanges of one member on a group of one slot, the second one cancelled while the first
holds the slot. -/
theorem one_slot_group_keeps_slots :
    Semaphore.counter.Lawful ∧
      (({} : SlotGroup (Nat × Nat)).run Semaphore.counter
        [.openGroup { maxConnections := 1 }, .join, .openMember 0, .start 0 1 "/a" default 0,
          .start 0 2 "/b" default 0, .step 0, .step 1, .cancel 1, .giveUp 1, .step 0]).SlotsKept
        Semaphore.counter :=
  ⟨Semaphore.counter_lawful, SlotGroup.slots_kept_over_every_run Semaphore.counter_lawful _⟩

end ChannelMux.Http
