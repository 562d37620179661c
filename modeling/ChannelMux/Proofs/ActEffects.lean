import ChannelMux.Proofs.WorldShape
import ChannelMux.Session.Run
import Mathlib

/-! What the operations of a session do to the routing of its world. -/

namespace ChannelMux

open Session World

variable {α β : Type} {w : World} {id : ChannelId} {c : Channel}

/-! ### Running operations -/

@[simp] theorem perform_pure (w : World) (x : α) : perform w (pure x : Act α) = (.ok x, w) := rfl

@[simp] theorem perform_throw (w : World) (e : Failure) :
    perform w (throw e : Act α) = (.error e, w) :=
  rfl

@[simp] theorem perform_modify (w : World) (f : World → World) :
    perform w (modify f : Act Unit) = (.ok (), f w) := rfl

@[simp] theorem perform_get (w : World) : perform w (get : Act World) = (.ok w, w) := rfl

theorem perform_bind (w : World) (a : Act α) (f : α → Act β) :
    perform w (a >>= f) =
      match perform w a with
      | (.ok x, w') => perform w' (f x)
      | (.error e, w') => (.error e, w') := by
  unfold perform
  rw [ExceptT.run_bind, StateT.run_bind]
  rcases (ExceptT.run a).run w with ⟨_ | x, w'⟩ <;> rfl

theorem perform_tryCatch (w : World) (a : Act α) (h : Failure → Act α) :
    perform w (tryCatch a h) =
      match perform w a with
      | (.ok x, w') => (.ok x, w')
      | (.error e, w') => perform w' (h e) := by
  unfold perform
  change StateT.run (ExceptT.run (ExceptT.tryCatch a h)) w = _
  simp only [ExceptT.tryCatch, ExceptT.run_mk, StateT.run_bind]
  change _ = match StateT.run a w with
    | (Except.ok x, w') => (Except.ok x, w')
    | (Except.error e, w') => StateT.run (ExceptT.run (h e)) w'
  rcases StateT.run a w with ⟨_ | x, w'⟩ <;> rfl

theorem perform_ofExcept (w : World) (r : Except Failure α) :
    perform w (Act.ofExcept r) = (r, w) := by
  cases r <;> rfl

theorem perform_ofExcept_bind (w : World) (r : Except Failure α) (f : α → Act β) :
    perform w (Act.ofExcept r >>= f) =
      match r with
      | .ok x => perform w (f x)
      | .error e => (.error e, w) := by
  rw [perform_bind, perform_ofExcept]
  cases r <;> rfl

theorem perform_named (w : World) (name : String) (r : Except Failure α) :
    perform w (Act.named name r) = (r.mapError (·.within name), w) := by
  unfold Act.named
  exact perform_ofExcept w _

theorem perform_need (h : w.get? id = some c) : perform w (Act.need id) = (.ok c, w) := by
  simp [Act.need, perform_bind, h]

theorem perform_need_none (h : w.get? id = none) :
    perform w (Act.need id) = (.error (Failure.plain ("no channel number " ++ toString id)), w) := by
  simp [Act.need, perform_bind, h]

/-! ### Operations that only read -/

/-- The operation leaves the world as it is, whether it succeeds or fails. -/
def Reads (a : Act α) : Prop := ∀ w, (perform w a).2 = w

/-- Every answer of the operation satisfies `P`. -/
def Answers (P : α → Prop) (a : Act α) : Prop := ∀ w v, (perform w a).1 = .ok v → P v

theorem Reads.bind {a : Act α} {f : α → Act β} (ha : Reads a) (hf : ∀ x, Reads (f x)) :
    Reads (a >>= f) := by
  intro w
  rw [perform_bind]
  have h₁ := ha w
  rcases hp : perform w a with ⟨_ | x, w'⟩
  · rw [hp] at h₁
    exact h₁
  · rw [hp] at h₁
    subst h₁
    exact hf x _

theorem reads_pure (x : α) : Reads (pure x : Act α) := fun _ => rfl

theorem reads_throw (e : Failure) : Reads (throw e : Act α) := fun _ => rfl

theorem reads_get : Reads (get : Act World) := fun _ => rfl

theorem reads_ofExcept (e : Except Failure α) : Reads (Act.ofExcept e) := fun w => by
  rw [perform_ofExcept]

theorem reads_named (name : String) (r : Except Failure α) : Reads (Act.named name r) := fun w => by
  rw [perform_named]

theorem reads_need (x : ChannelId) : Reads (Act.need x) := fun w => by
  cases hc : w.get? x with
  | none => rw [perform_need_none hc]
  | some c => rw [perform_need hc]

theorem Answers.bind {P : β → Prop} {a : Act α} {f : α → Act β} (hf : ∀ x, Answers P (f x)) :
    Answers P (a >>= f) := by
  intro w v hv
  rw [perform_bind] at hv
  rcases hp : perform w a with ⟨_ | x, w'⟩
  · rw [hp] at hv
    cases hv
  · rw [hp] at hv
    exact hf x w' v hv

theorem answers_pure {P : α → Prop} {x : α} (h : P x) : Answers P (pure x : Act α) := by
  intro w v hv
  cases hv
  exact h

theorem answers_throw_bind {P : β → Prop} (e : Failure) (f : α → Act β) :
    Answers P (throw e >>= f) := by
  intro w v hv
  rw [perform_bind] at hv
  cases hv

/-! ### Operations that leave the routing aside -/

/-- An operation run while channel `id` keeps the routes `r` and serves no pattern changes only the
state of `id` among what routing reads, and never starts closing it. -/
def KeepsAside (id : ChannelId) (r : Option (RouteTable ChannelId)) (a : Act α) : Prop :=
  ∀ w : World, w.routesOf id = r → w.nodeOf? id = none →
    Aside id w (perform w a).2 ∧ ((perform w a).2.stateOf id = .closing → w.stateOf id = .closing)

variable {r : Option (RouteTable ChannelId)}

theorem KeepsAside.bind {a : Act α} {f : α → Act β} (ha : KeepsAside id r a)
    (hf : ∀ x, KeepsAside id r (f x)) : KeepsAside id r (a >>= f) := by
  intro w hr hn
  have h₁ := ha w hr hn
  rw [perform_bind]
  rcases hp : perform w a with ⟨_ | x, w'⟩
  · rw [hp] at h₁
    exact h₁
  · rw [hp] at h₁
    have h₂ := hf x w' ((h₁.1.routesOf id).trans hr) ((h₁.1.nodeOf? id).trans hn)
    exact ⟨h₁.1.trans h₂.1, fun h => h₁.2 (h₂.2 h)⟩

theorem keepsAside_pure (x : α) : KeepsAside id r (pure x : Act α) :=
  fun w _ _ => ⟨.refl id w, fun h => h⟩

theorem keepsAside_throw (e : Failure) : KeepsAside id r (throw e : Act α) :=
  fun w _ _ => ⟨.refl id w, fun h => h⟩

theorem keepsAside_get : KeepsAside id r (get : Act World) := fun w _ _ => ⟨.refl id w, fun h => h⟩

theorem keepsAside_modify {f : World → World}
    (hf : ∀ w : World, w.routesOf id = r → w.nodeOf? id = none → ∀ x, Aside x w (f w)) :
    KeepsAside id r (modify f : Act Unit) := fun w hr hn => by
  rw [perform_modify]
  exact ⟨hf w hr hn id, fun h => (stateOf_of_aside (hf w hr hn) id).symm.trans h⟩

theorem keepsAside_ofExcept (e : Except Failure α) : KeepsAside id r (Act.ofExcept e) := by
  intro w _ _
  rw [perform_ofExcept]
  exact ⟨.refl id w, fun h => h⟩

theorem keepsAside_need (x : ChannelId) : KeepsAside id r (Act.need x) := by
  intro w _ _
  cases hc : w.get? x with
  | none => rw [perform_need_none hc]; exact ⟨.refl id w, fun h => h⟩
  | some c => rw [perform_need hc]; exact ⟨.refl id w, fun h => h⟩

theorem keepsAside_publish (k v : String) : KeepsAside id r (Act.publish id k v) :=
  keepsAside_modify fun _ _ _ => aside_modify_of_state (by intro; rfl) (by intro; rfl)

theorem keepsAside_activate : KeepsAside id r (Act.move id Cycle.activate) := fun w _ _ => by
  unfold Act.move
  rw [perform_modify]
  dsimp only
  refine ⟨aside_move _, fun h => ?_⟩
  rw [stateOf_move, if_pos rfl] at h
  cases hc : w.get? id with
  | none => simp [hc] at h
  | some c =>
    simp only [hc, Option.map_some, Option.getD_some, Cycle.activate_state] at h
    split at h
    · cases h
    · simp [stateOf, hc, h]

theorem aside_setHolding_of {h : Holding} (hr : h.routes? = r) (hn : h.node? = none)
    (hw : w.routesOf id = r) (hwn : w.nodeOf? id = none) (x : ChannelId) :
    Aside x w (w.setHolding id h) := by
  refine aside_setHolding fun c hc => ?_
  simp only [routesOf, nodeOf?, hc, Option.bind_some] at hw hwn
  exact ⟨hr.trans hw.symm, hn.trans hwn.symm⟩

theorem keepsAside_setHolding {h : Holding} (hr : h.routes? = r) (hn : h.node? = none) :
    KeepsAside id r (modify fun w : World => w.setHolding id h : Act Unit) :=
  keepsAside_modify fun _ hw hwn => aside_setHolding_of hr hn hw hwn

theorem world_groupEngine (g : ChannelId) (w : World) : (perform w (Act.groupEngine g)).2 = w := by
  unfold Act.groupEngine
  rw [perform_bind]
  cases hc : w.get? g with
  | none => rw [perform_need_none hc]
  | some gc =>
    rw [perform_need hc]
    dsimp only
    split
    · simp
    · split <;> rfl

theorem keepsAside_startExchange (addr : Int) (o : Http.Outgoing) :
    KeepsAside id none (Act.startExchange id addr o) := by
  unfold Act.startExchange
  refine (keepsAside_need id).bind fun c => ?_
  split
  · refine keepsAside_get.bind fun w₀ => ?_
    dsimp only
    split
    · exact keepsAside_modify fun w hr hn x =>
        ((aside_of_channels rfl).trans (aside_setHolding_of rfl rfl hr hn x)).trans
          (aside_of_channels rfl)
    · exact keepsAside_throw _
  · exact keepsAside_throw _

/-! ### Bringing a transport up -/

theorem aside_bringUp (d : Descriptor) (hn : w.nodeOf? id = none) :
    Aside id w (perform w (Act.bringUp id d)).2 ∧
      ((perform w (Act.bringUp id d)).2.stateOf id = .closing → w.stateOf id = .closing) := by
  unfold Act.bringUp
  rw [perform_bind]
  cases hc : w.get? id with
  | none => rw [perform_need_none hc]; exact ⟨.refl id w, fun h => h⟩
  | some c =>
    rw [perform_need hc]
    dsimp only
    have hr : w.routesOf id = c.holding.routes? := by simp [routesOf, hc]
    revert hr
    cases hh : c.holding with
    | direct e =>
      intro hr
      refine (?_ : KeepsAside id none _) w hr hn
      refine (keepsAside_ofExcept _).bind fun _ => ?_
      refine (keepsAside_setHolding ?_ ?_).bind fun _ => keepsAside_publish _ _ <;> rfl
    | group _ =>
      intro hr
      refine (?_ : KeepsAside id none _) w hr hn
      refine (keepsAside_ofExcept _).bind fun _ => ?_
      refine (keepsAside_setHolding ?_ ?_).bind fun _ => keepsAside_publish _ _ <;> rfl
    | request g line =>
      intro hr
      refine (?_ : KeepsAside id none _) w hr hn
      refine (keepsAside_ofExcept _).bind fun o => ?_
      -- the engine comes from the options or from the group; the rest is the same either way
      split
      all_goals refine KeepsAside.bind ?_ fun engine => (keepsAside_pure _).bind fun p => ?_
      · exact keepsAside_ofExcept _
      rotate_left
      · exact fun w _ _ => by rw [world_groupEngine]; exact ⟨.refl id w, fun h => h⟩
      -- the rest, after either engine: the holding, the information, and an exchange of a channel
      -- that closes by itself
      all_goals
        refine (keepsAside_setHolding (by rfl) (by rfl)).bind fun _ => (keepsAside_publish _ _).bind
          fun _ => (keepsAside_publish _ _).bind fun _ => (keepsAside_publish _ _).bind fun _ => ?_
        split
        · refine (keepsAside_publish _ _).bind fun _ => ?_
          split
          · exact keepsAside_activate.bind fun _ => keepsAside_startExchange _ _
          · exact keepsAside_pure _
        · split
          · exact keepsAside_activate.bind fun _ => keepsAside_startExchange _ _
          · exact keepsAside_pure _
    | listener routes bound =>
      intro hr
      refine (?_ : KeepsAside id (some routes) _) w hr hn
      refine (keepsAside_ofExcept _).bind fun _ => (keepsAside_ofExcept _).bind fun _ =>
        (keepsAside_ofExcept _).bind fun _ => keepsAside_get.bind fun w₀ => ?_
      split
      · refine (keepsAside_modify fun w hr hn x => ?_).bind fun _ =>
          keepsAside_modify fun _ _ _ => aside_modify_of_state (by intro; rfl) (by intro; rfl)
        exact (aside_setHolding_of rfl rfl hr hn x).trans (aside_of_channels rfl)
      · exact keepsAside_throw _
    | node => simp [nodeOf?, hc, hh, Holding.node?] at hn
    | client =>
      intro hr
      refine (?_ : KeepsAside id none _) w hr hn
      refine (keepsAside_ofExcept _).bind fun _ => ?_
      -- deferring activation keeps the state
      refine (keepsAside_modify fun _ _ _ =>
        aside_modify_of_state (by intro; rfl) (by intro; rfl)).bind fun _ => ?_
      refine (keepsAside_need id).bind fun _ => ?_
      exact keepsAside_modify fun _ _ _ _ => aside_of_channels rfl

/-- `w'` is `w` with the node `id` registered under the pattern `p` of the listening channel `s`,
and nothing else the routing reads changed. -/
structure Registered (id s : ChannelId) (p : String) (w w' : World) : Prop where
  cycleOf : ∀ x, w'.cycleOf x = w.cycleOf x
  nodeOf? : ∀ x, w'.nodeOf? x = w.nodeOf? x
  childrenOf : ∀ x, w'.childrenOf x = w.childrenOf x
  masterOf : ∀ x, w'.masterOf x = w.masterOf x
  routesOf_ne : ∀ x, x ≠ s → w'.routesOf x = w.routesOf x
  routesOf : ∃ t t' l, w.routesOf s = some t ∧ t.register l p id = .ok t' ∧ w'.routesOf s = some t'

theorem Registered.stateOf {s : ChannelId} {p : String} {w' : World} (h : Registered id s p w w')
    (x : ChannelId) : w'.stateOf x = w.stateOf x := by
  rw [stateOf_eq_cycleOf, stateOf_eq_cycleOf, h.cycleOf]

theorem bringUp_of_node {s : ChannelId} {p : String} (d : Descriptor)
    (hn : w.nodeOf? id = some (s, p)) :
    match perform w (Act.bringUp id d) with
    | (.ok _, w') => Registered id s p w w'
    | (.error _, w') => ∀ x, Aside x w w' := by
  obtain ⟨c, hc⟩ := Option.isSome_iff_exists.1 (get?_isSome_of_nodeOf? hn)
  have hcn : c.holding.node? = some (s, p) := by simpa [nodeOf?, hc] using hn
  unfold Act.bringUp
  rw [perform_bind, perform_need hc]
  dsimp only
  cases hh : c.holding with
  | node kind server pattern st =>
    rw [hh] at hcn
    simp only [Holding.node?, Option.some.injEq, Prod.mk.injEq] at hcn
    obtain ⟨hs, hp⟩ := hcn
    subst server pattern
    rw [perform_bind, perform_ofExcept]
    cases hst : kind.settings d.options with
    | error e => exact fun x => .refl x w
    | ok st' =>
      dsimp only
      rw [perform_bind, perform_modify]
      dsimp only
      rw [perform_bind]
      -- the node keeps serving its pattern with its new settings
      have h₁ : ∀ x, Aside x w (w.setHolding id (.node kind s p st')) := fun x =>
        aside_setHolding fun c' hc' => by rw [hc] at hc'; cases hc'; simp [hh, Holding.routes?]
      cases hs : (w.setHolding id (.node kind s p st')).get? s with
      | none => rw [perform_need_none hs]; exact h₁
      | some sc =>
        rw [perform_need hs]
        dsimp only
        cases hsh : sc.holding with
        | listener routes bound =>
          dsimp only
          rw [perform_bind, perform_ofExcept]
          cases hreg : routes.register sc.logger p id with
          | error e => exact h₁
          | ok t' =>
            dsimp only
            rw [perform_modify]
            have hsr : (w.setHolding id (.node kind s p st')).routesOf s = some routes := by
              simp [routesOf, hs, hsh]
            exact {
              cycleOf := fun x => by rw [cycleOf_setHolding, cycleOf_setHolding]
              nodeOf? := fun x => by
                rw [nodeOf?_setHolding, ← (h₁ x).nodeOf? x]
                split
                · subst x; simp [nodeOf?, hs, hsh, Holding.node?]
                · rfl
              childrenOf := fun x => by rw [childrenOf_setHolding, (h₁ x).childrenOf x]
              masterOf := fun x => by rw [masterOf_setHolding, (h₁ x).masterOf x]
              routesOf_ne := fun x hx => by
                rw [routesOf_setHolding, if_neg (Ne.symm hx), (h₁ x).routesOf x]
              routesOf := ⟨routes, t', sc.logger, ((h₁ s).routesOf s).symm.trans hsr, hreg,
                by simp [routesOf_setHolding, hs]⟩ }
        | _ => exact h₁
  | _ => simp [hh, Holding.node?] at hcn

/-! ### Opening -/

theorem openWith_cases (id : ChannelId) (extra : Options) (w : World) :
    (perform w (Act.openWith id extra)).2 = w ∨
    ∃ c d, w.get? id = some c ∧ c.cycle.state = .closed ∧
      (perform w (Act.openWith id extra)).2 =
        match perform ((w.modify id fun c => { c with config := d, info := Options.empty }).move id
          Cycle.beginOpen) (Act.bringUp id d) with
        | (.ok _, w₂) => w₂.move id Cycle.finishOpen
        | (.error _, w₂) => w₂.move id Cycle.fail := by
  unfold Act.openWith
  rw [perform_bind]
  cases hc : w.get? id with
  | none => exact .inl (by rw [perform_need_none hc])
  | some c =>
    rw [perform_need hc]
    dsimp only
    by_cases hs : c.cycle.state = .closed
    · cases ho : c.initial.override extra with
      | error e => 
        left
        simp [hs]
      | ok d =>
        right
        refine ⟨c, d, rfl, hs, ?_⟩
        simp only [hs, bne_self_eq_false, Bool.false_eq_true, if_false, perform_bind, perform_pure,
          perform_modify, Act.move, perform_tryCatch]
        rcases perform _ (Act.bringUp id d) with ⟨_ | _, w₂⟩ <;> rfl
    · left
      simp [hs]

/-! ### Creating -/

/-- A new channel's holding fits its master: only a channel without a master listens, and a node's
master is the listening channel it serves under. -/
def HoldingFits (w : World) (master : Option ChannelId) (h : Holding) : Prop :=
  (∀ t, h.routes? = some t → t = {} ∧ master = none) ∧
    ∀ s p, h.node? = some (s, p) → master = some s ∧ (w.routesOf s).isSome

theorem HoldingFits.of_plain {master : Option ChannelId} {h : Holding} (hr : h.routes? = none)
    (hn : h.node? = none) : HoldingFits w master h :=
  ⟨fun t ht => by simp [hr] at ht, fun s p hp => by simp [hn] at hp⟩

theorem holdingFor_spec_of_reads {master : Option ChannelId} {a : Act Holding} (hr : Reads a)
    (ha : Answers (HoldingFits w master) a) :
    (∀ x, Aside x w (perform w a).2) ∧ ∀ h, (perform w a).1 = .ok h → HoldingFits w master h :=
  ⟨fun x => by rw [hr w]; exact .refl x w, fun h hh => ha w h hh⟩

theorem holdingFor_spec (d : Descriptor) (master : Option ChannelId) (id : ChannelId) (w : World) :
    (∀ x, Aside x w (perform w (Act.holdingFor d master id)).2) ∧
      ∀ h, (perform w (Act.holdingFor d master id)).1 = .ok h → HoldingFits w master h := by
  unfold Act.holdingFor
  dsimp only
  split
  · rw [perform_bind, perform_named]
    cases hq : directQueueSize d.options with
    | error e => exact ⟨fun x => .refl x w, fun h hh => by simp [Except.mapError] at hh⟩
    | ok q =>
      simp only [Except.mapError]
      split
      · exact ⟨fun x => .refl x w, fun h hh => by
          cases hh
          exact HoldingFits.of_plain rfl rfl⟩
      · rename_i m
        rw [perform_bind]
        cases hc : w.get? m with
        | none =>
          rw [perform_need_none hc]
          exact ⟨fun x => .refl x w, fun h hh => by cases hh⟩
        | some mc =>
          rw [perform_need hc]
          dsimp only
          split
          · rename_i e he
            split
            · exact ⟨fun x => .refl x w, fun h hh => by simp at hh⟩
            · -- the master becomes the first end's peer: a direct end stays a direct end
              rw [perform_bind, perform_modify]
              refine ⟨fun x => aside_setHolding fun c' hc' => ?_, fun h hh => ?_⟩
              · rw [hc] at hc'
                cases hc'
                simp [he, Holding.routes?, Holding.node?]
              · cases hh
                exact HoldingFits.of_plain rfl rfl
          · exact ⟨fun x => .refl x w, fun h hh => by cases hh⟩
  · split
    · split
      · exact ⟨fun x => .refl x w, fun h hh => by simp at hh⟩
      · rw [perform_bind, perform_named]
        cases Http.Engine.ofOptions d.options
        · exact ⟨fun x => .refl x w, fun h hh => by simp [Except.mapError] at hh⟩
        · exact ⟨fun x => .refl x w, fun h hh => by
            simp only [Except.mapError, perform_pure, Except.ok.injEq] at hh
            exact hh ▸ HoldingFits.of_plain rfl rfl⟩
    · split
      · apply holdingFor_spec_of_reads
        · split
          · exact (reads_pure _).bind fun _ => (reads_named _ _).bind fun _ => reads_pure _
          · refine (reads_need _).bind fun c => ?_
            split
            · exact (reads_pure _).bind fun _ => (reads_named _ _).bind fun _ => reads_pure _
            · exact (reads_throw _).bind fun _ => (reads_named _ _).bind fun _ => reads_pure _
        · split
          · exact Answers.bind fun _ => Answers.bind fun _ => answers_pure (HoldingFits.of_plain rfl rfl)
          · refine Answers.bind fun c => ?_
            split <;>
              exact Answers.bind fun _ => Answers.bind fun _ => answers_pure (HoldingFits.of_plain rfl rfl)
      · split
        · apply holdingFor_spec_of_reads
          · refine (reads_named _ _).bind fun mode => ?_
            split
            · split
              · exact (reads_throw _).bind fun _ => (reads_ofExcept _).bind fun _ => reads_pure _
              · exact (reads_ofExcept _).bind fun _ => reads_pure _
            · exact (reads_named _ _).bind fun _ => reads_pure _
          · refine Answers.bind fun mode => ?_
            split
            · split
              · exact answers_throw_bind _ _
              · -- only a channel without a master listens
                rename_i hm
                refine Answers.bind fun _ => answers_pure ⟨fun t ht => ?_, fun s p hp => by cases hp⟩
                cases ht
                exact ⟨rfl, by simpa using hm⟩
            · exact Answers.bind fun _ => answers_pure (HoldingFits.of_plain rfl rfl)
        · split
          · rename_i kind hk
            rw [perform_bind, perform_named]
            cases hs : kind.settings d.options with
            | error e => exact ⟨fun x => .refl x w, fun h hh => by simp [Except.mapError] at hh⟩
            | ok st =>
              simp only [Except.mapError]
              split
              · rename_i m
                rw [perform_bind]
                cases hc : w.get? m with
                | none =>
                  rw [perform_need_none hc]
                  exact ⟨fun x => .refl x w, fun h hh => by cases hh⟩
                | some c =>
                  rw [perform_need hc]
                  dsimp only
                  split
                  · -- a node's master is the listening channel it serves under
                    rename_i routes bound hl
                    simp only [pure_bind]
                    apply holdingFor_spec_of_reads
                    · exact (reads_named _ _).bind fun _ => reads_pure _
                    · refine Answers.bind fun _ =>
                        answers_pure ⟨fun t ht => (by cases ht), fun s p hp => ?_⟩
                      cases hp
                      exact ⟨rfl, by simp [routesOf, hc, hl, Holding.routes?]⟩
                  · exact ⟨fun x => .refl x w, fun h hh => by simp at hh⟩
              · exact ⟨fun x => .refl x w, fun h hh => by simp at hh⟩
          · exact ⟨fun x => .refl x w, fun h hh => by cases hh⟩

theorem Descriptor.masterIn_eq_error {find : String → Option ChannelId} {d : Descriptor}
    {master : Option ChannelId} {e : Failure} (h : d.masterIn find master = .error e) :
    ∃ name, find name = none ∧ e = Failure.make .notFound ("master channel " ++ Text.quote name) := by
  unfold Descriptor.masterIn at h
  cases master with
  | some m => cases h
  | none =>
    cases ho : d.options.get? "master" with
    | none =>
      simp only [ho] at h
      cases h
    | some name =>
      simp only [ho] at h
      split at h
      · cases h
      · cases hf : find name with
        | some m =>
          simp only [hf] at h
          cases h
        | none =>
          simp only [hf] at h
          cases h
          exact ⟨name, hf, rfl⟩

theorem reads_resolveMaster (d : Descriptor) (master : Option ChannelId) :
    Reads (Act.resolveMaster d master) :=
  reads_get.bind fun _ => reads_ofExcept _

/-- `w'` is `w` with one channel more: the closed channel `n`, holding `h`, whose master is `master`
and which is the last child of that master. -/
structure Created (n : ChannelId) (h : Holding) (master : Option ChannelId) (w w' : World) : Prop where
  fresh : w.get? n = none
  stateOf : ∀ x, w'.stateOf x = w.stateOf x
  routesOf : ∀ x, w'.routesOf x = if x = n then h.routes? else w.routesOf x
  nodeOf? : ∀ x, w'.nodeOf? x = if x = n then h.node? else w.nodeOf? x
  masterOf : ∀ x, w'.masterOf x = if x = n then master else w.masterOf x
  childrenOf : ∀ x y, y ∈ w'.childrenOf x → y ∈ w.childrenOf x ∨ (y = n ∧ master = some x)

theorem created_push {w₂ : World} {h : Holding} {m : Option ChannelId} (hw : ∀ x, Aside x w w₂)
    (c : Channel) (ns : List (String × ChannelId)) (hch : c.holding = h) (hcm : c.master = m)
    (hcc : c.children = []) (hst : c.cycle.state = .closed) :
    Created w₂.channels.size h m w { w₂ with channels := w₂.channels.push c, names := ns } := by
  subst hch hcm
  have hsize : w₂.channels.size = w.channels.size := (hw 0).size
  have hget : ∀ x, ({ w₂ with channels := w₂.channels.push c, names := ns } : World).get? x =
      if x = w₂.channels.size then some c else w₂.get? x := fun x => by
    simp [get?, Array.getElem?_push]
  refine ⟨by simp [get?, hsize], fun x => ?_, fun x => ?_, fun x => ?_, fun x => ?_, fun x y hy => ?_⟩
  · rw [stateOf_of_aside hw x |>.symm]
    simp only [stateOf, hget]
    split
    · subst x
      simp [hst, get?]
    · rfl
  · simp only [routesOf, hget]
    split
    · rfl
    · exact (hw x).routesOf x
  · simp only [nodeOf?, hget]
    split
    · rfl
    · exact (hw x).nodeOf? x
  · simp only [masterOf, hget]
    split
    · rfl
    · exact (hw x).masterOf x
  · simp only [childrenOf, hget] at hy
    split at hy
    · simp [hcc] at hy
    · exact .inl ((hw x).childrenOf x ▸ hy)

theorem Created.addChild {n mm : ChannelId} {h : Holding} {w₃ : World}
    (hc : Created n h (some mm) w w₃) :
    Created n h (some mm) w (w₃.modify mm fun mc => { mc with children := mc.children ++ [n] }) := by
  refine ⟨hc.fresh, fun x => ?_, fun x => ?_, fun x => ?_, fun x => ?_, fun x y hy => ?_⟩
  · rw [stateOf_modify (by intro; rfl), hc.stateOf]
  · rw [routesOf_modify (by intro; rfl), hc.routesOf]
  · rw [nodeOf?_modify (by intro; rfl), hc.nodeOf?]
  · rw [masterOf_modify (by intro; rfl), hc.masterOf]
  · rw [childrenOf_modify] at hy
    split at hy
    · rename_i hx
      subst hx
      cases hg : w₃.get? mm with
      | none => simp [hg] at hy
      | some c₃ =>
        simp only [hg, Option.map_some, Option.getD_some, List.mem_append, List.mem_singleton] at hy
        rcases hy with hy | rfl
        · exact hc.childrenOf mm y (by simpa [World.childrenOf, hg] using hy)
        · exact .inr ⟨rfl, rfl⟩
    · exact hc.childrenOf x y hy

theorem create_cases (d : Descriptor) (master : Option ChannelId) (w : World) :
    (∀ x, Aside x w (perform w (Act.create d master)).2) ∨
      ∃ n h m, HoldingFits w m h ∧ Created n h m w (perform w (Act.create d master)).2 := by
  unfold Act.create
  rw [perform_bind]
  have hrm := reads_resolveMaster d master w
  rcases hp : perform w (Act.resolveMaster d master) with ⟨_ | m, w₀⟩
  · rw [hp] at hrm
    subst hrm
    exact .inl fun x => .refl x _
  · rw [hp] at hrm
    subst hrm
    dsimp -zeta only
    extract_lets jp jp₀
    -- naming the channel ends in `jp` from a world that has the same channels
    have tail : ∀ (d' : Descriptor) (w₁ : World), w₁.channels = w₀.channels →
        (∀ x, Aside x w₀ (perform w₁ (jp d')).2) ∨
          ∃ n h m, HoldingFits w₀ m h ∧ Created n h m w₀ (perform w₁ (jp d')).2 := by
      intro d' w₁ hch
      have h₀₁ : ∀ x, Aside x w₀ w₁ := fun x => aside_of_channels hch
      simp only [jp]
      rw [perform_bind, perform_get]
      dsimp only
      split
      · exact .inl fun x => h₀₁ x
      · rw [perform_bind, perform_get]
        dsimp -zeta only
        rw [perform_bind]
        obtain ⟨hasd, hfits⟩ := holdingFor_spec d' m w₁.channels.size w₁
        rcases hh : perform w₁ (Act.holdingFor d' m w₁.channels.size) with ⟨_ | h, w₂⟩
        · rw [hh] at hasd
          exact .inl fun x => (h₀₁ x).trans (hasd x)
        · rw [hh] at hasd hfits
          right
          refine ⟨w₁.channels.size, h, m, ?_, ?_⟩
          · -- the holding fits what the world was before the kind looked at it
            have hf := hfits h rfl
            exact ⟨hf.1, fun s p hp => by rw [← (h₀₁ s).routesOf s]; exact hf.2 s p hp⟩
          · dsimp only
            rw [perform_bind, perform_get]
            dsimp only
            rw [perform_bind, perform_modify]
            dsimp only
            have hw₂ : ∀ x, Aside x w₀ w₂ := fun x => (h₀₁ x).trans (hasd x)
            have hs : w₂.channels.size = w₁.channels.size := (hasd 0).size
            rw [← hs]
            cases m with
            | some mm =>
              dsimp only
              rw [perform_bind, perform_modify]
              refine Created.addChild (created_push hw₂ _ _ ?_ ?_ ?_ ?_) <;> rfl
            | none => refine created_push hw₂ _ _ ?_ ?_ ?_ ?_ <;> rfl
    split
    · exact .inl fun x => .refl x _
    · simp only [jp₀]
      split
      · rw [perform_bind, perform_get]
        dsimp only
        rw [perform_bind, perform_modify]
        dsimp only
        rw [perform_bind, perform_pure]
        exact tail _ _ rfl
      · rw [perform_bind, perform_pure]
        exact tail _ _ rfl

theorem createFrom_cases (text : String) (extra : Options) (master : Option ChannelId) (w : World) :
    (∀ x, Aside x w (perform w (Act.createFrom text extra master)).2) ∨
      ∃ n h m, HoldingFits w m h ∧
        Created n h m w (perform w (Act.createFrom text extra master)).2 := by
  unfold Act.createFrom
  rw [perform_ofExcept_bind]
  split
  · rw [perform_ofExcept_bind]
    split
    · exact create_cases _ master w
    · exact .inl fun x => .refl x w
  · exact .inl fun x => .refl x w

end ChannelMux
