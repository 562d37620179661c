import ChannelMux.Proofs.ActEffects
import ChannelMux.Proofs.RouteSnapshot

/-! Which nodes the routes of a listening channel bind, across creating, opening, closing and
releasing channels. -/

namespace ChannelMux

theorem RouteTable.find?_empty {α : Type} (p : String) : ({} : RouteTable α).find? p = none := by
  unfold RouteTable.find?
  split <;> rfl

theorem Cycle.beginOpen_deferActive (cy : Cycle) : cy.beginOpen.1.deferActive = false := by
  unfold Cycle.beginOpen Cycle.moveTo
  split <;> rfl

theorem Cycle.finishOpen_closing {cy : Cycle} (h : cy.finishOpen.1.state = .closing) :
    cy.state = .closing := by
  rw [Cycle.finishOpen_state] at h
  split at h
  · cases h
  · exact h

theorem Cycle.fail_closing {cy : Cycle} (h : cy.fail.1.state = .closing) : cy.state = .closing := by
  rw [Cycle.fail_state] at h
  split at h
  · cases h
  · exact h

namespace Created

open World

variable {w w' : World} {n s x : ChannelId} {h : Holding} {mm : Option ChannelId}

theorem ne (hc : Created n h mm w w') (hx : (w.get? x).isSome) : x ≠ n := by
  rintro rfl
  simp [hc.fresh] at hx

theorem routesOf_of_isSome (hc : Created n h mm w w') (hl : (w.routesOf s).isSome) :
    w'.routesOf s = w.routesOf s := by
  obtain ⟨t, ht⟩ := Option.isSome_iff_exists.1 hl
  rw [hc.routesOf, if_neg (hc.ne (get?_isSome_of_routesOf ht))]

end Created

namespace World

open Session

variable {w w' : World} {s n m x y : ChannelId} {p : String}

/-! ### The invariant -/

/-- The routes bind a pattern only to a node that serves it under that channel and is active or
closing, and they bind every active node. -/
structure Tracks (w : World) : Prop where
  sound : ∀ s t, w.routesOf s = some t → t.Sound
  bound : ∀ s p n, w.Binds s p n →
    w.nodeOf? n = some (s, p) ∧ (w.stateOf n = .active ∨ w.stateOf n = .closing)
  active : ∀ s p n, w.nodeOf? n = some (s, p) → w.stateOf n = .active → w.Binds s p n

/-- The tree fits the routing: a child names its master, a node's master is the listening channel
it serves under, and a listening channel has no master. -/
structure Shaped (w : World) : Prop where
  child_master : ∀ x y, y ∈ w.childrenOf x → w.masterOf y = some x
  node_master : ∀ n s p, w.nodeOf? n = some (s, p) → w.masterOf n = some s
  server_listens : ∀ n s p, w.nodeOf? n = some (s, p) → (w.routesOf s).isSome
  listener_root : ∀ s, (w.routesOf s).isSome → w.masterOf s = none

/-- The routing invariant of a world at rest: no channel is left closing. -/
structure Coherent (w : World) : Prop where
  tracks : w.Tracks
  shaped : w.Shaped
  settled : ∀ x, w.stateOf x ≠ .closing

/-- The worlds a session reaches from the empty one by creating channels from their text, and by
opening, closing and releasing them. -/
inductive Reachable : World → Prop
  | empty : Reachable {}
  | create {w : World} (text : String) (extra : Options) (master : Option ChannelId) :
      Reachable w → Reachable (perform w (Act.createFrom text extra master)).2
  | openWith {w : World} (id : ChannelId) (extra : Options) :
      Reachable w → Reachable (perform w (Act.openWith id extra)).2
  | close {w : World} (id : ChannelId) : Reachable w → Reachable (w.close id)
  | release {w : World} (id : ChannelId) : Reachable w → Reachable (w.release id)

/-! ### What the invariant reads -/

/-- `w'` keeps the nodes, the masters and the listening channels of `w`, and drops children at
most. -/
structure KeepsTree (w w' : World) : Prop where
  nodeOf? : ∀ x, w'.nodeOf? x = w.nodeOf? x
  masterOf : ∀ x, w'.masterOf x = w.masterOf x
  listens : ∀ x, (w'.routesOf x).isSome = (w.routesOf x).isSome
  childrenOf : ∀ x y, y ∈ w'.childrenOf x → y ∈ w.childrenOf x

namespace KeepsTree

theorem refl (w : World) : KeepsTree w w := ⟨fun _ => rfl, fun _ => rfl, fun _ => rfl, fun _ _ h => h⟩

theorem trans {w'' : World} (h₁ : KeepsTree w w') (h₂ : KeepsTree w' w'') : KeepsTree w w'' :=
  ⟨fun x => (h₂.nodeOf? x).trans (h₁.nodeOf? x), fun x => (h₂.masterOf x).trans (h₁.masterOf x),
    fun x => (h₂.listens x).trans (h₁.listens x),
    fun x y hy => h₁.childrenOf x y (h₂.childrenOf x y hy)⟩

theorem of_aside (h : Aside x w w') : KeepsTree w w' :=
  ⟨h.nodeOf?, h.masterOf, fun y => by rw [h.routesOf], fun y z hz => h.childrenOf y ▸ hz⟩

end KeepsTree

theorem Shaped.of_keepsTree (hs : w.Shaped) (h : KeepsTree w w') : w'.Shaped where
  child_master x y hy := by
    rw [h.masterOf]
    exact hs.child_master x y (h.childrenOf x y hy)
  node_master n s p hn := by
    rw [h.masterOf]
    exact hs.node_master n s p (by rwa [h.nodeOf?] at hn)
  server_listens n s p hn := by
    rw [h.listens]
    exact hs.server_listens n s p (by rwa [h.nodeOf?] at hn)
  listener_root s hl := by
    rw [h.masterOf]
    exact hs.listener_root s (by rwa [h.listens] at hl)

theorem Tracks.of_views (ht : w.Tracks) (hr : ∀ x, w'.routesOf x = w.routesOf x)
    (hn : ∀ x, w'.nodeOf? x = w.nodeOf? x)
    (hs : ∀ n sp, w.nodeOf? n = some sp →
      (w'.stateOf n = .active ↔ w.stateOf n = .active) ∧
        (w'.stateOf n = .closing ↔ w.stateOf n = .closing)) :
    w'.Tracks where
  sound s t h := ht.sound s t (by rwa [hr] at h)
  bound s p n h := by
    obtain ⟨hn', hl⟩ := ht.bound s p n (by simpa only [Binds, hr] using h)
    have e := hs n _ hn'
    exact ⟨(hn n).trans hn', by rwa [e.1, e.2]⟩
  active s p n h ha := by
    have hn' : w.nodeOf? n = some (s, p) := (hn n).symm.trans h
    simpa only [Binds, hr] using ht.active s p n hn' ((hs n _ hn').1.1 ha)

theorem Coherent.of_aside (hi : w.Coherent) (h : Aside x w w')
    (hx : (w.nodeOf? x).isSome →
      (w'.stateOf x = .active ↔ w.stateOf x = .active) ∧
        (w'.stateOf x = .closing ↔ w.stateOf x = .closing))
    (hc : w'.stateOf x ≠ .closing) : w'.Coherent where
  tracks := hi.tracks.of_views h.routesOf h.nodeOf? fun n sp hn => by
    by_cases hnx : n = x
    · subst hnx
      exact hx (by simp [hn])
    · rw [h.state n hnx]
      exact ⟨Iff.rfl, Iff.rfl⟩
  shaped := hi.shaped.of_keepsTree (.of_aside h)
  settled y := by
    by_cases hy : y = x
    · exact hy ▸ hc
    · rw [h.state y hy]
      exact hi.settled y

theorem Coherent.of_aside_all (hi : w.Coherent) (h : ∀ x, Aside x w w') : w'.Coherent :=
  hi.of_aside (h 0) (fun _ => by rw [stateOf_of_aside h]; exact ⟨Iff.rfl, Iff.rfl⟩)
    (by rw [stateOf_of_aside h]; exact hi.settled 0)

/-! ### Creating -/

theorem coherent_empty : ({} : World).Coherent := by
  have hg : ∀ x, ({} : World).get? x = none := fun x => by simp [get?]
  refine ⟨⟨?_, ?_, ?_⟩, ⟨?_, ?_, ?_, ?_⟩, ?_⟩ <;>
    simp [Binds, routesOf, nodeOf?, childrenOf, masterOf, stateOf, hg]

section Created

variable {h : Holding} {mm : Option ChannelId}

theorem Tracks.of_created (ht : w.Tracks) (hf : HoldingFits w mm h) (hc : Created n h mm w w') :
    w'.Tracks := by
  refine ⟨fun s t hst => ?_, fun s p m hb => ?_, fun s p m hm ha => ?_⟩
  · rw [hc.routesOf] at hst
    split at hst
    · rw [(hf.1 t hst).1]
      exact RouteTable.sound_empty
    · exact ht.sound s t hst
  · obtain ⟨r, hr, hfind⟩ := hb
    rw [hc.routesOf] at hr
    split at hr
    · rw [(hf.1 r hr).1, RouteTable.find?_empty] at hfind
      cases hfind
    · obtain ⟨hm, hl⟩ := ht.bound s p m ⟨r, hr, hfind⟩
      rw [hc.nodeOf?, if_neg (hc.ne (get?_isSome_of_nodeOf? hm)), hc.stateOf]
      exact ⟨hm, hl⟩
  · rw [hc.stateOf] at ha
    rw [hc.nodeOf?] at hm
    split at hm
    · rename_i hmn
      subst hmn
      rw [stateOf_of_get?_none hc.fresh] at ha
      cases ha
    · obtain ⟨r, hr, hfind⟩ := ht.active s p m hm ha
      exact ⟨r, by rw [hc.routesOf_of_isSome (by simp [hr])]; exact hr, hfind⟩

theorem Shaped.of_created (hs : w.Shaped) (hf : HoldingFits w mm h) (hc : Created n h mm w w') :
    w'.Shaped := by
  refine ⟨fun x y hy => ?_, fun m s p hm => ?_, fun m s p hm => ?_, fun s hl => ?_⟩
  · rcases hc.childrenOf x y hy with hy | ⟨rfl, hm⟩
    · have hyx := hs.child_master x y hy
      rw [hc.masterOf, if_neg (hc.ne (get?_isSome_of_masterOf hyx))]
      exact hyx
    · rw [hc.masterOf, if_pos rfl]
      exact hm
  · rw [hc.nodeOf?] at hm
    rw [hc.masterOf]
    split at hm
    · rw [if_pos ‹_›]
      exact (hf.2 s p hm).1
    · rw [if_neg ‹_›]
      exact hs.node_master m s p hm
  · rw [hc.nodeOf?] at hm
    -- the listening channel existed before, new node or not
    have hl : (w.routesOf s).isSome := by
      split at hm
      · exact (hf.2 s p hm).2
      · exact hs.server_listens m s p hm
    rw [hc.routesOf_of_isSome hl]
    exact hl
  · rw [hc.routesOf] at hl
    rw [hc.masterOf]
    split at hl
    · rw [if_pos ‹_›]
      obtain ⟨t, ht⟩ := Option.isSome_iff_exists.1 hl
      exact (hf.1 t ht).2
    · rw [if_neg ‹_›]
      exact hs.listener_root s hl

theorem Coherent.of_created (hi : w.Coherent) (hf : HoldingFits w mm h) (hc : Created n h mm w w') :
    w'.Coherent :=
  ⟨hi.tracks.of_created hf hc, hi.shaped.of_created hf hc, fun x => by
    rw [hc.stateOf]
    exact hi.settled x⟩

end Created

theorem Coherent.createFrom (hi : w.Coherent) (text : String) (extra : Options)
    (master : Option ChannelId) : (perform w (Act.createFrom text extra master)).2.Coherent := by
  rcases createFrom_cases text extra master w with ha | ⟨n, h, mm, hf, hc⟩
  · exact hi.of_aside_all ha
  · exact hi.of_created hf hc

/-! ### Opening -/

theorem Tracks.register (ht : w.Tracks) (hn : w.nodeOf? n = some (s, p))
    (hact : w'.stateOf n = .active) (hstate : ∀ x, x ≠ n → w'.stateOf x = w.stateOf x)
    (hnode : ∀ x, w'.nodeOf? x = w.nodeOf? x) (hne : ∀ x, x ≠ s → w'.routesOf x = w.routesOf x)
    (hreg : ∃ t t' l, w.routesOf s = some t ∧ t.register l p n = .ok t' ∧ w'.routesOf s = some t') :
    w'.Tracks := by
  obtain ⟨t, t', l, ht₀, hreg, ht'⟩ := hreg
  have hfree : t.find? p = none := (RouteTable.register_eq_ok_iff.1 hreg).2.1
  -- a binding afterwards is the new one or one from before
  have hbinds : ∀ s' p' m, w'.Binds s' p' m ↔ (s' = s ∧ p' = p ∧ m = n) ∨ w.Binds s' p' m := by
    intro s' p' m
    by_cases hs : s' = s
    · subst hs
      simp only [Binds, ht', ht₀, Option.some.injEq, exists_eq_left', RouteTable.find?_register hreg]
      by_cases hp : p' = p
      · subst hp
        simp [hfree, eq_comm]
      · simp [hp]
    · simp only [Binds, hne s' hs, hs, false_and, false_or]
  refine ⟨fun x u hx => ?_, fun s' p' m hb => ?_, fun s' p' m hm ha => ?_⟩
  · by_cases hxs : x = s
    · subst hxs
      rw [ht'] at hx
      cases hx
      exact RouteTable.sound_register (ht.sound x t ht₀) hreg
    · exact ht.sound x u (by rwa [hne x hxs] at hx)
  · rcases (hbinds s' p' m).1 hb with ⟨rfl, rfl, rfl⟩ | hb
    · exact ⟨(hnode m).trans hn, .inl hact⟩
    · obtain ⟨hm, hl⟩ := ht.bound s' p' m hb
      refine ⟨(hnode m).trans hm, ?_⟩
      by_cases hmn : m = n
      · exact .inl (hmn ▸ hact)
      · rwa [hstate m hmn]
  · rw [hnode] at hm
    by_cases hmn : m = n
    · subst hmn
      rw [hn, Option.some.injEq, Prod.mk.injEq] at hm
      obtain ⟨rfl, rfl⟩ := hm
      exact (hbinds s p m).2 (.inl ⟨rfl, rfl, rfl⟩)
    · rw [hstate m hmn] at ha
      exact (hbinds s' p' m).2 (.inr (ht.active s' p' m hm ha))

theorem Coherent.of_registered {w₁ w₂ : World} {id : ChannelId} (hi : w.Coherent)
    (hn : w.nodeOf? id = some (s, p)) (h₁ : Aside id w w₁) (hb : Registered id s p w₁ w₂)
    (h₃ : Aside id w₂ w') (hact : w'.stateOf id = .active) : w'.Coherent := by
  have hstate : ∀ x, x ≠ id → w'.stateOf x = w.stateOf x := fun x hx => by
    rw [h₃.state x hx, hb.stateOf x, h₁.state x hx]
  have hnode : ∀ x, w'.nodeOf? x = w.nodeOf? x := fun x => by
    rw [h₃.nodeOf? x, hb.nodeOf? x, h₁.nodeOf? x]
  have hne : ∀ x, x ≠ s → w'.routesOf x = w.routesOf x := fun x hx => by
    rw [h₃.routesOf x, hb.routesOf_ne x hx, h₁.routesOf x]
  obtain ⟨t, t', l, ht₀, hreg, ht'⟩ := hb.routesOf
  have hreg' : ∃ t t' l, w.routesOf s = some t ∧ t.register l p id = .ok t' ∧
      w'.routesOf s = some t' :=
    ⟨t, t', l, (h₁.routesOf s).symm.trans ht₀, hreg, (h₃.routesOf s).trans ht'⟩
  -- the listening channel keeps listening, with one binding more
  have hlisten : ∀ x, (w'.routesOf x).isSome = (w.routesOf x).isSome := fun x => by
    by_cases hx : x = s
    · subst hx
      obtain ⟨t, t', l, ht₀, -, ht'⟩ := hreg'
      rw [ht', ht₀]
      rfl
    · rw [hne x hx]
  refine ⟨hi.tracks.register hn hact hstate hnode hne hreg',
    hi.shaped.of_keepsTree ⟨hnode, fun x => ?_, hlisten, fun x y hy => ?_⟩, fun x => ?_⟩
  · rw [h₃.masterOf x, hb.masterOf x, h₁.masterOf x]
  · rwa [h₃.childrenOf x, hb.childrenOf x, h₁.childrenOf x] at hy
  · by_cases hx : x = id
    · rw [hx, hact]
      decide
    · rw [hstate x hx]
      exact hi.settled x

theorem Coherent.openWith (hi : w.Coherent) (id : ChannelId) (extra : Options) :
    (perform w (Act.openWith id extra)).2.Coherent := by
  rcases openWith_cases id extra w with h | ⟨c, d, hc, hcl, h⟩
  · rw [h]
    exact hi
  rw [h]
  -- the cycle starts from a world that agrees with `w` on all the routing reads
  generalize hw₀ : w.modify id (fun c => { c with config := d, info := Options.empty }) = w₀
  have h₀ : Aside id w w₀ := hw₀ ▸ aside_modify_of_state (by intro; rfl) (by intro; rfl) id
  have hcy₀ : w₀.cycleOf id = some c.cycle := by
    rw [← hw₀, cycleOf_modify (by intro; rfl)]
    simp [cycleOf, hc]
  have h₁ : Aside id w (w₀.move id Cycle.beginOpen) := h₀.trans (aside_move _)
  have hcy₁ : (w₀.move id Cycle.beginOpen).cycleOf id = some c.cycle.beginOpen.1 := by
    rw [cycleOf_move, if_pos rfl, hcy₀]
    rfl
  have hs₁ : (w₀.move id Cycle.beginOpen).stateOf id = .opening := by
    rw [stateOf_eq_cycleOf, hcy₁]
    simp
  have hst : w.stateOf id = .closed := by simp [stateOf, hc, hcl]
  generalize w₀.move id Cycle.beginOpen = w₁ at h₁ hcy₁ hs₁ ⊢
  cases hn : w.nodeOf? id with
  | none =>
    -- anything but a node comes up aside from the routing and never starts closing
    obtain ⟨h₂, hcl₂⟩ := aside_bringUp d ((h₁.nodeOf? id).trans hn)
    have hne : (perform w₁ (Act.bringUp id d)).2.stateOf id ≠ .closing := fun e => by
      rw [hcl₂ e] at hs₁
      cases hs₁
    rcases hp : perform w₁ (Act.bringUp id d) with ⟨_ | _, w₂⟩ <;> rw [hp] at h₂ hne <;> dsimp only
    · exact hi.of_aside ((h₁.trans h₂).trans (aside_move _)) (by simp [hn])
        (fun e => hne (stateOf_move_closing (fun _ => Cycle.fail_closing) e))
    · exact hi.of_aside ((h₁.trans h₂).trans (aside_move _)) (by simp [hn])
        (fun e => hne (stateOf_move_closing (fun _ => Cycle.finishOpen_closing) e))
  | some sp =>
    obtain ⟨s, p⟩ := sp
    have hb := bringUp_of_node d ((h₁.nodeOf? id).trans hn)
    rcases hp : perform w₁ (Act.bringUp id d) with ⟨_ | _, w₂⟩ <;> rw [hp] at hb <;> dsimp only at hb ⊢
    · -- a node that does not come up ends its cycle in `error`
      have hs₂ : w₂.stateOf id = .opening := (stateOf_of_aside hb id).trans hs₁
      obtain ⟨c₂, hc₂, hst₂⟩ :=
        exists_get?_of_stateOf (show w₂.stateOf id ≠ .closed by rw [hs₂]; decide)
      have hs₃ : (w₂.move id Cycle.fail).stateOf id = .error := by
        rw [stateOf_move_self hc₂, Cycle.fail_state, hst₂, hs₂]
        rfl
      refine hi.of_aside ((h₁.trans (hb id)).trans (aside_move _)) (fun _ => ?_) (by rw [hs₃]; decide)
      rw [hs₃, hst]
      decide
    · -- a node that comes up is registered, and its cycle, which nothing deferred, ends active
      have hs₃ : (w₂.move id Cycle.finishOpen).stateOf id = .active := by
        rw [stateOf_eq_cycleOf, cycleOf_move, if_pos rfl, hb.cycleOf, hcy₁]
        simp [Cycle.beginOpen_deferActive]
      exact hi.of_registered hn h₁ hb (aside_move _) hs₃

/-! ### Closing and releasing -/

theorem Tracks.binds_takeDown (ht : w.Tracks) :
    (w.takeDown y).Binds s p n ↔ w.Binds s p n ∧ n ≠ y := by
  -- a binding of `y` is one of its own pattern under its own listening channel
  have hown : ∀ s' p', w.Binds s' p' y → w.nodeOf? y = some (s', p') :=
    fun s' p' hb => (ht.bound s' p' y hb).1
  cases hny : w.nodeOf? y with
  | none =>
    rw [(aside_takeDown hny y).binds_iff]
    refine ⟨fun hb => ⟨hb, ?_⟩, And.left⟩
    rintro rfl
    rw [hown s p hb] at hny
    cases hny
  | some sp =>
    obtain ⟨s₀, p₀⟩ := sp
    by_cases hs : s₀ = s
    · subst hs
      cases hr : w.routesOf s₀ with
      | none => simp [Binds, routesOf_takeDown_of_node hny, hr]
      | some t =>
        simp only [Binds, routesOf_takeDown_of_node hny, if_true, hr, Option.map_some,
          Option.some.injEq, exists_eq_left', RouteTable.find?_unregister (ht.sound s₀ t hr),
          RouteTable.unregister_removed_iff]
        split
        · -- the node's own pattern, bound to it, is gone
          rename_i hrm
          obtain ⟨hfy, rfl⟩ := hrm
          rw [hfy]
          simp only [reduceCtorEq, false_iff, not_and, Option.some.injEq, not_not]
          exact fun e => e.symm
        · rename_i hrm
          refine ⟨fun h => ⟨h, ?_⟩, And.left⟩
          rintro rfl
          have hp := hown s₀ p ⟨t, hr, h⟩
          rw [hny, Option.some.injEq, Prod.mk.injEq] at hp
          exact hrm ⟨hp.2 ▸ h, hp.2.symm⟩
    · simp only [Binds, routesOf_takeDown_of_node hny, if_neg hs]
      refine ⟨fun hb => ⟨hb, ?_⟩, And.left⟩
      rintro rfl
      rw [hown s p hb, Option.some.injEq, Prod.mk.injEq] at hny
      exact hs hny.1.symm

theorem Tracks.beginClose (ht : w.Tracks) (y : ChannelId) : (w.move y Cycle.beginClose).Tracks := by
  have h : Aside y w (w.move y Cycle.beginClose) := aside_move _
  -- the channel that starts closing is closing afterwards, if it exists, and active in no case
  have hy : (w.move y Cycle.beginClose).stateOf y ≠ .active := by
    rw [stateOf_move, if_pos rfl]
    cases w.get? y <;> simp
  refine ⟨fun s t hs => ht.sound s t (by rwa [h.routesOf] at hs), fun s p n hb => ?_,
    fun s p n hn ha => ?_⟩
  · obtain ⟨hn, hl⟩ := ht.bound s p n (h.binds_iff.1 hb)
    refine ⟨by rw [h.nodeOf?]; exact hn, ?_⟩
    by_cases hny : n = y
    · subst hny
      obtain ⟨c, hc⟩ := Option.isSome_iff_exists.1 (get?_isSome_of_nodeOf? hn)
      right
      rw [stateOf_move_self hc]
      simp
    · rwa [stateOf_move_of_ne _ hny]
  · have hny : n ≠ y := by
      rintro rfl
      exact hy ha
    rw [stateOf_move_of_ne _ hny] at ha
    exact h.binds_iff.2 (ht.active s p n (by rwa [h.nodeOf?] at hn) ha)

theorem Tracks.finishClose (ht : w.Tracks) (y : ChannelId) :
    ((w.takeDown y).move y Cycle.finishClose).Tracks := by
  have h : Aside y (w.takeDown y) ((w.takeDown y).move y Cycle.finishClose) := aside_move _
  have hbinds : ∀ s p n, ((w.takeDown y).move y Cycle.finishClose).Binds s p n ↔
      w.Binds s p n ∧ n ≠ y := fun s p n => h.binds_iff.trans ht.binds_takeDown
  have hnode : ∀ x, ((w.takeDown y).move y Cycle.finishClose).nodeOf? x = w.nodeOf? x :=
    fun x => (h.nodeOf? x).trans (views_takeDown x).1
  have hstate : ∀ x, x ≠ y → ((w.takeDown y).move y Cycle.finishClose).stateOf x = w.stateOf x :=
    fun x hx => by rw [stateOf_move_of_ne _ hx, stateOf_takeDown]
  refine ⟨fun s t hs => ?_, fun s p n hb => ?_, fun s p n hn ha => ?_⟩
  · rw [h.routesOf] at hs
    cases hny : w.nodeOf? y with
    | none => exact ht.sound s t (by rwa [(aside_takeDown hny s).routesOf] at hs)
    | some sp =>
      obtain ⟨s₀, p₀⟩ := sp
      rw [routesOf_takeDown_of_node hny] at hs
      split at hs
      · obtain ⟨t₀, ht₀, rfl⟩ := Option.map_eq_some_iff.1 hs
        exact RouteTable.sound_unregister (ht.sound s t₀ ht₀)
      · exact ht.sound s t hs
  · obtain ⟨hb, hny⟩ := (hbinds s p n).1 hb
    obtain ⟨hn, hl⟩ := ht.bound s p n hb
    exact ⟨(hnode n).trans hn, by rwa [hstate n hny]⟩
  · have hny : n ≠ y := by
      rintro rfl
      rw [stateOf_finishClose] at ha
      cases ha
    rw [hstate n hny] at ha
    exact (hbinds s p n).2 ⟨ht.active s p n ((hnode n).symm.trans hn) ha, hny⟩

theorem keepsTree_takeDown (w : World) (y : ChannelId) : KeepsTree w (w.takeDown y) :=
  ⟨fun x => (views_takeDown x).1, fun x => (views_takeDown x).2.2, isSome_routesOf_takeDown,
    fun x _ hz => (views_takeDown x).2.1 ▸ hz⟩

theorem keepsTree_close (w : World) (id : ChannelId) : KeepsTree w (w.close id) :=
  closeEach_preserves (Q := KeepsTree w) (P := fun _ => True)
    (fun _ _ h _ _ => h.trans (.of_aside (aside_move _)))
    (fun w' y h _ => (h.trans (keepsTree_takeDown w' y)).trans (.of_aside (aside_move _)))
    (fun _ _ _ _ _ _ => trivial) _ _ w (.refl w) (fun _ _ => trivial)

theorem Coherent.close (hi : w.Coherent) (id : ChannelId) : (w.close id).Coherent where
  tracks := closeEach_preserves (Q := Tracks) (P := fun _ => True)
    (fun _ y ht _ _ => ht.beginClose y) (fun _ y ht _ => ht.finishClose y)
    (fun _ _ _ _ _ _ => trivial) _ _ w hi.tracks (fun _ _ => trivial)
  shaped := hi.shaped.of_keepsTree (keepsTree_close w id)
  settled x h := hi.settled x (stateOf_closeEach_closing _ _ w h)

/-- `w'` is `w` with children dropped and nothing else the routing reads changed. -/
structure Trims (w w' : World) : Prop where
  tree : KeepsTree w w'
  stateOf : ∀ x, w'.stateOf x = w.stateOf x
  routesOf : ∀ x, w'.routesOf x = w.routesOf x

namespace Trims

theorem refl (w : World) : Trims w w := ⟨.refl w, fun _ => rfl, fun _ => rfl⟩

theorem trans {w'' : World} (h₁ : Trims w w') (h₂ : Trims w' w'') : Trims w w'' :=
  ⟨h₁.tree.trans h₂.tree, fun x => (h₂.stateOf x).trans (h₁.stateOf x),
    fun x => (h₂.routesOf x).trans (h₁.routesOf x)⟩

theorem of_aside (h : ∀ x, Aside x w w') : Trims w w' :=
  ⟨.of_aside (h 0), stateOf_of_aside h, (h 0).routesOf⟩

end Trims

theorem trims_dropChild (w : World) (mm id : ChannelId) :
    Trims w (w.modify mm fun mc => { mc with children := mc.children.filter (· != id) }) := by
  refine ⟨⟨nodeOf?_modify (by intro; rfl), masterOf_modify (by intro; rfl),
    fun x => by rw [routesOf_modify (by intro; rfl)], fun x y hy => ?_⟩,
    stateOf_modify (by intro; rfl), routesOf_modify (by intro; rfl)⟩
  rw [childrenOf_modify] at hy
  split at hy
  · rename_i hx
    subst hx
    cases hc : w.get? mm with
    | none => simp [hc] at hy
    | some c =>
      simp only [hc, Option.map_some, Option.getD_some, List.mem_filter] at hy
      simp [childrenOf, hc, hy.1]
  · exact hy

theorem trims_detach (w : World) (id : ChannelId) : Trims w (w.detach id) := by
  unfold detach
  cases hc : w.get? id with
  | none => exact .refl w
  | some c =>
    dsimp -zeta only
    extract_lets w₁ w₂
    have h₁ : Trims w w₁ := by
      simp only [w₁]
      split
      · exact trims_dropChild w _ id
      · exact .refl w
    have h₂ : Trims w₁ w₂ := by
      simp only [w₂]
      split
      · exact .of_aside fun x => aside_of_channels rfl
      · exact .refl w₁
    refine (h₁.trans h₂).trans ?_
    -- the second end of a direct pair gives up its place as its first end's peer
    split
    · split
      · split
        · rename_i pc hpc
          split
          · rename_i pe hpe
            split
            · exact .of_aside fun x => aside_setHolding fun c' hc' => by
                rw [hpc] at hc'
                cases hc'
                simp [hpe, Holding.routes?, Holding.node?]
            · exact .refl w₂
          · exact .refl w₂
        · exact .refl w₂
      · exact .refl w₂
    · exact .refl w₂

theorem Coherent.release (hi : w.Coherent) (id : ChannelId) : (w.release id).Coherent := by
  have hc := hi.close id
  have h : Trims (w.close id) (w.release id) := trims_detach (w.close id) id
  refine ⟨hc.tracks.of_views h.routesOf h.tree.nodeOf? fun n _ _ => ?_,
    hc.shaped.of_keepsTree h.tree, fun x => ?_⟩
  · rw [h.stateOf]
    exact ⟨Iff.rfl, Iff.rfl⟩
  · rw [h.stateOf]
    exact hc.settled x

theorem Reachable.coherent (h : w.Reachable) : w.Coherent := by
  induction h with
  | empty => exact coherent_empty
  | create text extra master _ ih => exact ih.createFrom text extra master
  | openWith id extra _ ih => exact ih.openWith id extra
  | close id _ ih => exact ih.close id
  | release id _ ih => exact ih.release id

/-! ### What the routes bind -/

theorem Coherent.binds_iff_active (hi : w.Coherent) :
    w.Binds s p n ↔ w.nodeOf? n = some (s, p) ∧ w.stateOf n = .active := by
  constructor
  · intro hb
    obtain ⟨hn, hl⟩ := hi.tracks.bound s p n hb
    exact ⟨hn, hl.resolve_right (hi.settled n)⟩
  · rintro ⟨hn, ha⟩
    exact hi.tracks.active s p n hn ha

theorem Shaped.plain_of_child (hs : w.Shaped) (hx : w.routesOf x = none) (hy : y ∈ w.childrenOf x) :
    w.Plain y := by
  have hm := hs.child_master x y hy
  refine ⟨?_, ?_⟩
  · -- a listening channel has no master
    cases hr : w.routesOf y with
    | none => rfl
    | some t =>
      rw [hs.listener_root y (by simp [hr])] at hm
      cases hm
  · -- a node's master listens
    cases hn : w.nodeOf? y with
    | none => rfl
    | some sp =>
      have hl := hs.server_listens y sp.1 sp.2 hn
      rw [hs.node_master y sp.1 sp.2 hn, Option.some.injEq] at hm
      rw [hm, hx] at hl
      cases hl

theorem Shaped.stateOf_close (hs : w.Shaped) (hn : w.routesOf n = none) (hmn : m ≠ n)
    (hmp : ¬ w.Plain m) : (w.close n).stateOf m = w.stateOf m := by
  refine stateOf_closeEach_of_not (P := fun y => y = n ∨ w.Plain y) (fun x hx y hy => ?_) _ _
    (by simp) (by rintro (h | h); exacts [hmn h, hmp h])
  refine .inr (hs.plain_of_child ?_ hy)
  rcases hx with rfl | hx
  exacts [hn, hx.1]

theorem Coherent.close_binds_iff (hi : w.Coherent) (hn : w.routesOf n = none) :
    (w.close n).Binds s p m ↔ w.Binds s p m ∧ m ≠ n := by
  rw [(hi.close n).binds_iff_active, hi.binds_iff_active, (keepsTree_close w n).nodeOf? m]
  by_cases hmn : m = n
  · subst hmn
    simp [stateOf_close_self]
  · -- another node keeps its state
    have hstate : w.nodeOf? m = some (s, p) → (w.close n).stateOf m = w.stateOf m := fun hm =>
      hi.shaped.stateOf_close hn hmn fun h => by simp [h.2] at hm
    constructor
    · rintro ⟨hm, ha⟩
      exact ⟨⟨hm, hstate hm ▸ ha⟩, hmn⟩
    · rintro ⟨⟨hm, ha⟩, -⟩
      exact ⟨hm, (hstate hm).trans ha⟩

theorem binds_release : (w.release n).Binds s p m ↔ (w.close n).Binds s p m := by
  unfold Binds release
  rw [(trims_detach (w.close n) n).routesOf s]

theorem Coherent.close_unbinds_children (hi : w.Coherent) (hs : w.stateOf s ≠ .closed)
    (hb : (w.close s).Binds s p n) : n ∉ w.childrenOf s := by
  intro hn
  have ha := ((hi.close s).binds_iff_active.1 hb).2
  rw [stateOf_close_child hs hn] at ha
  cases ha

/-- Over every reachable world, a listening channel's routes bind each pattern exactly to the active
node serving it. -/
theorem routes_bind_active_nodes (hw : w.Reachable) :
    (∀ s p n, w.Binds s p n ↔ w.nodeOf? n = some (s, p) ∧ w.stateOf n = .active) ∧
    (∀ n, w.routesOf n = none → ∀ s p m,
      ((w.close n).Binds s p m ↔ w.Binds s p m ∧ m ≠ n) ∧
        ((w.release n).Binds s p m ↔ w.Binds s p m ∧ m ≠ n)) ∧
    (∀ s, w.stateOf s ≠ .closed → ∀ p n, (w.close s).Binds s p n → n ∉ w.childrenOf s) := by
  have hi := hw.coherent
  refine ⟨fun s p n => hi.binds_iff_active, fun n hn s p m => ?_,
    fun s hs p n hb => hi.close_unbinds_children hs hb⟩
  have hclose : (w.close n).Binds s p m ↔ w.Binds s p m ∧ m ≠ n := hi.close_binds_iff hn
  exact ⟨hclose, binds_release.trans hclose⟩

/-- A listening channel opened, and a node under it opened: the node's pattern is bound to it. -/
theorem routes_bind_active_nodes_opened_node :
    let w := (perform (perform (perform (perform {}
      (Act.createFrom "ws://127.0.0.1:0;mode=server;name=srv" .empty none)).2
      (Act.openWith 0 .empty)).2 (Act.createFrom "ws+http:///x;name=n" .empty (some 0))).2
      (Act.openWith 1 .empty)).2
    w.Reachable ∧ w.Binds 0 "/x" 1 := by
  intro w
  have hw : w.Reachable := .openWith 1 _ (.create _ _ _ (.openWith 0 _ (.create _ _ _ .empty)))
  exact ⟨hw, ((routes_bind_active_nodes hw).1 0 "/x" 1).2 ⟨by decide +kernel, by decide +kernel⟩⟩

/-- Closing an open listening channel can leave its routes bound: a node created under it, released
and opened again is no child of it any more, so the close does not reach it. -/
theorem server_close_keeps_released_node_bound :
    ¬ ∀ w : World, w.Reachable → ∀ s t, w.stateOf s ≠ .closed →
      (w.close s).routesOf s = some t → t.patterns = [] := by
  intro unbinds
  obtain ⟨w₁, hw₁⟩ : ∃ w₁ : World, w₁ = (perform (perform (perform {}
      (Act.createFrom "ws://127.0.0.1:0;mode=server;name=srv" .empty none)).2
      (Act.openWith 0 .empty)).2 (Act.createFrom "ws+http:///x;name=n" .empty (some 0))).2 :=
    ⟨_, rfl⟩
  have hr₁ : w₁.Reachable := hw₁ ▸ .create _ _ _ (.openWith 0 _ (.create _ _ _ .empty))
  -- the node is closed when it is released, so releasing it only detaches it
  have hrel : w₁.release 1 = w₁.detach 1 := by
    rw [release, close_of_closed (by rw [hw₁]; decide +kernel)]
  obtain ⟨w₂, hw₂⟩ : ∃ w₂ : World, w₂ = (perform (w₁.detach 1) (Act.openWith 1 .empty)).2 :=
    ⟨_, rfl⟩
  have hr₂ : w₂.Reachable := by
    rw [hw₂, ← hrel]
    exact .openWith 1 _ (.release 1 hr₁)
  -- the listening channel is active and has no child left, so its close only takes it down
  have hopen : w₂.stateOf 0 ≠ .closed := by
    rw [hw₂, hw₁]
    decide +kernel
  have hchildren : w₂.childrenOf 0 = [] := by
    rw [hw₂, hw₁]
    decide +kernel
  have hclose : w₂.close 0 = ((w₂.move 0 Cycle.beginClose).takeDown 0).move 0 Cycle.finishClose := by
    rw [close_of_not_closed hopen, hchildren, closeEach_nil]
  have hroutes : ((w₂.close 0).routesOf 0).map RouteTable.patterns = some ["/x"] := by
    rw [hclose, hw₂, hw₁]
    decide +kernel
  cases ht : (w₂.close 0).routesOf 0 with
  | none =>
    rw [ht] at hroutes
    cases hroutes
  | some t =>
    rw [ht, Option.map_some, unbinds w₂ hr₂ 0 t hopen ht] at hroutes
    cases hroutes

end World

end ChannelMux
