import ChannelMux.World.Life

/-! What the routing of a world is made of, and which world operations can change it. -/

namespace ChannelMux

namespace Holding

/-- The routes a listening channel keeps. -/
def routes? : Holding → Option (RouteTable ChannelId)
  | .listener routes _ => some routes
  | _ => none

/-- The listening channel and the pattern a node serves. -/
def node? : Holding → Option (ChannelId × String)
  | .node _ server pattern _ => some (server, pattern)
  | _ => none

@[simp] theorem routes?_listener (r : RouteTable ChannelId) (b : Option Socket.Bound) :
    (Holding.listener r b).routes? = some r := rfl

@[simp] theorem node?_node (k : Socket.NodeKind) (s : ChannelId) (p : String)
    (st : Socket.NodeSettings) : (Holding.node k s p st).node? = some (s, p) := rfl

end Holding

/-- What the routing invariants read of a channel besides its state. -/
def Channel.shape (c : Channel) :
    Option (RouteTable ChannelId) × Option (ChannelId × String) × List ChannelId × Option ChannelId :=
  (c.holding.routes?, c.holding.node?, c.children, c.master)

namespace World

variable {w w' w'' : World} {id x y : ChannelId}

/-! ### Views -/

/-- The routes of a listening channel. -/
def routesOf (w : World) (s : ChannelId) : Option (RouteTable ChannelId) :=
  (w.get? s).bind (·.holding.routes?)

/-- The listening channel and pattern of a node. -/
def nodeOf? (w : World) (n : ChannelId) : Option (ChannelId × String) :=
  (w.get? n).bind (·.holding.node?)

/-- The children of a channel, none for a channel that does not exist. -/
def childrenOf (w : World) (x : ChannelId) : List ChannelId := ((w.get? x).map (·.children)).getD []

/-- The master of a channel. -/
def masterOf (w : World) (x : ChannelId) : Option ChannelId := (w.get? x).bind (·.master)

/-- A listening channel binds a pattern to a node. -/
def Binds (w : World) (s : ChannelId) (p : String) (n : ChannelId) : Prop :=
  ∃ r, w.routesOf s = some r ∧ r.find? p = some n

/-- A channel that is neither a listening channel nor a node. -/
def Plain (w : World) (id : ChannelId) : Prop := w.routesOf id = none ∧ w.nodeOf? id = none

theorem routesOf_of_shape (h : (w'.get? x).map Channel.shape = (w.get? x).map Channel.shape) :
    w'.routesOf x = w.routesOf x := by
  have := congrArg (Option.map (·.1)) h
  cases hx : w.get? x <;> cases hx' : w'.get? x <;> simp_all [routesOf, Channel.shape]

theorem nodeOf?_of_shape (h : (w'.get? x).map Channel.shape = (w.get? x).map Channel.shape) :
    w'.nodeOf? x = w.nodeOf? x := by
  have := congrArg (Option.map (·.2.1)) h
  cases hx : w.get? x <;> cases hx' : w'.get? x <;> simp_all [nodeOf?, Channel.shape]

theorem childrenOf_of_shape (h : (w'.get? x).map Channel.shape = (w.get? x).map Channel.shape) :
    w'.childrenOf x = w.childrenOf x := by
  have := congrArg (Option.map (·.2.2.1)) h
  cases hx : w.get? x <;> cases hx' : w'.get? x <;> simp_all [childrenOf, Channel.shape]

theorem masterOf_of_shape (h : (w'.get? x).map Channel.shape = (w.get? x).map Channel.shape) :
    w'.masterOf x = w.masterOf x := by
  have := congrArg (Option.map (·.2.2.2)) h
  cases hx : w.get? x <;> cases hx' : w'.get? x <;> simp_all [masterOf, Channel.shape]

theorem get?_isSome_of_nodeOf? {sp : ChannelId × String} (h : w.nodeOf? x = some sp) :
    (w.get? x).isSome := by
  cases hx : w.get? x <;> simp_all [nodeOf?]

theorem get?_isSome_of_routesOf {t : RouteTable ChannelId} (h : w.routesOf x = some t) :
    (w.get? x).isSome := by
  cases hx : w.get? x <;> simp_all [routesOf]

theorem get?_isSome_of_masterOf {m : ChannelId} (h : w.masterOf x = some m) : (w.get? x).isSome := by
  cases hx : w.get? x <;> simp_all [masterOf]

theorem stateOf_of_get?_none (h : w.get? x = none) : w.stateOf x = .closed := by
  simp [stateOf, h]

theorem exists_get?_of_stateOf (h : w.stateOf x ≠ .closed) :
    ∃ c, w.get? x = some c ∧ c.cycle.state = w.stateOf x := by
  cases hx : w.get? x with
  | none => exact absurd (stateOf_of_get?_none hx) h
  | some c => exact ⟨c, rfl, by simp [stateOf, hx]⟩

/-! ### One channel changed -/

theorem get?_modify (w : World) (id : ChannelId) (f : Channel → Channel) (x : ChannelId) :
    (w.modify id f).get? x = if id = x then (w.get? x).map f else w.get? x := by
  simp [modify, get?, Array.getElem?_modify]

theorem shape_modify {f : Channel → Channel} (hf : ∀ c, (f c).shape = c.shape) (x : ChannelId) :
    ((w.modify id f).get? x).map Channel.shape = (w.get? x).map Channel.shape := by
  rw [get?_modify]
  split
  · cases w.get? x <;> simp [hf]
  · rfl

theorem stateOf_modify {f : Channel → Channel} (hf : ∀ c, (f c).cycle.state = c.cycle.state)
    (x : ChannelId) : (w.modify id f).stateOf x = w.stateOf x := by
  simp only [stateOf, get?_modify]
  split
  · cases w.get? x <;> simp [hf]
  · rfl

theorem stateOf_modify_of_ne (f : Channel → Channel) (h : x ≠ id) :
    (w.modify id f).stateOf x = w.stateOf x := by
  simp [stateOf, get?_modify, Ne.symm h]

theorem routesOf_modify {f : Channel → Channel} (hf : ∀ c, (f c).holding = c.holding) (x : ChannelId) :
    (w.modify id f).routesOf x = w.routesOf x := by
  simp only [routesOf, get?_modify]
  split <;> simp only [Option.bind_map, Function.comp_def, hf]

theorem nodeOf?_modify {f : Channel → Channel} (hf : ∀ c, (f c).holding = c.holding) (x : ChannelId) :
    (w.modify id f).nodeOf? x = w.nodeOf? x := by
  simp only [nodeOf?, get?_modify]
  split <;> simp only [Option.bind_map, Function.comp_def, hf]

theorem masterOf_modify {f : Channel → Channel} (hf : ∀ c, (f c).master = c.master) (x : ChannelId) :
    (w.modify id f).masterOf x = w.masterOf x := by
  simp only [masterOf, get?_modify]
  split <;> simp only [Option.bind_map, Function.comp_def, hf]

theorem childrenOf_modify (f : Channel → Channel) (x : ChannelId) :
    (w.modify id f).childrenOf x =
      if id = x then ((w.get? x).map fun c => (f c).children).getD [] else w.childrenOf x := by
  simp only [childrenOf, get?_modify]
  split <;> simp only [Option.map_map, Function.comp_def]

/-! ### Lifecycle records -/

/-- The lifecycle record of a channel. -/
def cycleOf (w : World) (x : ChannelId) : Option Cycle := (w.get? x).map (·.cycle)

theorem stateOf_eq_cycleOf (w : World) (x : ChannelId) :
    w.stateOf x = ((w.cycleOf x).map (·.state)).getD .closed := by
  simp only [stateOf, cycleOf, Option.map_map, Function.comp_def]

theorem cycleOf_modify {f : Channel → Channel} (hf : ∀ c, (f c).cycle = c.cycle) (x : ChannelId) :
    (w.modify id f).cycleOf x = w.cycleOf x := by
  simp only [cycleOf, get?_modify]
  split
  · cases w.get? x <;> simp [hf]
  · rfl

theorem cycleOf_notify (states : List LifeState) (x : ChannelId) :
    (w.notify id states).cycleOf x = w.cycleOf x := by
  unfold notify
  induction states generalizing w with
  | nil => rfl
  | cons s rest ih =>
    refine ih.trans ?_
    unfold dispatch
    exact cycleOf_modify (by intro; rfl) x

theorem cycleOf_move (f : Cycle → Cycle × List LifeState) (x : ChannelId) :
    (w.move id f).cycleOf x =
      if x = id then (w.cycleOf id).map fun c => (f c).1 else w.cycleOf x := by
  unfold move
  split
  · rename_i c hc
    rw [cycleOf_notify]
    simp only [cycleOf, get?_modify]
    by_cases hx : x = id
    · subst hx
      simp [hc]
    · simp [hx, Ne.symm hx]
  · rename_i hc
    split
    · subst x
      simp [cycleOf, hc]
    · rfl

/-! ### Agreeing on shapes and states -/

/-- `w'` agrees with `w` on every shape and on the state of every channel but `id`. -/
structure Aside (id : ChannelId) (w w' : World) : Prop where
  shape : ∀ x, (w'.get? x).map Channel.shape = (w.get? x).map Channel.shape
  state : ∀ x, x ≠ id → w'.stateOf x = w.stateOf x

namespace Aside

theorem refl (id : ChannelId) (w : World) : Aside id w w := ⟨fun _ => rfl, fun _ _ => rfl⟩

theorem trans (h₁ : Aside id w w') (h₂ : Aside id w' w'') : Aside id w w'' :=
  ⟨fun x => (h₂.shape x).trans (h₁.shape x), fun x hx => (h₂.state x hx).trans (h₁.state x hx)⟩

theorem routesOf (h : Aside id w w') (x : ChannelId) : w'.routesOf x = w.routesOf x :=
  routesOf_of_shape (h.shape x)

theorem nodeOf? (h : Aside id w w') (x : ChannelId) : w'.nodeOf? x = w.nodeOf? x :=
  nodeOf?_of_shape (h.shape x)

theorem childrenOf (h : Aside id w w') (x : ChannelId) : w'.childrenOf x = w.childrenOf x :=
  childrenOf_of_shape (h.shape x)

theorem masterOf (h : Aside id w w') (x : ChannelId) : w'.masterOf x = w.masterOf x :=
  masterOf_of_shape (h.shape x)

theorem binds_iff (h : Aside id w w') {s : ChannelId} {p : String} {n : ChannelId} :
    w'.Binds s p n ↔ w.Binds s p n := by
  simp only [Binds, h.routesOf]

theorem size (h : Aside id w w') : w'.channels.size = w.channels.size := by
  have key : ∀ x, (w'.get? x).isSome = (w.get? x).isSome := fun x => by
    simpa using congrArg Option.isSome (h.shape x)
  rcases Nat.lt_trichotomy w'.channels.size w.channels.size with hlt | heq | hgt
  · have := key w'.channels.size
    simp [get?, hlt] at this
  · exact heq
  · have := key w.channels.size
    simp [get?, hgt] at this

end Aside

theorem stateOf_of_aside (hw : ∀ x, Aside x w w') (y : ChannelId) : w'.stateOf y = w.stateOf y :=
  (hw (y + 1)).state y (Nat.ne_of_lt (Nat.lt_succ_self y))

theorem aside_modify_of_state {f : Channel → Channel} (hf : ∀ c, (f c).shape = c.shape)
    (hs : ∀ c, (f c).cycle.state = c.cycle.state) (x : ChannelId) : Aside x w (w.modify id f) :=
  ⟨shape_modify hf, fun y _ => stateOf_modify hs y⟩

theorem shape_dispatch (m : Message) (x : ChannelId) :
    ((w.dispatch id m).get? x).map Channel.shape = (w.get? x).map Channel.shape := by
  unfold dispatch
  exact shape_modify (by intro; rfl) x

theorem stateOf_dispatch (m : Message) (x : ChannelId) :
    (w.dispatch id m).stateOf x = w.stateOf x := by
  unfold dispatch
  exact stateOf_modify (by intro; rfl) x

theorem shape_notify (states : List LifeState) (x : ChannelId) :
    ((w.notify id states).get? x).map Channel.shape = (w.get? x).map Channel.shape := by
  unfold notify
  induction states generalizing w with
  | nil => rfl
  | cons s rest ih => exact ih.trans (shape_dispatch _ x)

theorem stateOf_notify (states : List LifeState) (x : ChannelId) :
    (w.notify id states).stateOf x = w.stateOf x := by
  unfold notify
  induction states generalizing w with
  | nil => rfl
  | cons s rest ih => exact ih.trans (stateOf_dispatch _ x)

theorem stateOf_move (f : Cycle → Cycle × List LifeState) (x : ChannelId) :
    (w.move id f).stateOf x =
      if x = id then ((w.get? id).map fun c => (f c.cycle).1.state).getD .closed else w.stateOf x := by
  unfold move
  split
  · rename_i c hc
    rw [stateOf_notify]
    by_cases hx : x = id
    · subst hx
      simp [stateOf, get?_modify, hc]
    · simp [hx, stateOf_modify_of_ne _ hx]
  · rename_i hc
    split
    · subst x; simp [stateOf, hc]
    · rfl

theorem stateOf_move_self {c : Channel} (hc : w.get? id = some c)
    (f : Cycle → Cycle × List LifeState) :
    (w.move id f).stateOf id = (f c.cycle).1.state := by
  rw [stateOf_move, if_pos rfl, hc]
  rfl

theorem stateOf_move_closing {f : Cycle → Cycle × List LifeState}
    (hf : ∀ cy, (f cy).1.state = .closing → cy.state = .closing)
    (h : (w.move id f).stateOf x = .closing) : w.stateOf x = .closing := by
  rw [stateOf_move] at h
  split at h
  · subst x
    cases hc : w.get? id with
    | none => simp [hc] at h
    | some c =>
      simp only [hc, Option.map_some, Option.getD_some] at h
      simp [stateOf, hc, hf _ h]
  · exact h

theorem stateOf_move_of_ne (f : Cycle → Cycle × List LifeState) (h : x ≠ id) :
    (w.move id f).stateOf x = w.stateOf x := by
  simp [stateOf_move, h]

theorem shape_move (f : Cycle → Cycle × List LifeState) (x : ChannelId) :
    ((w.move id f).get? x).map Channel.shape = (w.get? x).map Channel.shape := by
  unfold move
  split
  · exact (shape_notify _ x).trans (shape_modify (by intro; rfl) x)
  · rfl

theorem stateOf_finishClose (id : ChannelId) : (w.move id Cycle.finishClose).stateOf id = .closed := by
  rw [stateOf_move, if_pos rfl]
  cases w.get? id <;> simp

theorem aside_move (f : Cycle → Cycle × List LifeState) : Aside id w (w.move id f) :=
  ⟨shape_move f, fun _ hx => stateOf_move_of_ne f hx⟩

/-! ### Setting what a channel holds -/

theorem get?_setHolding (h : Holding) (x : ChannelId) :
    (w.setHolding id h).get? x =
      if id = x then (w.get? x).map fun c => { c with holding := h } else w.get? x :=
  get?_modify w id _ x

theorem routesOf_setHolding (h : Holding) (x : ChannelId) :
    (w.setHolding id h).routesOf x =
      if id = x then (w.get? x).bind fun _ => h.routes? else w.routesOf x := by
  simp only [routesOf, get?_setHolding]
  split <;> simp only [Option.bind_map, Function.comp_def]

theorem nodeOf?_setHolding (h : Holding) (x : ChannelId) :
    (w.setHolding id h).nodeOf? x =
      if id = x then (w.get? x).bind fun _ => h.node? else w.nodeOf? x := by
  simp only [nodeOf?, get?_setHolding]
  split <;> simp only [Option.bind_map, Function.comp_def]

theorem childrenOf_setHolding (h : Holding) (x : ChannelId) :
    (w.setHolding id h).childrenOf x = w.childrenOf x := by
  simp only [childrenOf, get?_setHolding]
  split <;> simp only [Option.map_map, Function.comp_def]

theorem masterOf_setHolding (h : Holding) (x : ChannelId) :
    (w.setHolding id h).masterOf x = w.masterOf x := by
  simp only [masterOf, get?_setHolding]
  split <;> simp only [Option.bind_map, Function.comp_def]

theorem stateOf_setHolding (h : Holding) (x : ChannelId) :
    (w.setHolding id h).stateOf x = w.stateOf x :=
  stateOf_modify (by intro; rfl) x

theorem cycleOf_setHolding (h : Holding) (x : ChannelId) :
    (w.setHolding id h).cycleOf x = w.cycleOf x :=
  cycleOf_modify (by intro; rfl) x

theorem aside_setHolding {h : Holding}
    (hk : ∀ c, w.get? id = some c → h.routes? = c.holding.routes? ∧ h.node? = c.holding.node?) :
    Aside x w (w.setHolding id h) := by
  refine ⟨fun y => ?_, fun y _ => stateOf_setHolding h y⟩
  rw [get?_setHolding]
  split
  · rename_i hy
    subst hy
    cases hc : w.get? id with
    | none => rfl
    | some c => simp [Channel.shape, hk c hc]
  · rfl

theorem aside_of_channels (h : w'.channels = w.channels) : Aside x w w' := by
  have hg : ∀ y, w'.get? y = w.get? y := fun y => by simp [get?, h]
  exact ⟨fun y => by rw [hg], fun y _ => by simp [stateOf, hg]⟩

/-! ### Taking a transport down -/

theorem aside_takeDown (hy : w.nodeOf? y = none) (x : ChannelId) : Aside x w (w.takeDown y) := by
  unfold takeDown
  cases hc : w.get? y with
  | none => exact .refl x w
  | some c =>
    -- each kind but a node gives its channel a holding of its own kind back
    have same : ∀ h : Holding, h.routes? = c.holding.routes? → h.node? = c.holding.node? →
        Aside x w (w.setHolding y h) := fun h hr hn =>
      aside_setHolding fun c' hc' => by rw [hc] at hc'; cases hc'; exact ⟨hr, hn⟩
    simp only
    split
    · exact same _ (by simp_all [Holding.routes?]) (by simp_all [Holding.node?])
    · exact same _ (by simp_all [Holding.routes?]) (by simp_all [Holding.node?])
    · exact (same _ (by simp_all [Holding.routes?]) (by simp_all [Holding.node?])).trans
        (aside_of_channels rfl)
    · rename_i routes bound hh
      have := same (.listener routes none) (by simp [hh]) (by simp [hh, Holding.node?])
      split
      · exact this.trans (aside_of_channels rfl)
      · exact this
    · simp_all [nodeOf?, Holding.node?]
    · exact aside_of_channels rfl

theorem stateOf_of_channels (h : w'.channels = w.channels) (x : ChannelId) :
    w'.stateOf x = w.stateOf x := by
  simp [stateOf, get?, h]

theorem stateOf_takeDown (x : ChannelId) : (w.takeDown y).stateOf x = w.stateOf x := by
  unfold takeDown
  split
  · rfl
  · split
    · exact stateOf_setHolding _ x
    · exact stateOf_setHolding _ x
    · exact (stateOf_of_channels rfl x).trans (stateOf_setHolding _ x)
    · split
      · exact (stateOf_of_channels rfl x).trans (stateOf_setHolding _ x)
      · exact stateOf_setHolding _ x
    · split
      · split
        · exact stateOf_setHolding _ x
        · rfl
      · rfl
    · exact stateOf_of_channels rfl x

theorem takeDown_of_node {s : ChannelId} {p : String} (hy : w.nodeOf? y = some (s, p)) :
    w.takeDown y =
      match w.get? s with
      | some sc =>
        match sc.holding with
        | .listener routes bound => w.setHolding s (.listener (routes.unregister p y).1 bound)
        | _ => w
      | none => w := by
  obtain ⟨c, hc⟩ := Option.isSome_iff_exists.1 (get?_isSome_of_nodeOf? hy)
  simp only [nodeOf?, hc, Option.bind_some] at hy
  unfold takeDown
  rw [hc]
  obtain ⟨_, _, _, _, _, _, _, _, _, _, holding⟩ := c
  cases holding with
  | node k server pattern st =>
    simp only [Holding.node?, Option.some.injEq, Prod.mk.injEq] at hy
    obtain ⟨rfl, rfl⟩ := hy
    rfl
  | _ => simp [Holding.node?] at hy

theorem routesOf_takeDown_of_node {s : ChannelId} {p : String} (hy : w.nodeOf? y = some (s, p))
    (x : ChannelId) :
    (w.takeDown y).routesOf x =
      if s = x then (w.routesOf x).map fun r => (r.unregister p y).1 else w.routesOf x := by
  rw [takeDown_of_node hy]
  by_cases hx : s = x
  · subst hx
    cases hs : w.get? s with
    | none => simp [routesOf, hs]
    | some sc =>
      cases hsh : sc.holding with
      | listener routes bound =>
        simp only [hsh]
        rw [routesOf_setHolding]
        simp [routesOf, hs, hsh]
      | _ => simp [routesOf, hs, hsh, Holding.routes?]
  · simp only [hx, if_false]
    split
    · split
      · simp [routesOf_setHolding, hx]
      · rfl
    · rfl

theorem shape_takeDown_of_node {s : ChannelId} {p : String} (hy : w.nodeOf? y = some (s, p))
    (x : ChannelId) :
    (w.takeDown y).nodeOf? x = w.nodeOf? x ∧ (w.takeDown y).childrenOf x = w.childrenOf x ∧
      (w.takeDown y).masterOf x = w.masterOf x := by
  rw [takeDown_of_node hy]
  split
  · rename_i sc hs
    split
    · rename_i routes bound hsh
      refine ⟨?_, childrenOf_setHolding _ x, masterOf_setHolding _ x⟩
      rw [nodeOf?_setHolding]
      split
      · subst x
        simp [nodeOf?, hs, hsh, Holding.node?]
      · rfl
    · exact ⟨rfl, rfl, rfl⟩
  · exact ⟨rfl, rfl, rfl⟩

theorem views_takeDown (x : ChannelId) :
    (w.takeDown y).nodeOf? x = w.nodeOf? x ∧ (w.takeDown y).childrenOf x = w.childrenOf x ∧
      (w.takeDown y).masterOf x = w.masterOf x := by
  cases hy : w.nodeOf? y with
  | none =>
    have h := aside_takeDown hy x
    exact ⟨h.nodeOf? x, h.childrenOf x, h.masterOf x⟩
  | some sp => exact shape_takeDown_of_node hy x

theorem isSome_routesOf_takeDown (x : ChannelId) :
    ((w.takeDown y).routesOf x).isSome = (w.routesOf x).isSome := by
  cases hy : w.nodeOf? y with
  | none => rw [(aside_takeDown hy x).routesOf x]
  | some sp =>
    rw [routesOf_takeDown_of_node hy]
    split <;> simp

/-! ### Closing subtrees -/

theorem closeEach_nil (fuel : Nat) (w : World) : closeEach fuel [] w = w := by
  cases fuel with
  | zero => rw [closeEach.eq_1]
  | succ fuel => rw [closeEach.eq_2]

theorem close_of_closed (h : w.stateOf id = .closed) : w.close id = w := by
  unfold close
  rw [closeEach.eq_3, if_pos h, closeEach_nil]

theorem close_of_not_closed (h : w.stateOf id ≠ .closed) :
    w.close id = ((closeEach w.channels.size (w.childrenOf id) (w.move id Cycle.beginClose)).takeDown
      id).move id Cycle.finishClose := by
  unfold close
  rw [closeEach.eq_3, if_neg h, closeEach_nil]
  have hc : (w.move id Cycle.beginClose).childrenOf id = w.childrenOf id :=
    (aside_move Cycle.beginClose).childrenOf id
  simp only [← hc]
  rfl

theorem closeEach_preserves {Q : World → Prop} {P : ChannelId → Prop}
    (hbegin : ∀ w y, Q w → P y → w.stateOf y ≠ .closed → Q (w.move y Cycle.beginClose))
    (hfinish : ∀ w y, Q w → P y → Q ((w.takeDown y).move y Cycle.finishClose))
    (hchildren : ∀ w x, Q w → P x → ∀ y ∈ w.childrenOf x, P y)
    (fuel : Nat) (ids : List ChannelId) (w : World) (hq : Q w) (hp : ∀ x ∈ ids, P x) :
    Q (closeEach fuel ids w) := by
  fun_induction closeEach fuel ids w with
  | case1 => exact hq
  | case2 => exact hq
  | case3 fuel id rest w w₁ inner _ ih =>
    have hid : P id := hp id List.mem_cons_self
    refine ih ?_ fun x hx => hp x (List.mem_cons_of_mem id hx)
    -- the first channel is skipped when closed, else started, its children closed, and finished
    simp only [w₁]
    split
    · exact hq
    · rename_i hopen
      have h₁ := hbegin w id hq hid hopen
      exact hfinish _ id (inner h₁ (hchildren _ id h₁ hid)) hid

theorem stateOf_closeEach_of_closed {x : ChannelId} (fuel : Nat) (ids : List ChannelId)
    (h : w.stateOf x = .closed) : (closeEach fuel ids w).stateOf x = .closed := by
  refine closeEach_preserves (Q := fun w => w.stateOf x = .closed) (P := fun _ => True)
    (fun w y hx _ hy => ?_) (fun w y hx _ => ?_) (fun _ _ _ _ _ _ => trivial) fuel ids w h
      (fun _ _ => trivial)
  · have hne : x ≠ y := fun e => hy (e ▸ hx)
    rwa [stateOf_move_of_ne _ hne]
  · by_cases hxy : x = y
    · subst hxy
      exact stateOf_finishClose x
    · rwa [stateOf_move_of_ne _ hxy, stateOf_takeDown]

theorem stateOf_closeEach_of_mem {x : ChannelId} (fuel : Nat) (ids : List ChannelId) (w : World)
    (hx : x ∈ ids) : (closeEach (fuel + 1) ids w).stateOf x = .closed := by
  induction ids generalizing w with
  | nil => simp at hx
  | cons id rest ih =>
    rw [closeEach.eq_3]
    rcases List.mem_cons.1 hx with rfl | hx
    · apply stateOf_closeEach_of_closed
      split
      · assumption
      · exact stateOf_finishClose x
    · exact ih _ hx

theorem stateOf_closeEach_closing {x : ChannelId} (fuel : Nat) (ids : List ChannelId) (w : World)
    (h : (closeEach fuel ids w).stateOf x = .closing) : w.stateOf x = .closing := by
  fun_induction closeEach fuel ids w with
  | case1 => exact h
  | case2 => exact h
  | case3 fuel id rest w w₁ inner _ ih =>
    have h₁ := ih h
    simp only [w₁] at h₁
    split at h₁
    · exact h₁
    · -- a channel just finished is closed, so the one found closing is another
      have hne : x ≠ id := by
        rintro rfl
        rw [stateOf_finishClose] at h₁
        cases h₁
      rw [stateOf_move_of_ne _ hne, stateOf_takeDown] at h₁
      rw [← stateOf_move_of_ne Cycle.beginClose hne]
      exact inner h₁

theorem stateOf_closeEach_of_not {P : ChannelId → Prop}
    (hchildren : ∀ x, P x → ∀ y ∈ w.childrenOf x, P y) (fuel : Nat) (ids : List ChannelId)
    (hp : ∀ x ∈ ids, P x) {m : ChannelId} (hm : ¬ P m) :
    (closeEach fuel ids w).stateOf m = w.stateOf m := by
  -- the walk keeps the tree, so the set stays closed under children all along
  refine (closeEach_preserves
    (Q := fun w' => (∀ x, w'.childrenOf x = w.childrenOf x) ∧ w'.stateOf m = w.stateOf m)
    (fun w' y ⟨hc, hs⟩ hy _ => ⟨fun x => ((aside_move _).childrenOf x).trans (hc x), ?_⟩)
    (fun w' y ⟨hc, hs⟩ hy => ⟨fun x => ?_, ?_⟩)
    (fun w' x ⟨hc, _⟩ hx y hy => hchildren x hx y (hc x ▸ hy)) fuel ids w ⟨fun _ => rfl, rfl⟩ hp).2
  · have hne : m ≠ y := fun e => hm (e ▸ hy)
    rw [stateOf_move_of_ne _ hne, hs]
  · rw [(aside_move _).childrenOf x, (views_takeDown x).2.1, hc x]
  · have hne : m ≠ y := fun e => hm (e ▸ hy)
    rw [stateOf_move_of_ne _ hne, stateOf_takeDown, hs]

theorem stateOf_close_self (w : World) (id : ChannelId) : (w.close id).stateOf id = .closed :=
  stateOf_closeEach_of_mem _ _ w (List.mem_singleton_self id)

theorem stateOf_close_child {x y : ChannelId} (hs : w.stateOf x ≠ .closed) (hy : y ∈ w.childrenOf x) :
    (w.close x).stateOf y = .closed := by
  rw [close_of_not_closed hs]
  by_cases hyx : y = x
  · subst hyx
    exact stateOf_finishClose y
  · rw [stateOf_move_of_ne _ hyx, stateOf_takeDown]
    -- a channel that is not closed exists, so the walk has fuel for its children
    have hpos : w.channels.size ≠ 0 := fun h0 =>
      hs (stateOf_of_get?_none (by simp [get?, h0]))
    obtain ⟨k, hk⟩ := Nat.exists_eq_succ_of_ne_zero hpos
    rw [hk]
    exact stateOf_closeEach_of_mem k _ _ hy

end World

end ChannelMux
