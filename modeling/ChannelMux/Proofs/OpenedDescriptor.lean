import ChannelMux.Proofs.HookPairing
import ChannelMux.Proofs.OverrideLaws
import ChannelMux.Proofs.DescriptorReading

/-! The descriptor an open puts in effect. -/

namespace ChannelMux

open Session

variable {α β : Type}

namespace World

variable {w w' : World} {id : ChannelId}

/-- The descriptor in effect of a channel. -/
def configOf (w : World) (x : ChannelId) : Option Descriptor := (w.get? x).map (·.config)

theorem configOf_modify {f : Channel → Channel} (hf : ∀ c, (f c).config = c.config) :
    (w.modify id f).configOf = w.configOf := funext fun x => by
  simp only [configOf, get?_modify]
  split
  · cases w.get? x <;> simp [hf]
  · rfl

theorem configOf_notify (states : List LifeState) : (w.notify id states).configOf = w.configOf := by
  unfold notify
  induction states generalizing w with
  | nil => rfl
  | cons s rest ih => exact ih.trans (configOf_modify fun _ => rfl)

theorem configOf_move (f : Cycle → Cycle × List LifeState) : (w.move id f).configOf = w.configOf := by
  unfold move
  split
  · rw [configOf_notify]
    exact configOf_modify fun _ => rfl
  · rfl

theorem configOf_setHolding (h : Holding) : (w.setHolding id h).configOf = w.configOf :=
  configOf_modify fun _ => rfl

theorem configOf_of_channels (h : w'.channels = w.channels) : w'.configOf = w.configOf :=
  funext fun x => by simp only [configOf, get?, h]

theorem configOf_schedule (j : Job) : (w.schedule j).configOf = w.configOf :=
  configOf_of_channels rfl

end World

/-! ### Operations that keep the descriptors in effect -/

/-- The operation leaves every channel's descriptor in effect as it was, whether it succeeds or
fails. -/
def KeepsConfigs (a : Act α) : Prop := ∀ w, (perform w a).2.configOf = w.configOf

namespace KeepsConfigs

theorem bind {a : Act α} {f : α → Act β} (ha : KeepsConfigs a) (hf : ∀ x, KeepsConfigs (f x)) :
    KeepsConfigs (a >>= f) := by
  intro w
  have h₁ := ha w
  rw [perform_bind]
  rcases hp : perform w a with ⟨_ | x, w'⟩
  · rw [hp] at h₁
    exact h₁
  · rw [hp] at h₁
    exact (hf x w').trans h₁

theorem of_reads {a : Act α} (h : Reads a) : KeepsConfigs a := fun w => by rw [h w]

theorem modify {f : World → World} (hf : ∀ w, (f w).configOf = w.configOf) :
    KeepsConfigs (modify f : Act Unit) := fun w => hf w

end KeepsConfigs

theorem keepsConfigs_ofExcept (r : Except Failure α) : KeepsConfigs (Act.ofExcept r) :=
  .of_reads (reads_ofExcept r)

theorem keepsConfigs_setHolding (id : ChannelId) (h : Holding) :
    KeepsConfigs (modify fun w : World => w.setHolding id h : Act Unit) :=
  .modify fun _ => World.configOf_setHolding h

theorem keepsConfigs_modifyChannel (id : ChannelId) {f : Channel → Channel}
    (hf : ∀ c, (f c).config = c.config) : KeepsConfigs (modify fun w : World => w.modify id f : Act Unit) :=
  .modify fun _ => World.configOf_modify hf

theorem keepsConfigs_schedule (j : Job) : KeepsConfigs (modify fun w : World => w.schedule j : Act Unit) :=
  .modify fun _ => World.configOf_schedule j

theorem keepsConfigs_publish (id : ChannelId) (k v : String) : KeepsConfigs (Act.publish id k v) :=
  keepsConfigs_modifyChannel id fun _ => rfl

theorem keepsConfigs_move (id : ChannelId) (f : Cycle → Cycle × List LifeState) :
    KeepsConfigs (Act.move id f) :=
  .modify fun _ => World.configOf_move f

theorem keepsConfigs_startExchange (id : ChannelId) (addr : Int) (o : Http.Outgoing) :
    KeepsConfigs (Act.startExchange id addr o) := by
  unfold Act.startExchange
  refine (KeepsConfigs.of_reads (reads_need id)).bind fun c => ?_
  split
  · refine (KeepsConfigs.of_reads reads_get).bind fun w₀ => ?_
    dsimp only
    split
    · exact KeepsConfigs.modify fun w =>
        (World.configOf_of_channels rfl).trans (World.configOf_setHolding _)
    · exact KeepsConfigs.of_reads (reads_throw _)
  · exact KeepsConfigs.of_reads (reads_throw _)

theorem keepsConfigs_bringUp (id : ChannelId) (d : Descriptor) : KeepsConfigs (Act.bringUp id d) := by
  unfold Act.bringUp
  refine (KeepsConfigs.of_reads (reads_need id)).bind fun c => ?_
  split
  · exact (keepsConfigs_ofExcept _).bind fun _ => (keepsConfigs_setHolding _ _).bind fun _ =>
      keepsConfigs_publish _ _ _
  · exact (keepsConfigs_ofExcept _).bind fun _ => (keepsConfigs_setHolding _ _).bind fun _ =>
      keepsConfigs_publish _ _ _
  · -- a request channel: its options and engine, then the exchange of an autoclose channel
    refine (keepsConfigs_ofExcept _).bind fun o => ?_
    have autoclose : KeepsConfigs (if o.autoclose = true then do
        Act.move id Cycle.activate
        Act.startExchange id 0 {}
      else pure ()) := by
      split
      · exact (keepsConfigs_move _ _).bind fun _ => keepsConfigs_startExchange _ _ _
      · exact KeepsConfigs.of_reads (reads_pure _)
    have rest : ∀ (g : Option ChannelId) (e : Http.Engine) (own : Bool), KeepsConfigs (do
        modify fun w : World =>
          w.setHolding id (.request g (some { options := o, engine := e, privateEngine := own }))
        Act.publish id "url" o.base
        Act.publish id "method" o.method.name
        Act.publish id "transfer" o.transferName
        if own = true then do
          Act.publish id "max-connections" (toString e.maxConnections)
          if o.autoclose = true then do
            Act.move id Cycle.activate
            Act.startExchange id 0 {}
          else pure ()
        else
          if o.autoclose = true then do
            Act.move id Cycle.activate
            Act.startExchange id 0 {}
          else pure ()) := fun g e own => by
      refine (keepsConfigs_setHolding _ _).bind fun _ => (keepsConfigs_publish _ _ _).bind fun _ =>
        (keepsConfigs_publish _ _ _).bind fun _ => (keepsConfigs_publish _ _ _).bind fun _ => ?_
      split
      · exact (keepsConfigs_publish _ _ _).bind fun _ => autoclose
      · exact autoclose
    dsimp only
    split
    · exact (keepsConfigs_ofExcept _).bind fun _ => (KeepsConfigs.of_reads (reads_pure _)).bind
        fun _ => rest _ _ _
    · exact (KeepsConfigs.of_reads fun w => world_groupEngine _ w).bind fun _ =>
        (KeepsConfigs.of_reads (reads_pure _)).bind fun _ => rest _ _ _
  · -- a listening channel: its address and options, then the port it binds
    refine (keepsConfigs_ofExcept _).bind fun _ => (keepsConfigs_ofExcept _).bind fun _ =>
      (keepsConfigs_ofExcept _).bind fun _ => (KeepsConfigs.of_reads reads_get).bind fun _ => ?_
    split
    · refine (KeepsConfigs.modify fun w => ?_).bind fun _ => keepsConfigs_modifyChannel id fun _ => rfl
      exact (World.configOf_of_channels rfl).trans (World.configOf_setHolding _)
    · exact KeepsConfigs.of_reads (reads_throw _)
  · -- a node: its settings, then its pattern registered with its listening master
    refine (keepsConfigs_ofExcept _).bind fun _ => (keepsConfigs_setHolding _ _).bind fun _ =>
      (KeepsConfigs.of_reads (reads_need _)).bind fun _ => ?_
    split
    · exact (keepsConfigs_ofExcept _).bind fun _ => keepsConfigs_setHolding _ _
    · exact KeepsConfigs.of_reads (reads_throw _)
  · -- a client: its options, then the dial it schedules
    refine (keepsConfigs_ofExcept _).bind fun _ => (keepsConfigs_modifyChannel id ?_).bind fun _ =>
      (KeepsConfigs.of_reads (reads_need _)).bind fun _ => keepsConfigs_schedule _
    exact fun _ => rfl

/-! ### Opening and creating -/

variable {w : World} {id : ChannelId} {c : Channel} {extra : Options} {d : Descriptor}

theorem configOf_openWith (hc : w.get? id = some c) (closed : c.cycle.state = .closed)
    (ho : c.initial.override extra = .ok d) :
    (perform w (Act.openWith id extra)).2.configOf id = some d := by
  unfold Act.openWith
  rw [perform_bind, perform_need hc]
  simp only [closed, bne_self_eq_false, Bool.false_eq_true, if_false, ho, perform_bind, perform_pure,
    perform_modify, Act.move, perform_tryCatch]
  -- the descriptor is written before the transport comes up, and nothing after writes another
  have written : ((w.modify id fun c => { c with config := d, info := Options.empty }).move id
      Cycle.beginOpen).configOf id = some d := by
    rw [World.configOf_move]
    simp [World.configOf, World.get?_modify, hc]
  have kept := keepsConfigs_bringUp id d
    ((w.modify id fun c => { c with config := d, info := Options.empty }).move id Cycle.beginOpen)
  rcases hb : perform _ (Act.bringUp id d) with ⟨_ | _, w₂⟩
  all_goals
    rw [hb] at kept
    dsimp only at kept ⊢
  · -- a transport that fails to come up fails the cycle, and the descriptor stays written
    rw [perform_throw]
    dsimp only
    rw [World.configOf_move, kept, written]
  · rw [World.configOf_move, kept, written]

theorem create_keeps_named (named : d.name ≠ "") (master : Option ChannelId) (w : World)
    {n : ChannelId} (h : (perform w (Act.create d master)).1 = .ok n) :
    ∃ c, (perform w (Act.create d master)).2.get? n = some c ∧ c.initial = d ∧
      c.cycle.state = .closed := by
  revert h
  unfold Act.create
  rw [perform_bind]
  have hrm := reads_resolveMaster d master w
  rcases hp : perform w (Act.resolveMaster d master) with ⟨_ | m, w₀⟩
  · rintro ⟨⟩
  rw [hp] at hrm
  subst hrm
  dsimp -zeta only
  extract_lets jp jp₀
  split
  · rintro ⟨⟩
  simp only [jp₀]
  rw [if_neg fun e => named (String.isEmpty_iff.mp e), perform_bind, perform_pure]
  simp only [jp]
  rw [perform_bind, perform_get]
  dsimp only
  split
  · rw [perform_bind, perform_throw]
    rintro ⟨⟩
  rw [perform_bind, perform_get]
  dsimp -zeta only
  rw [perform_bind]
  obtain ⟨hasd, -⟩ := holdingFor_spec d m w₀.channels.size w₀
  rcases hh : perform w₀ (Act.holdingFor d m w₀.channels.size) with ⟨_ | hold, w₂⟩
  · rintro ⟨⟩
  rw [hh] at hasd
  have hs : w₂.channels.size = w₀.channels.size := (hasd 0).size
  dsimp only
  rw [perform_bind, perform_get]
  dsimp only
  rw [perform_bind, perform_modify]
  dsimp only
  -- the new channel sits last, where its number points; its master's children change at most
  cases m with
  | none =>
    rw [perform_pure]
    rintro ⟨⟩
    simp only [World.get?, ← hs, Array.getElem?_push_size]
    exact ⟨_, rfl, rfl, rfl⟩
  | some mm =>
    dsimp only
    rw [perform_bind, perform_modify]
    dsimp only
    rw [perform_pure]
    rintro ⟨⟩
    rw [World.get?_modify]
    simp only [World.get?, ← hs, Array.getElem?_push_size]
    split <;> exact ⟨_, rfl, rfl, rfl⟩

theorem createFrom_of_ok {text : String} {props : Options} {c : Descriptor}
    (parsed : Descriptor.parse text = .ok c) (overridden : c.override props = .ok d)
    (master : Option ChannelId) (w : World) :
    perform w (Act.createFrom text props master) = perform w (Act.create d master) := by
  simp only [Act.createFrom, perform_ofExcept_bind, parsed]
  dsimp only [Except.mapError]
  rw [overridden]

/-- A channel made from a text and options and opened with more options runs with the text's
descriptor overridden once with the merged options. -/
theorem opened_descriptor_merges_options :
    (∀ {c c₁ : Descriptor} {p₁ : Options}, c.options.Ordered → p₁.Ordered → c.override p₁ = .ok c₁ →
      ∀ p₂, c₁.override p₂ = c.override (p₁.merge p₂)) ∧
    ∀ {text : String} {props : Options} {c d : Descriptor} {master : Option ChannelId} {w w₁ : World}
      {n : ChannelId} (overrides : Options), Descriptor.parse text = .ok c → c.override props = .ok d →
      d.name ≠ "" → props.Ordered → perform w (Act.createFrom text props master) = (.ok n, w₁) →
      (∀ d', c.override (props.merge overrides) = .ok d' →
        (perform w₁ (Act.openWith n overrides)).2.configOf n = some d') ∧
      ∀ e, c.override (props.merge overrides) = .error e →
        ∃ ch, w₁.get? n = some ch ∧
          perform w₁ (Act.openWith n overrides) = (.error (e.failure.within ch.logger.prefixText), w₁) := by
  refine ⟨fun hc h₁ first p₂ => Descriptor.override_override hc h₁ first p₂, ?_⟩
  intro text props c d master w w₁ n overrides parsed overridden named ordered created
  obtain ⟨_, _, -, read⟩ := readFrom_of_parse parsed
  rw [createFrom_of_ok parsed overridden] at created
  obtain ⟨ch, hch, initial, closed⟩ := create_keeps_named named master w (n := n) (by rw [created])
  rw [created] at hch
  -- every open overrides the descriptor the channel was made from, that is the text's once over
  have opens : ch.initial.override overrides = c.override (props.merge overrides) := by
    rw [initial, Descriptor.override_override read.ordered ordered overridden]
  exact ⟨fun d' ho => configOf_openWith hch closed (opens.trans ho),
    fun e ho => ⟨ch, hch, openWith_of_refused hch closed (opens.trans ho)⟩⟩

/-- A direct channel named in its text, made with one queue size and opened with another, runs
with the second. -/
theorem named_direct_channel_opens_with_merged_size :
    Descriptor.parse "direct://;name=a" =
        .ok ⟨"direct://;name=a", "direct", "direct", "", "", "a", .no, ⟨[("name", "a")]⟩⟩ ∧
      (perform (perform {} (Act.createFrom "direct://;name=a" ⟨[("size", "4")]⟩ none)).2
          (Act.openWith 0 ⟨[("size", "8")]⟩)).2.configOf 0 =
        some ⟨"direct://;name=a", "direct", "direct", "", "", "a", .no, ⟨[("name", "a"), ("size", "8")]⟩⟩ :=
  ⟨rfl, (opened_descriptor_merges_options.2 (n := 0) ⟨[("size", "8")]⟩ rfl
    (d := ⟨"direct://;name=a", "direct", "direct", "", "", "a", .no, ⟨[("name", "a"), ("size", "4")]⟩⟩)
    rfl (by decide) (by decide) (Prod.ext rfl rfl)).1 _ rfl⟩

end ChannelMux
