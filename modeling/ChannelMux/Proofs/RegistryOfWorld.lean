import ChannelMux.Proofs.NameReservations
import ChannelMux.Proofs.GeneratedNames

/-! The names of a session world are its context's registry, with one creation at a time. -/

namespace ChannelMux

open Session

namespace Registry

variable {r : Registry} {d : Descriptor} {master : Option ChannelId}

/-- The events of one creation that runs alone: started, its master looked up, its name reserved,
and its kind answering. -/
def alone (d : Descriptor) (master : Option ChannelId) (f : Option Failure) : List Event :=
  [.create d master, .resolve 0, .reserve 0, .build 0 f]

theorem run_alone_of_master_error (hr : r.creations = []) {e : Failure}
    (h : d.masterIn r.get master = .error e) (f : Option Failure) :
    r.run (alone d master f) = { r with creations := [.done (.error e)] } := by
  have hget : ({ r with creations := [Creation.start d master] } : Registry).get = r.get := rfl
  simp [Registry.run, alone, Registry.step, hr, hget, h]

theorem put_append_fresh {slots : List (String × Slot)} {name : String} {s s' : Slot}
    (h : slots.lookup name = none) : put (slots ++ [(name, s)]) name s' = slots ++ [(name, s')] := by
  induction slots with
  | nil => simp [put]
  | cons p rest ih =>
    have hp : (p.1 == name) = false := by
      have := List.lookup_eq_none_iff.mp h p List.mem_cons_self
      rw [bne_iff_ne] at this
      exact beq_eq_false_iff_ne.mpr (Ne.symm this)
    have hrest : rest.lookup name = none :=
      List.lookup_eq_none_iff.mpr fun q hq => List.lookup_eq_none_iff.mp h q (List.mem_cons_of_mem _ hq)
    rw [List.cons_append, put, hp, ih hrest]
    rfl

theorem finish_fresh_built {n : String} (h : r.slots.lookup n = none) :
    ({ r with slots := r.slots ++ [(n, .reserved)] } : Registry).finish n none =
      ({ r with slots := r.slots ++ [(n, .held r.built.length)], built := r.built ++ [n] },
        .ok r.built.length) := by
  simp only [finish, put_append_fresh h]

theorem finish_fresh_failed {n : String} (h : r.slots.lookup n = none) (e : Failure) :
    (({ r with slots := r.slots ++ [(n, .reserved)] } : Registry).finish n (some e)).1.slots =
      r.slots :=
  erase_append_fresh h

theorem reserveName_unnamed (hk : ¬(!knownSchemes.contains d.scheme) = true)
    (he : d.name.isEmpty = true) :
    r.reserveName d =
      if (r.slotOf (d.scheme ++ toString (r.unnamed + 1))).isSome then
        ({ r with unnamed := r.unnamed + 1 }, .error (Failure.config ("channel name " ++
          Text.quote (d.scheme ++ toString (r.unnamed + 1)) ++ " already in use")))
      else
        ({ ({ r with unnamed := r.unnamed + 1 } : Registry) with
            slots := r.slots ++ [(d.scheme ++ toString (r.unnamed + 1), .reserved)] },
          .ok (d.scheme ++ toString (r.unnamed + 1))) := by
  unfold reserveName
  rw [if_neg hk]
  simp only [he, if_true, slotOf]
  rfl

theorem reserveName_named (hk : ¬(!knownSchemes.contains d.scheme) = true)
    (he : ¬d.name.isEmpty = true) :
    r.reserveName d =
      if (r.slotOf d.name).isSome then
        (r, .error (Failure.config ("channel name " ++ Text.quote d.name ++ " already in use")))
      else ({ r with slots := r.slots ++ [(d.name, .reserved)] }, .ok d.name) := by
  unfold reserveName
  rw [if_neg hk]
  simp only [he, if_false, Bool.false_eq_true]

theorem reserveName_with_creations (r : Registry) (cs : List Creation) (d : Descriptor) :
    ({ r with creations := cs } : Registry).reserveName d =
      ({ (r.reserveName d).1 with creations := cs }, (r.reserveName d).2) := by
  simp only [reserveName, slotOf]
  split_ifs <;> rfl

theorem run_alone_of_refused (hr : r.creations = []) {m : Option ChannelId}
    (h : d.masterIn r.get master = .ok m) {e : Failure} (hres : (r.reserveName d).2 = .error e)
    (f : Option Failure) :
    r.run (alone d master f) = { (r.reserveName d).1 with creations := [.done (.error e)] } := by
  have hget : ({ r with creations := [Creation.start d master] } : Registry).get = r.get := rfl
  simp [Registry.run, alone, Registry.step, hr, hget, h, reserveName_with_creations, hres]

theorem run_alone_of_reserved (hr : r.creations = []) {m : Option ChannelId}
    (h : d.masterIn r.get master = .ok m) {name : String} (hres : (r.reserveName d).2 = .ok name)
    (f : Option Failure) :
    r.run (alone d master f) =
      { ((r.reserveName d).1.finish name f).1 with
        creations := [.done ((r.reserveName d).1.finish name f).2] } := by
  have hget : ({ r with creations := [Creation.start d master] } : Registry).get = r.get := rfl
  simp [Registry.run, alone, Registry.step, hr, hget, h, reserveName_with_creations, hres]
  -- the kind's answer reads no creation either
  cases f <;> exact ⟨rfl, rfl, rfl, rfl⟩

theorem get_forget_of_ne {n : String} {id : ChannelId} (h : r.get n ≠ some id) :
    (r.forget id).get n = r.get n := by
  unfold forget
  split
  · rename_i name _
    split
    · rename_i holds
      have hn : n ≠ name := by
        rintro rfl
        exact h holds
      exact get_congr (by simp [slotOf, lookup_erase, hn])
    · rfl
  · rfl

end Registry

namespace World

/-- The registry a world's names make: each name holds its channel, with the world's count of
creations without a name and its channels' names by number. -/
def asRegistry (w : World) : Registry where
  slots := w.names.map fun p => (p.1, .held p.2)
  unnamed := w.unnamed
  built := w.channels.toList.map (·.name)

theorem lookup_map_held (names : List (String × ChannelId)) (n : String) :
    (names.map fun p => (p.1, Slot.held p.2)).lookup n =
      ((names.find? (·.1 == n)).map (·.2)).map .held := by
  induction names with
  | nil => rfl
  | cons p rest ih =>
    obtain ⟨k, id⟩ := p
    by_cases h : n = k
    · subst h
      simp [List.lookup_cons_self]
    · rw [List.map_cons, Registry.lookup_cons_ne h, ih, List.find?_cons_of_neg]
      simpa using Ne.symm h

theorem asRegistry_get (w : World) (n : String) : w.asRegistry.get n = w.lookup n := by
  simp only [Registry.get, Registry.slotOf, asRegistry, lookup_map_held, lookup]
  cases (w.names.find? (·.1 == n)).map (·.2) <;> rfl

theorem asRegistry_slotOf (w : World) (n : String) :
    w.asRegistry.slotOf n = (w.lookup n).map .held :=
  lookup_map_held w.names n

theorem perform_resolveMaster (w : World) (d : Descriptor) (master : Option ChannelId) :
    perform w (Act.resolveMaster d master) = (d.masterIn w.lookup master, w) := by
  unfold Act.resolveMaster
  rw [perform_bind, perform_get]
  exact perform_ofExcept w _

theorem create_runs_alone (w : World) (d : Descriptor) (master : Option ChannelId) :
    ∃ f, let r := w.asRegistry.run (Registry.alone d master f)
      r.slots = (perform w (Act.create d master)).2.asRegistry.slots ∧
        r.unnamed = (perform w (Act.create d master)).2.unnamed ∧
        r.creations = [.done (perform w (Act.create d master)).1] := by
  have hget : w.asRegistry.get = w.lookup := funext (asRegistry_get w)
  unfold Act.create
  rw [perform_bind, perform_resolveMaster]
  cases hm : d.masterIn w.lookup master with
  | error e =>
    refine ⟨none, ?_⟩
    rw [Registry.run_alone_of_master_error rfl (hget ▸ hm)]
    exact ⟨rfl, rfl, rfl⟩
  | ok m =>
    dsimp -zeta only
    extract_lets jp jp₀
    -- once named, the world refuses a taken name, or runs the kind and registers the channel
    have tail : ∀ (d' : Descriptor) (w₁ : World),
        (w₁.lookup d'.name).isSome = true ∧ perform w₁ (jp d') =
            (.error (Failure.config ("channel name " ++ Text.quote d'.name ++ " already in use")), w₁) ∨
          w₁.lookup d'.name = none ∧ ∃ f : Option Failure,
            let r₁ : Registry :=
              { w₁.asRegistry with slots := w₁.asRegistry.slots ++ [(d'.name, .reserved)] }
            (r₁.finish d'.name f).1.slots = (perform w₁ (jp d')).2.asRegistry.slots ∧
              (r₁.finish d'.name f).1.unnamed = (perform w₁ (jp d')).2.unnamed ∧
              (r₁.finish d'.name f).2 = (perform w₁ (jp d')).1 := by
      intro d' w₁
      simp only [jp]
      rw [perform_bind, perform_get]
      dsimp only
      split
      · rename_i taken
        refine .inl ⟨taken, ?_⟩
        rw [perform_bind, perform_throw]
      · rename_i free
        have hfree : w₁.lookup d'.name = none := by simpa using free
        have hslot : w₁.asRegistry.slots.lookup d'.name = none := by
          have := asRegistry_slotOf w₁ d'.name
          simp only [Registry.slotOf, hfree, Option.map_none] at this
          exact this
        refine .inr ⟨hfree, ?_⟩
        rw [perform_bind, perform_get]
        dsimp -zeta only
        rw [perform_bind]
        have hr := (keepsNames_holdingFor_named (d := d') m w₁.channels.size w₁).1
        rcases hh : perform w₁ (Act.holdingFor d' m w₁.channels.size) with ⟨e | h, w₂⟩
        · -- the kind failed: the reservation goes, and the names are the world's
          rw [hh] at hr
          obtain ⟨hn, hu⟩ := Prod.mk.inj hr
          dsimp only at hn hu
          refine ⟨some e, ?_, hu.symm, rfl⟩
          rw [Registry.finish_fresh_failed hslot]
          simp only [asRegistry, hn]
        · -- the kind built the channel: it takes the place of the reservation
          rw [hh] at hr
          obtain ⟨hn, hu⟩ := Prod.mk.inj hr
          dsimp only at hn hu
          refine ⟨none, ?_⟩
          dsimp only
          rw [perform_bind, perform_get]
          dsimp only
          rw [perform_bind, perform_modify]
          dsimp only
          have hlen : w₁.asRegistry.built.length = w₁.channels.size := by simp [asRegistry]
          rw [Registry.finish_fresh_built hslot, hlen]
          -- attaching the channel to its master touches no name
          cases m with
          | some mm =>
            rw [perform_bind, perform_modify]
            exact ⟨by simp [asRegistry, World.modify, hn], by simp [asRegistry, World.modify, hu], rfl⟩
          | none => exact ⟨by simp [asRegistry, hn], by simp [asRegistry, hu], rfl⟩
    -- however the name came, the registry reserves the name the world checks
    have named : ∀ (w₁ : World) (d' : Descriptor), w₁.names = w.names →
        w.asRegistry.reserveName d =
          (if (w.asRegistry.slotOf d'.name).isSome then
            (w₁.asRegistry,
              .error (Failure.config ("channel name " ++ Text.quote d'.name ++ " already in use")))
          else ({ w₁.asRegistry with slots := w₁.asRegistry.slots ++ [(d'.name, .reserved)] },
            .ok d'.name)) →
        ∃ f, let r := w.asRegistry.run (Registry.alone d master f)
          r.slots = (perform w₁ (jp d')).2.asRegistry.slots ∧
            r.unnamed = (perform w₁ (jp d')).2.unnamed ∧
            r.creations = [.done (perform w₁ (jp d')).1] := by
      intro w₁ d' hnames hres
      have hlookup : w.lookup d'.name = w₁.lookup d'.name := by simp [lookup, hnames]
      rcases tail d' w₁ with ⟨taken, hjp⟩ | ⟨free, f, hf⟩
      · refine ⟨none, ?_⟩
        rw [hjp]
        rw [if_pos (by rw [asRegistry_slotOf, Option.isSome_map, hlookup]; exact taken)] at hres
        rw [Registry.run_alone_of_refused rfl (hget ▸ hm) (by rw [hres]), hres]
        exact ⟨rfl, rfl, rfl⟩
      · refine ⟨f, ?_⟩
        rw [if_neg (by rw [asRegistry_slotOf, hlookup, free]; simp)] at hres
        rw [Registry.run_alone_of_reserved rfl (hget ▸ hm) (by rw [hres]), hres]
        obtain ⟨hslots, hcount, hresult⟩ := hf
        exact ⟨hslots, hcount, congrArg (fun x => [Creation.done x]) hresult⟩
    split
    · -- an unknown scheme: refused before anything changes
      rename_i unknown
      refine ⟨none, ?_⟩
      rw [perform_bind, perform_throw]
      have hres : (w.asRegistry.reserveName d).2 =
          .error (Failure.config ("unknown scheme " ++ Text.quote d.scheme)) := by
        unfold Registry.reserveName
        rw [if_pos unknown]
      have hkeep : (w.asRegistry.reserveName d).1 = w.asRegistry := by
        unfold Registry.reserveName
        rw [if_pos unknown]
      rw [Registry.run_alone_of_refused rfl (hget ▸ hm) hres, hkeep]
      exact ⟨rfl, rfl, rfl⟩
    · rename_i known
      simp only [jp₀]
      split
      · -- the world counts on, and the descriptor carries the name the registry generates
        rename_i empty
        rw [perform_bind, perform_get]
        dsimp only
        rw [perform_bind, perform_modify]
        dsimp only
        rw [perform_bind, perform_pure]
        exact named _ _ rfl (Registry.reserveName_unnamed known empty)
      · rename_i given
        rw [perform_bind, perform_pure]
        exact named _ _ rfl (Registry.reserveName_named known given)


/-! ### Releasing -/

theorem asRegistry_built_getElem? (w : World) (i : Nat) :
    w.asRegistry.built[i]? = (w.get? i).map Channel.name := by
  simp [asRegistry, get?]

theorem asRegistry_eq {w w' : World} (hn : w'.names = w.names) (hu : w'.unnamed = w.unnamed)
    (hb : ∀ i, (w'.get? i).map Channel.name = (w.get? i).map Channel.name) :
    w'.asRegistry = w.asRegistry := by
  have hbuilt : w'.asRegistry.built = w.asRegistry.built :=
    List.ext_getElem? fun i => by rw [asRegistry_built_getElem?, asRegistry_built_getElem?, hb]
  simp only [asRegistry] at hbuilt ⊢
  rw [hn, hu, hbuilt]

theorem asRegistry_modify (w : World) (id : ChannelId) (f : Channel → Channel)
    (hf : ∀ c, (f c).name = c.name) : (w.modify id f).asRegistry = w.asRegistry := by
  refine asRegistry_eq rfl rfl fun i => ?_
  rw [get?_modify]
  split
  · cases w.get? i <;> simp [hf]
  · rfl

theorem asRegistry_notify (w : World) (id : ChannelId) (states : List LifeState) :
    (w.notify id states).asRegistry = w.asRegistry := by
  unfold notify
  induction states generalizing w with
  | nil => rfl
  | cons s rest ih => exact (ih _).trans (asRegistry_modify w id _ fun _ => rfl)

theorem asRegistry_move (w : World) (id : ChannelId) (f : Cycle → Cycle × List LifeState) :
    (w.move id f).asRegistry = w.asRegistry := by
  unfold move
  split
  · exact (asRegistry_notify _ _ _).trans (asRegistry_modify w id _ fun _ => rfl)
  · rfl

theorem asRegistry_setHolding (w : World) (id : ChannelId) (h : Holding) :
    (w.setHolding id h).asRegistry = w.asRegistry :=
  asRegistry_modify w id _ fun _ => rfl

theorem asRegistry_takeDown (w : World) (id : ChannelId) :
    (w.takeDown id).asRegistry = w.asRegistry := by
  unfold takeDown
  -- every kind only sets what its channel or its server holds, or drops jobs or a port
  repeat' split
  all_goals first | rfl | exact asRegistry_setHolding w _ _

theorem asRegistry_close (w : World) (id : ChannelId) : (w.close id).asRegistry = w.asRegistry :=
  closeEach_preserves (Q := fun w' => w'.asRegistry = w.asRegistry) (P := fun _ => True)
    (fun w' y h _ _ => (asRegistry_move w' y _).trans h)
    (fun w' y h _ => ((asRegistry_move _ y _).trans (asRegistry_takeDown w' y)).trans h)
    (fun _ _ _ _ _ _ => trivial) _ [id] w rfl (fun _ _ => trivial)

theorem erase_map_held (names : List (String × ChannelId)) (n : String) :
    Registry.erase (names.map fun p => (p.1, Slot.held p.2)) n =
      (names.filter (·.1 != n)).map fun p => (p.1, Slot.held p.2) := by
  simp only [Registry.erase, List.filter_map]
  rfl

theorem asRegistry_detach (w : World) (id : ChannelId) :
    (w.detach id).asRegistry = w.asRegistry.forget id := by
  unfold detach
  split
  · rename_i hnone
    simp [Registry.forget, asRegistry_built_getElem?, hnone]
  · rename_i c hc
    extract_lets w₁ w₂
    have h₁ : w₁.asRegistry = w.asRegistry := by
      simp only [w₁]
      split
      · exact asRegistry_modify _ _ _ fun _ => rfl
      · rfl
    have hbuilt : w.asRegistry.built[id]? = some c.name := by
      rw [asRegistry_built_getElem?, hc]
      rfl
    -- the registry reads the channel's name by its number, and the world drops that name
    have h₂ : w₂.asRegistry = w.asRegistry.forget id := by
      have hget : w.asRegistry.get c.name = w₁.lookup c.name := by
        rw [← asRegistry_get, h₁]
      simp only [w₂, Registry.forget, hbuilt, hget]
      split
      · rename_i holds
        rw [if_pos (by simpa using holds), ← h₁]
        simp only [asRegistry, erase_map_held]
      · rename_i other
        rw [if_neg (by simpa using other), h₁]
    -- what is left only hands the second end of a direct pair back its place
    rw [← h₂]
    repeat' split
    all_goals first | rfl | exact asRegistry_setHolding w₂ _ _

theorem asRegistry_release (w : World) (id : ChannelId) :
    (w.release id).asRegistry = w.asRegistry.forget id := by
  rw [release, asRegistry_detach, asRegistry_close]

theorem lookup_release_of_ne (w : World) (id : ChannelId) (n : String) (h : w.lookup n ≠ some id) :
    (w.release id).lookup n = w.lookup n := by
  rw [← asRegistry_get, ← asRegistry_get, asRegistry_release]
  exact Registry.get_forget_of_ne (by rwa [asRegistry_get])

end World

end ChannelMux
