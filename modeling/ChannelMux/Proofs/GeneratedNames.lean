import ChannelMux.Proofs.ServerRoutes
import ChannelMux.Proofs.NumberText

/-! The names a world generates for unnamed channels. -/

namespace ChannelMux

open Session World

variable {α β : Type} {w : World} {d : Descriptor}

/-! ### Generated names spell their scheme and count -/

/-- The failure of a creation whose name is registered already. -/
def Failure.nameInUse (name : String) : Failure :=
  Failure.config ("channel name " ++ Text.quote name ++ " already in use")

theorem Failure.ne_nameInUse_of_head {e : Failure} (h : e.message.toList.head? ≠ some 'c')
    (n : String) : e ≠ Failure.nameInUse n := by
  rintro rfl
  apply h
  simp [Failure.nameInUse, Failure.config, Failure.make, String.toList_append]

theorem Failure.plain_ne_nameInUse (t n : String) : Failure.plain t ≠ Failure.nameInUse n := by
  simp [Failure.plain, Failure.nameInUse, Failure.config, Failure.make]

theorem Failure.unknownScheme_ne_nameInUse (s n : String) :
    Failure.config ("unknown scheme " ++ Text.quote s) ≠ Failure.nameInUse n :=
  Failure.ne_nameInUse_of_head (by simp [Failure.config, Failure.make, String.toList_append]) n

theorem Failure.within_ne_nameInUse {name : String} (hne : name ≠ "")
    (hc : name.toList.head? ≠ some 'c') (f : Failure) (n : String) :
    f.within name ≠ Failure.nameInUse n := by
  apply Failure.ne_nameInUse_of_head
  obtain ⟨x, xs, hx⟩ := List.exists_cons_of_ne_nil (String.toList_eq_nil_iff.not.mpr hne)
  rw [hx, List.head?_cons, ne_eq, Option.some.injEq] at hc
  simp [Failure.within, hne, String.toList_append, hx, hc]

theorem toString_isDigit (k : Nat) : ∀ c ∈ (toString k).toList, c.isDigit := by
  intro c hc
  rw [Nat.toString_eq_repr, Nat.toList_repr] at hc
  obtain ⟨d, small, rfl⟩ := Text.mem_toDigits hc
  obtain ⟨isDigit, -⟩ := Text.digitChar_facts d small
  simpa [Char.isDigit, Char.le_def] using isDigit

theorem toString_injective : Function.Injective (toString : Nat → String) := by
  intro k k' same
  have digits : Nat.toDigits 10 k = Nat.toDigits 10 k' := by
    simpa only [Nat.toString_eq_repr, Nat.toList_repr] using congrArg String.toList same
  calc k = Nat.ofDigitChars 10 (Nat.toDigits 10 k) 0 := Nat.ofDigitChars_ten_toDigits.symm
    _ = Nat.ofDigitChars 10 (Nat.toDigits 10 k') 0 := by rw [digits]
    _ = k' := Nat.ofDigitChars_ten_toDigits

theorem knownSchemes_no_digit : ∀ s ∈ knownSchemes, ∀ c ∈ s.toList, ¬ c.isDigit := by
  simp [knownSchemes, Char.isDigit]

theorem knownSchemes_head : ∀ s ∈ knownSchemes, s ≠ "" ∧ s.toList.head? ≠ some 'c' := by
  decide

theorem append_digits_inj {s s' t t' : List Char} (hs : ∀ c ∈ s, ¬ c.isDigit)
    (hs' : ∀ c ∈ s', ¬ c.isDigit) (ht : ∀ c ∈ t, c.isDigit) (ht' : ∀ c ∈ t', c.isDigit)
    (h : s ++ t = s' ++ t') : s = s' ∧ t = t' := by
  -- the longer text without digits would reach into the other's digits
  rcases List.append_eq_append_iff.mp h with ⟨a, rfl, rfl⟩ | ⟨a, rfl, rfl⟩
  · cases a with
    | nil => simp
    | cons c a => exact absurd (ht c (by simp)) (hs' c (by simp))
  · cases a with
    | nil => simp
    | cons c a => exact absurd (ht' c (by simp)) (hs c (by simp))

theorem generated_name_inj {s s' : String} (hs : s ∈ knownSchemes) (hs' : s' ∈ knownSchemes)
    {k k' : Nat} (h : s ++ toString k = s' ++ toString k') : s = s' ∧ k = k' := by
  have hl := congrArg String.toList h
  simp only [String.toList_append] at hl
  obtain ⟨hss, hkk⟩ := append_digits_inj (knownSchemes_no_digit s hs)
    (knownSchemes_no_digit s' hs') (toString_isDigit k) (toString_isDigit k') hl
  exact ⟨String.toList_inj.mp hss, toString_injective (String.toList_inj.mp hkk)⟩

theorem generated_name_head {s : String} (hs : s ∈ knownSchemes) (k : Nat) :
    s ++ toString k ≠ "" ∧ (s ++ toString k).toList.head? ≠ some 'c' := by
  obtain ⟨hne, hc⟩ := knownSchemes_head s hs
  obtain ⟨x, xs, hx⟩ := List.exists_cons_of_ne_nil (String.toList_eq_nil_iff.not.mpr hne)
  rw [hx, List.head?_cons, ne_eq, Option.some.injEq] at hc
  refine ⟨fun h => ?_, by simp [String.toList_append, hx, hc]⟩
  have hl := congrArg String.toList h
  simp [String.toList_append, hx] at hl

theorem ne_generated_of_no_digit {name : String} (h : ∀ c ∈ name.toList, ¬ c.isDigit)
    (s : String) (k : Nat) : name ≠ s ++ toString k := by
  rintro rfl
  obtain ⟨c, cs, hc⟩ := List.exists_cons_of_ne_nil (Nat.toDigits_ne_nil (b := 10) (n := k))
  have hk : c ∈ (toString k).toList := by simp [Nat.toString_eq_repr, Nat.toList_repr, hc]
  have hs : c ∈ (s ++ toString k).toList := by
    rw [String.toList_append]
    exact List.mem_append_right _ hk
  exact h c hs (toString_isDigit k c hk)

/-! ### Operations that leave the registry alone -/

namespace World

/-- The registry of a world: the names of its channels and its count of unnamed creations. -/
def registry (w : World) : List (String × ChannelId) × Nat := (w.names, w.unnamed)

theorem registry_notify (id : ChannelId) (states : List LifeState) (w : World) :
    (w.notify id states).registry = w.registry := by
  induction states generalizing w with
  | nil => rfl
  | cons s rest ih => exact ih _

theorem registry_move (id : ChannelId) (f : Cycle → Cycle × List LifeState) (w : World) :
    (w.move id f).registry = w.registry := by
  unfold move
  split
  · exact registry_notify _ _ _
  · rfl

theorem registry_takeDown (id : ChannelId) (w : World) : (w.takeDown id).registry = w.registry := by
  unfold takeDown
  repeat' split
  all_goals rfl

theorem registry_close (id : ChannelId) (w : World) : (w.close id).registry = w.registry :=
  closeEach_preserves (Q := fun w' => w'.registry = w.registry) (P := fun _ => True)
    (fun w' y h _ _ => (registry_move y _ w').trans h)
    (fun w' y h _ => ((registry_move y _ _).trans (registry_takeDown y w')).trans h)
    (fun _ _ _ _ _ _ => trivial) _ [id] w rfl (fun _ _ => trivial)

end World

/-- The operation leaves the registry as it is, and every failure it raises satisfies `P`. -/
def KeepsNames (P : Failure → Prop) (a : Act α) : Prop :=
  ∀ w, (perform w a).2.registry = w.registry ∧ ∀ e, (perform w a).1 = .error e → P e

namespace KeepsNames

variable {P : Failure → Prop}

theorem bind {a : Act α} {f : α → Act β} (ha : KeepsNames P a) (hf : ∀ x, KeepsNames P (f x)) :
    KeepsNames P (a >>= f) := by
  intro w
  rw [perform_bind]
  obtain ⟨hr, he⟩ := ha w
  rcases hp : perform w a with ⟨_ | x, w'⟩
  · rw [hp] at hr he
    dsimp only
    exact ⟨hr, fun e h => by cases h; exact he _ rfl⟩
  · rw [hp] at hr
    obtain ⟨hr', he'⟩ := hf x w'
    exact ⟨hr'.trans hr, he'⟩

theorem pure (x : α) : KeepsNames P (pure x : Act α) := fun _ => ⟨rfl, fun _ h => by cases h⟩

theorem throw {e : Failure} (h : P e) : KeepsNames P (throw e : Act α) :=
  fun _ => ⟨rfl, fun _ he => by cases he; exact h⟩

theorem get : KeepsNames P (get : Act World) := fun _ => ⟨rfl, fun _ h => by cases h⟩

theorem modify {f : World → World} (hf : ∀ w, (f w).registry = w.registry) :
    KeepsNames P (modify f : Act Unit) := fun w => ⟨hf w, fun _ h => by cases h⟩

theorem ofExcept {r : Except Failure α} (h : ∀ e, r = .error e → P e) :
    KeepsNames P (Act.ofExcept r) := fun w => by
  rw [perform_ofExcept]
  exact ⟨rfl, h⟩

theorem named {name : String} (r : Except Failure α) (h : ∀ f : Failure, P (f.within name)) :
    KeepsNames P (Act.named name r) := by
  refine ofExcept fun e he => ?_
  cases r with
  | error f => cases he; exact h f
  | ok _ => cases he

theorem need (x : ChannelId) (h : P (Failure.plain ("no channel number " ++ toString x))) :
    KeepsNames P (Act.need x) := fun w => by
  cases hc : w.get? x with
  | none => rw [perform_need_none hc]; exact ⟨rfl, fun e he => by cases he; exact h⟩
  | some c => rw [perform_need hc]; exact ⟨rfl, fun e he => by cases he⟩

end KeepsNames

theorem listenAddress_ne_nameInUse {host : String} {e : Failure}
    (h : Socket.listenAddress host = .error e) (n : String) : e ≠ Failure.nameInUse n := by
  unfold Socket.listenAddress at h
  dsimp only at h
  split at h
  · cases h
    exact Failure.ne_nameInUse_of_head
      (by simp [Failure.config, Failure.make, String.toList_append]) n
  · cases h

theorem keepsNames_holdingFor {P : Failure → Prop} (master : Option ChannelId) (id : ChannelId)
    (within : ∀ f : Failure, P (f.within d.name)) (plain : ∀ t, P (Failure.plain t))
    (listen : ∀ e, Socket.listenAddress d.host = .error e → P e)
    (unknown : P (Failure.config ("unknown scheme " ++ Text.quote d.scheme))) :
    KeepsNames P (Act.holdingFor d master id) := by
  unfold Act.holdingFor
  dsimp only
  split
  · -- a direct end: its queue size, then the master it pairs with
    refine (KeepsNames.named _ within).bind fun _ => ?_
    split
    · exact KeepsNames.pure _
    · refine (KeepsNames.need _ (plain _)).bind fun mc => ?_
      split
      · split
        · exact (KeepsNames.throw (within _)).bind fun _ =>
            (KeepsNames.modify fun _ => by rfl).bind fun _ => KeepsNames.pure _
        · exact (KeepsNames.modify fun _ => by rfl).bind fun _ => KeepsNames.pure _
      · exact KeepsNames.throw (within _)
  · split
    · -- a group: no master, then its engine options
      split
      · exact (KeepsNames.throw (within _)).bind fun _ =>
          (KeepsNames.named _ within).bind fun _ => KeepsNames.pure _
      · exact (KeepsNames.named _ within).bind fun _ => KeepsNames.pure _
    · split
      · -- a request channel: the group it joins, then its request options
        split
        · exact (KeepsNames.pure _).bind fun _ =>
            (KeepsNames.named _ within).bind fun _ => KeepsNames.pure _
        · refine (KeepsNames.need _ (plain _)).bind fun c => ?_
          split
          · exact (KeepsNames.pure _).bind fun _ =>
              (KeepsNames.named _ within).bind fun _ => KeepsNames.pure _
          · exact (KeepsNames.throw (within _)).bind fun _ =>
              (KeepsNames.named _ within).bind fun _ => KeepsNames.pure _
      · split
        · -- a ws channel: its mode, then the address it listens on or the client's options
          refine (KeepsNames.named _ within).bind fun mode => ?_
          split
          · split
            · exact (KeepsNames.throw (within _)).bind fun _ =>
                (KeepsNames.ofExcept listen).bind fun _ => KeepsNames.pure _
            · exact (KeepsNames.ofExcept listen).bind fun _ =>
                KeepsNames.pure _
          · exact (KeepsNames.named _ within).bind fun _ => KeepsNames.pure _
        · split
          · -- a node: its settings, then its listening master and its pattern
            refine (KeepsNames.named _ within).bind fun settings => ?_
            split
            · refine (KeepsNames.need _ (plain _)).bind fun c => ?_
              split
              · exact (KeepsNames.pure _).bind fun _ =>
                  (KeepsNames.named _ within).bind fun _ => KeepsNames.pure _
              · exact (KeepsNames.throw (within _)).bind fun _ =>
                  (KeepsNames.named _ within).bind fun _ => KeepsNames.pure _
            · exact (KeepsNames.throw (within _)).bind fun _ =>
                (KeepsNames.named _ within).bind fun _ => KeepsNames.pure _
          · exact KeepsNames.throw unknown

theorem keepsNames_holdingFor_named (master : Option ChannelId) (id : ChannelId) :
    KeepsNames (fun e => d.name ≠ "" → d.name.toList.head? ≠ some 'c' →
      ∀ n, e ≠ Failure.nameInUse n) (Act.holdingFor d master id) :=
  keepsNames_holdingFor master id (fun f hne hc => Failure.within_ne_nameInUse hne hc f)
    (fun t _ _ => Failure.plain_ne_nameInUse t) (fun _ h _ _ => listenAddress_ne_nameInUse h)
    (fun _ _ => Failure.unknownScheme_ne_nameInUse d.scheme)

theorem keepsNames_resolveMaster (d : Descriptor) (master : Option ChannelId) :
    KeepsNames (fun e => ∀ n, e ≠ Failure.nameInUse n) (Act.resolveMaster d master) :=
  KeepsNames.get.bind fun _ => KeepsNames.ofExcept fun e he n => by
    obtain ⟨name, -, rfl⟩ := Descriptor.masterIn_eq_error he
    simp [Failure.nameInUse, Failure.config, Failure.make]

theorem keepsNames_move (id : ChannelId) (f : Cycle → Cycle × List LifeState) :
    KeepsNames (fun _ => True) (Act.move id f) :=
  KeepsNames.modify fun w => registry_move id f w

theorem keepsNames_groupEngine (g : ChannelId) :
    KeepsNames (fun _ => True) (Act.groupEngine g) := by
  unfold Act.groupEngine
  dsimp only
  refine (KeepsNames.need _ trivial).bind fun gc => ?_
  split
  · exact (KeepsNames.throw trivial).bind fun _ => by
      split
      · exact KeepsNames.pure _
      · exact KeepsNames.throw trivial
  · split
    · exact KeepsNames.pure _
    · exact KeepsNames.throw trivial

theorem keepsNames_startExchange (id : ChannelId) (addr : Int) (r : Http.Outgoing) :
    KeepsNames (fun _ => True) (Act.startExchange id addr r) := by
  unfold Act.startExchange
  refine (KeepsNames.need _ trivial).bind fun c => ?_
  split
  · refine KeepsNames.get.bind fun w₀ => ?_
    dsimp only
    split
    · exact KeepsNames.modify fun _ => by rfl
    · exact KeepsNames.throw trivial
  · exact KeepsNames.throw trivial

theorem keepsNames_bringUp (id : ChannelId) (d : Descriptor) :
    KeepsNames (fun _ => True) (Act.bringUp id d) := by
  have publish : ∀ x k v, KeepsNames (fun _ => True) (Act.publish x k v) :=
    fun _ _ _ => KeepsNames.modify fun _ => by rfl
  unfold Act.bringUp
  refine (KeepsNames.need _ trivial).bind fun c => ?_
  split
  · exact (KeepsNames.ofExcept fun _ _ => trivial).bind fun _ =>
      (KeepsNames.modify fun _ => by rfl).bind fun _ => publish _ _ _
  · exact (KeepsNames.ofExcept fun _ _ => trivial).bind fun _ =>
      (KeepsNames.modify fun _ => by rfl).bind fun _ => publish _ _ _
  · -- a request channel: its options and engine, then the exchange of an autoclose channel
    refine (KeepsNames.ofExcept fun _ _ => trivial).bind fun o => ?_
    have autoclose : KeepsNames (fun _ => True) (if o.autoclose = true then do
        Act.move id Cycle.activate
        Act.startExchange id 0 {}
      else pure ()) := by
      split
      · exact (keepsNames_move _ _).bind fun _ => keepsNames_startExchange _ _ _
      · exact KeepsNames.pure _
    dsimp only
    split
    · refine (KeepsNames.ofExcept fun _ _ => trivial).bind fun _ =>
        (KeepsNames.pure _).bind fun _ => ?_
      refine (KeepsNames.modify fun _ => by rfl).bind fun _ => (publish _ _ _).bind fun _ =>
        (publish _ _ _).bind fun _ => (publish _ _ _).bind fun _ => ?_
      split
      · exact (publish _ _ _).bind fun _ => autoclose
      · exact autoclose
    · refine (keepsNames_groupEngine _).bind fun _ => (KeepsNames.pure _).bind fun _ => ?_
      refine (KeepsNames.modify fun _ => by rfl).bind fun _ => (publish _ _ _).bind fun _ =>
        (publish _ _ _).bind fun _ => (publish _ _ _).bind fun _ => ?_
      split
      · exact (publish _ _ _).bind fun _ => autoclose
      · exact autoclose
  · -- a listening channel: its address and options, then the port it binds
    refine (KeepsNames.ofExcept fun _ _ => trivial).bind fun _ =>
      (KeepsNames.ofExcept fun _ _ => trivial).bind fun _ =>
        (KeepsNames.ofExcept fun _ _ => trivial).bind fun _ => KeepsNames.get.bind fun _ => ?_
    split
    · exact (KeepsNames.modify fun _ => by rfl).bind fun _ => KeepsNames.modify fun _ => by rfl
    · exact KeepsNames.throw trivial
  · -- a node: its settings, then its pattern registered with its listening master
    refine (KeepsNames.ofExcept fun _ _ => trivial).bind fun _ =>
      (KeepsNames.modify fun _ => by rfl).bind fun _ => (KeepsNames.need _ trivial).bind fun sc => ?_
    split
    · exact (KeepsNames.ofExcept fun _ _ => trivial).bind fun _ =>
        KeepsNames.modify fun _ => by rfl
    · exact KeepsNames.throw trivial
  · -- a client: its options, then the dial it schedules
    exact (KeepsNames.ofExcept fun _ _ => trivial).bind fun _ =>
      (KeepsNames.modify fun _ => by rfl).bind fun _ =>
        (KeepsNames.need _ trivial).bind fun _ => KeepsNames.modify fun _ => by rfl

theorem World.registry_openWith (id : ChannelId) (extra : Options) (w : World) :
    (perform w (Act.openWith id extra)).2.registry = w.registry := by
  rcases openWith_cases id extra w with same | ⟨c, d, -, -, opened⟩
  · rw [same]
  · have begun : ((w.modify id fun c => { c with config := d, info := Options.empty }).move id
        Cycle.beginOpen).registry = w.registry := registry_move _ _ _
    have brought := (keepsNames_bringUp id d
      ((w.modify id fun c => { c with config := d, info := Options.empty }).move id Cycle.beginOpen)).1
    rw [opened]
    split
    all_goals
      rename_i hb
      rw [hb] at brought
      rw [registry_move, brought, begun]

theorem World.registry_detach (id : ChannelId) (w : World) :
    (w.detach id).unnamed = w.unnamed ∧ ∀ p ∈ (w.detach id).names, p ∈ w.names := by
  unfold detach
  split
  · exact ⟨rfl, fun _ h => h⟩
  · extract_lets w₁ w₂
    have h₁ : w₁.registry = w.registry := by
      simp only [w₁]
      split <;> rfl
    have h₂ : w₂.unnamed = w₁.unnamed ∧ ∀ p ∈ w₂.names, p ∈ w₁.names := by
      simp only [w₂]
      split
      · exact ⟨rfl, fun p hp => (List.mem_filter.mp hp).1⟩
      · exact ⟨rfl, fun _ h => h⟩
    -- what is left only hands the second end of a direct pair back its place
    have trims : ∀ w' : World, w'.registry = w₂.registry →
        w'.unnamed = w.unnamed ∧ ∀ p ∈ w'.names, p ∈ w.names := by
      intro w' h'
      obtain ⟨hn, hu⟩ := Prod.mk.inj h'
      obtain ⟨hn₁, hu₁⟩ := Prod.mk.inj h₁
      exact ⟨hu.trans (h₂.1.trans hu₁), fun p hp => hn₁ ▸ h₂.2 p (hn ▸ hp)⟩
    apply trims
    repeat' split
    all_goals rfl

/-! ### What a creation does to the registry -/

namespace World

theorem lookup_eq_none_iff {name : String} :
    w.lookup name = none ↔ ∀ p ∈ w.names, p.1 ≠ name := by
  simp [lookup, List.find?_eq_none]

/-- What a creation of `d` does to the registry, from `w` to `w'`. -/
structure Renames (d : Descriptor) (w w' : World) : Prop where
  counter : w'.unnamed = w.unnamed ∨
    d.name = "" ∧ d.scheme ∈ knownSchemes ∧ w'.unnamed = w.unnamed + 1
  names : ∀ p ∈ w'.names, p ∈ w.names ∨ d.name ≠ "" ∧ p.1 = d.name ∨
    d.name = "" ∧ d.scheme ∈ knownSchemes ∧ p.1 = d.scheme ++ toString w'.unnamed

end World

theorem create_spec (d : Descriptor) (master : Option ChannelId) (w : World) :
    Renames d w (perform w (Act.create d master)).2 ∧
      (d.name = "" → ∀ n, (perform w (Act.create d master)).1 = .error (Failure.nameInUse n) →
        d.scheme ∈ knownSchemes ∧ (w.lookup (d.scheme ++ toString (w.unnamed + 1))).isSome) := by
  unfold Act.create
  rw [perform_bind]
  have hrm := reads_resolveMaster d master w
  rcases hp : perform w (Act.resolveMaster d master) with ⟨e | m, w₀⟩
  · have he := (keepsNames_resolveMaster d master w).2
    rw [hp] at hrm he
    subst hrm
    refine ⟨⟨.inl rfl, fun p hp => .inl hp⟩, fun _ n hr => ?_⟩
    exact absurd (Except.error.inj hr) (he _ rfl n)
  · rw [hp] at hrm
    subst hrm
    dsimp -zeta only
    extract_lets jp jp₀
    -- after naming, the registry gains at most the name, and refuses it when it is taken
    have tail : ∀ (d' : Descriptor) (w₁ : World),
        (perform w₁ (jp d')).2.unnamed = w₁.unnamed ∧
          (∀ p ∈ (perform w₁ (jp d')).2.names, p ∈ w₁.names ∨ p.1 = d'.name) ∧
          (d'.name ≠ "" → d'.name.toList.head? ≠ some 'c' → ∀ n,
            (perform w₁ (jp d')).1 = .error (Failure.nameInUse n) →
              (w₁.lookup d'.name).isSome) := by
      intro d' w₁
      simp only [jp]
      rw [perform_bind, perform_get]
      dsimp only
      split
      · rename_i taken
        rw [perform_bind, perform_throw]
        exact ⟨rfl, fun p hp => .inl hp, fun _ _ _ _ => taken⟩
      · rw [perform_bind, perform_get]
        dsimp -zeta only
        rw [perform_bind]
        obtain ⟨hr, he⟩ := keepsNames_holdingFor_named m w₁.channels.size w₁
        rcases hh : perform w₁ (Act.holdingFor d' m w₁.channels.size) with ⟨e | h, w₂⟩
        · rw [hh] at hr he
          obtain ⟨hn, hu⟩ := Prod.mk.inj hr
          refine ⟨hu, fun p hp => .inl (hn ▸ hp), fun hne hc n hr => ?_⟩
          cases hr
          exact absurd rfl (he _ rfl hne hc n)
        · rw [hh] at hr
          obtain ⟨hn, hu⟩ := Prod.mk.inj hr
          dsimp only
          rw [perform_bind, perform_get]
          dsimp only
          rw [perform_bind, perform_modify]
          dsimp only
          have registered : ∀ p ∈ w₂.names ++ [(d'.name, w₁.channels.size)],
              p ∈ w₁.names ∨ p.1 = d'.name := by
            intro p hp
            rcases List.mem_append.mp hp with hp | hp
            · exact .inl (hn ▸ hp)
            · exact .inr (by rw [List.mem_singleton.mp hp])
          cases m with
          | some mm =>
            rw [perform_bind, perform_modify]
            exact ⟨hu, registered, fun _ _ _ hr => by cases hr⟩
          | none => exact ⟨hu, registered, fun _ _ _ hr => by cases hr⟩
    split
    · -- an unknown scheme
      rw [perform_bind, perform_throw]
      refine ⟨⟨.inl rfl, fun p hp => .inl hp⟩, fun _ n hr => ?_⟩
      exact absurd (Except.error.inj hr) (Failure.unknownScheme_ne_nameInUse d.scheme n)
    · rename_i known
      have hs : d.scheme ∈ knownSchemes := by simpa using known
      simp only [jp₀]
      split
      · -- without a name, the count goes up and names the channel
        rename_i empty
        have hd : d.name = "" := String.isEmpty_iff.mp empty
        rw [perform_bind, perform_get]
        dsimp only
        rw [perform_bind, perform_modify]
        dsimp only
        rw [perform_bind, perform_pure]
        obtain ⟨hu, hn, he⟩ := tail _ _
        obtain ⟨hne, hc⟩ := generated_name_head hs (w₀.unnamed + 1)
        refine ⟨⟨.inr ⟨hd, hs, hu⟩, fun p hp => ?_⟩, fun _ n hr => ⟨hs, he hne hc n hr⟩⟩
        rcases hn p hp with h | h
        · exact .inl h
        · exact .inr (.inr ⟨hd, hs, by rw [h, hu]⟩)
      · rename_i named
        have hd : d.name ≠ "" := fun h => named (String.isEmpty_iff.mpr h)
        rw [perform_bind, perform_pure]
        obtain ⟨hu, hn, -⟩ := tail d w₀
        refine ⟨⟨.inl hu, fun p hp => ?_⟩, fun h => absurd h hd⟩
        rcases hn p hp with h | h
        · exact .inl h
        · exact .inr (.inl ⟨hd, h⟩)

/-! ### Generated names are free -/

namespace World

/-- Every registered name that spells a known scheme followed by a count spells a count the
counter has reached. -/
def CountsAhead (w : World) : Prop :=
  ∀ p ∈ w.names, ∀ s ∈ knownSchemes, ∀ k, p.1 = s ++ toString k → k ≤ w.unnamed

namespace CountsAhead

theorem empty : CountsAhead {} := fun _ hp => by cases hp

theorem of_trim {w' : World} (h : w.CountsAhead) (hu : w.unnamed ≤ w'.unnamed)
    (hn : ∀ p ∈ w'.names, p ∈ w.names) : w'.CountsAhead :=
  fun p hp s hs k hk => (h p (hn p hp) s hs k hk).trans hu

theorem of_registry {w' : World} (h : w.CountsAhead) (hr : w'.registry = w.registry) :
    w'.CountsAhead := by
  obtain ⟨hn, hu⟩ := Prod.mk.inj hr
  exact h.of_trim hu.ge fun p hp => hn ▸ hp

theorem lookup_next {s : String} (h : w.CountsAhead) (hs : s ∈ knownSchemes) :
    w.lookup (s ++ toString (w.unnamed + 1)) = none :=
  lookup_eq_none_iff.mpr fun p hp same => absurd (h p hp s hs _ same) (by omega)

theorem create (h : w.CountsAhead) (master : Option ChannelId)
    (apart : ∀ s ∈ knownSchemes, ∀ k, w.unnamed < k → d.name ≠ s ++ toString k) :
    (perform w (Act.create d master)).2.CountsAhead := by
  obtain ⟨counter, names⟩ := (create_spec d master w).1
  have hu : w.unnamed ≤ (perform w (Act.create d master)).2.unnamed := by
    rcases counter with same | ⟨-, -, up⟩ <;> omega
  intro p hp s hs k hk
  rcases names p hp with old | ⟨-, own⟩ | ⟨-, hs', generated⟩
  · exact (h p old s hs k hk).trans hu
  · -- the descriptor's own name spells a count the counter had reached
    by_contra far
    exact apart s hs k (by omega) (own.symm.trans hk)
  · -- the generated name spells the new count
    exact ((generated_name_inj hs hs' (hk.symm.trans generated)).2).le

end CountsAhead

/-- Worlds reached from the empty one by creations, opens, closes and releases, where no creation is
given a name that spells a known scheme followed by a count the counter has not reached yet. -/
inductive NamedApart : World → Prop
  | empty : NamedApart {}
  | create {w : World} (d : Descriptor) (master : Option ChannelId)
      (apart : ∀ s ∈ knownSchemes, ∀ k, w.unnamed < k → d.name ≠ s ++ toString k) :
      NamedApart w → NamedApart (perform w (Act.create d master)).2
  | openWith {w : World} (id : ChannelId) (extra : Options) :
      NamedApart w → NamedApart (perform w (Act.openWith id extra)).2
  | close {w : World} (id : ChannelId) : NamedApart w → NamedApart (w.close id)
  | release {w : World} (id : ChannelId) : NamedApart w → NamedApart (w.release id)

theorem NamedApart.countsAhead (hw : w.NamedApart) : w.CountsAhead := by
  induction hw with
  | empty => exact .empty
  | create d master apart _ ih => exact ih.create master apart
  | openWith id extra _ ih => exact ih.of_registry (registry_openWith id extra _)
  | close id _ ih => exact ih.of_registry (registry_close id _)
  | @release w id _ ih =>
    -- a release closes, which keeps the registry, then drops the channel's name at most
    have closed := ih.of_registry (registry_close id w)
    obtain ⟨hu, hn⟩ := registry_detach id (w.close id)
    exact closed.of_trim hu.ge hn

end World

/-- In a world whose creations never named a channel with a count still to come, a creation
without a name never fails with the in-use error: the name it generates is free. -/
theorem unnamed_creation_finds_its_name_free (hw : w.NamedApart) (hd : d.name = "")
    (master : Option ChannelId) (n : String) :
    (perform w (Act.create d master)).1 ≠ .error (Failure.nameInUse n) := by
  intro failed
  obtain ⟨hs, taken⟩ := (create_spec d master w).2 hd n failed
  rw [hw.countsAhead.lookup_next hs] at taken
  cases taken

/-- A creation without a name after a channel named `a` by hand. -/
theorem unnamed_creation_after_named_one :
    let named : Descriptor :=
      ⟨"direct://;name=a", "direct", "direct", "", "", "a", .no, Options.empty.insert "name" "a"⟩
    let unnamed : Descriptor := ⟨"direct://", "direct", "direct", "", "", "", .no, .empty⟩
    let w := (perform {} (Act.create named none)).2
    w.NamedApart ∧ unnamed.name = "" ∧
      (perform w (Act.create unnamed none)).1 ≠ .error (Failure.nameInUse "direct1") := by
  intro named unnamed w
  have plain : ∀ c ∈ named.name.toList, ¬ c.isDigit := by simp [named, Char.isDigit]
  have hw : w.NamedApart :=
    .create named none (fun s _ k _ => ne_generated_of_no_digit plain s k) .empty
  exact ⟨hw, rfl, unnamed_creation_finds_its_name_free hw rfl none "direct1"⟩

/-- A channel named `direct1` by hand takes the name the first unnamed `direct://` channel
generates, and that creation fails with the in-use error. -/
theorem explicit_name_takes_generated_name :
    let w := (perform {} (Act.createFrom "direct://;name=direct1" .empty none)).2
    w.Reachable ∧ (perform w (Act.createFrom "direct://" .empty none)).1 =
      .error (Failure.nameInUse "direct1") :=
  ⟨.create _ _ _ .empty, by decide +kernel⟩

end ChannelMux
