import ChannelMux.World.Registry
import Mathlib.Data.List.Induction

/-! What the registry of a context keeps, however its creations and releases interleave. -/

namespace ChannelMux.Registry

/-! ### Slots -/

section Slots

variable {slots : List (String × Slot)} {name n : String} {s : Slot}

theorem lookup_cons_ne {k : String} {v : Slot} (h : n ≠ k) :
    ((k, v) :: slots).lookup n = slots.lookup n := by
  rw [List.lookup_cons, beq_eq_false_iff_ne.mpr h]

theorem lookup_put : (put slots name s).lookup n = if n = name then some s else slots.lookup n := by
  induction slots with
  | nil =>
    by_cases hn : n = name
    · subst hn
      simp [put, List.lookup_cons_self]
    · simp [put, hn, lookup_cons_ne]
  | cons p rest ih =>
    obtain ⟨k, v⟩ := p
    by_cases hk : k = name
    · subst hk
      by_cases hn : n = k
      · subst hn
        simp [put, List.lookup_cons_self]
      · simp [put, hn, lookup_cons_ne]
    · by_cases hn : n = k
      · subst hn
        simp [put, hk, List.lookup_cons_self]
      · simp [put, hk, hn, lookup_cons_ne, ih]

theorem keys_put_of_mem (h : name ∈ slots.map Prod.fst) :
    (put slots name s).map Prod.fst = slots.map Prod.fst := by
  induction slots with
  | nil => cases h
  | cons p rest ih =>
    by_cases hk : p.1 = name
    · simp [put, hk]
    · have hrest : name ∈ rest.map Prod.fst := by
        simp only [List.map_cons, List.mem_cons] at h
        exact h.resolve_left (Ne.symm hk)
      simp [put, hk, ih hrest]

theorem lookup_erase : (erase slots name).lookup n = if n = name then none else slots.lookup n := by
  induction slots with
  | nil => simp [erase]
  | cons p rest ih =>
    obtain ⟨k, v⟩ := p
    by_cases hk : k = name
    · subst hk
      simp only [erase] at ih ⊢
      by_cases hn : n = k
      · subst hn
        rw [List.filter_cons_of_neg (by simp), ih]
        simp
      · simp [hn, ih, lookup_cons_ne]
    · by_cases hn : n = k
      · subst hn
        simp [erase, hk, List.lookup_cons_self]
      · simp only [erase] at ih ⊢
        simp [hk, hn, lookup_cons_ne, ih]

theorem nodup_erase (h : (slots.map Prod.fst).Nodup) : ((erase slots name).map Prod.fst).Nodup :=
  h.sublist (List.filter_sublist.map _)

theorem lookup_append_fresh (h : slots.lookup name = none) :
    (slots ++ [(name, s)]).lookup n = if n = name then some s else slots.lookup n := by
  rw [List.lookup_append]
  by_cases hn : n = name
  · subst hn
    simp [h, List.lookup_cons_self]
  · simp [hn, lookup_cons_ne]

theorem nodup_append_fresh (h : (slots.map Prod.fst).Nodup) (hname : slots.lookup name = none) :
    ((slots ++ [(name, s)]).map Prod.fst).Nodup := by
  rw [List.map_append, List.nodup_append]
  refine ⟨h, by simp, ?_⟩
  intro a ha b hb hab
  obtain ⟨p, hp, rfl⟩ := List.mem_map.mp ha
  simp only [List.map_cons, List.map_nil, List.mem_singleton] at hb
  have hne := List.lookup_eq_none_iff.mp hname p hp
  simp_all

theorem erase_append_fresh (h : slots.lookup name = none) : erase (slots ++ [(name, s)]) name = slots := by
  have keep : slots.filter (·.1 != name) = slots := List.filter_eq_self.mpr fun p hp => by
    have := List.lookup_eq_none_iff.mp h p hp
    simp only [bne_iff_ne, ne_eq] at this ⊢
    exact Ne.symm this
  simp [erase, List.filter_append, keep]

theorem erase_of_lookup (h : (slots.map Prod.fst).Nodup) (hs : slots.lookup name = some s) :
    ∃ l₁ l₂, slots = l₁ ++ (name, s) :: l₂ ∧ erase slots name = l₁ ++ l₂ := by
  obtain ⟨l₁, l₂, rfl, hl₁⟩ := List.lookup_eq_some_iff.mp hs
  refine ⟨l₁, l₂, rfl, ?_⟩
  have hl₂ : name ∉ l₂.map Prod.fst := by
    rw [List.map_append, List.map_cons, List.nodup_append, List.nodup_cons] at h
    exact h.2.1.1
  have keep₁ : l₁.filter (·.1 != name) = l₁ := List.filter_eq_self.mpr fun p hp => by
    have := hl₁ p hp
    simp only [bne_iff_ne, ne_eq] at this ⊢
    exact Ne.symm this
  have keep₂ : l₂.filter (·.1 != name) = l₂ := List.filter_eq_self.mpr fun p hp => by
    simp only [bne_iff_ne, ne_eq]
    rintro rfl
    exact hl₂ (List.mem_map_of_mem hp)
  simp [erase, List.filter_append, keep₁, keep₂]

end Slots

/-! ### Lookups and creations -/

variable {r r' : Registry} {name n : String} {id : ChannelId} {t t' : Nat} {d : Descriptor}

theorem get_eq_some_iff : r.get name = some id ↔ r.slotOf name = some (.held id) := by
  unfold get
  split <;> simp_all

theorem get_eq_none_of_slotOf (h : ∀ id, r.slotOf name ≠ some (.held id)) : r.get name = none := by
  cases hg : r.get name with
  | none => rfl
  | some id => exact absurd (get_eq_some_iff.mp hg) (h id)

theorem get_of_slots (h : r'.slots = r.slots) (name : String) : r'.get name = r.get name := by
  simp only [get, slotOf, h]

section Creations

variable {cs : List Creation} {c : Creation}

theorem building_set_of_not (hc : ∀ n, c ≠ .building n) :
    (cs.set t c)[t']? = some (Creation.building name) ↔ cs[t']? = some (Creation.building name) ∧ t' ≠ t := by
  rw [List.getElem?_set]
  by_cases h : t = t'
  · subst h
    simp only [if_true, ne_eq, not_true_eq_false, and_false, iff_false]
    split <;> simp [hc]
  · simp [h, Ne.symm h]

theorem building_set_keep (hold : ∀ n, cs[t]? ≠ some (Creation.building n)) (hc : ∀ n, c ≠ .building n) :
    (cs.set t c)[t']? = some (Creation.building name) ↔ cs[t']? = some (Creation.building name) := by
  rw [building_set_of_not hc]
  constructor
  · exact And.left
  · intro h
    refine ⟨h, ?_⟩
    rintro rfl
    exact hold name h

theorem building_set_building (ht : t < cs.length) :
    (cs.set t (.building n))[t']? = some (Creation.building name) ↔
      t' = t ∧ name = n ∨ t' ≠ t ∧ cs[t']? = some (Creation.building name) := by
  rw [List.getElem?_set]
  by_cases h : t = t'
  · subst h
    simp [ht, eq_comm]
  · simp [h, Ne.symm h]

theorem building_append_start {master : Option ChannelId} :
    (cs ++ [.start d master])[t']? = some (Creation.building name) ↔ cs[t']? = some (Creation.building name) := by
  by_cases h : t' < cs.length
  · rw [List.getElem?_append_left h]
  · rw [List.getElem?_append_right (by omega), List.getElem?_eq_none (l := cs) (by omega)]
    by_cases he : t' - cs.length = 0
    · simp [he]
    · rw [List.getElem?_eq_none (by simp; omega)]

end Creations

/-! ### The invariant -/

/-- What every run of the registry keeps. -/
structure Wf (r : Registry) : Prop where
  nodup : (r.slots.map Prod.fst).Nodup
  held : ∀ name id, r.slotOf name = some (.held id) → r.built[id]? = some name
  reserved : ∀ name, r.slotOf name = some .reserved ↔
    ∃ t : Nat, r.creations[t]? = some (Creation.building name)
  building : ∀ (t t' : Nat) name, r.creations[t]? = some (Creation.building name) →
    r.creations[t']? = some (Creation.building name) → t = t'

theorem wf_empty : ({} : Registry).Wf where
  nodup := List.nodup_nil
  held name id h := by simp [slotOf] at h
  reserved name := by simp [slotOf]
  building t t' name h := by simp at h

theorem Wf.of_building (hw : r.Wf) (hs : r'.slots = r.slots) (hb : r'.built = r.built)
    (hc : ∀ (t : Nat) name, r'.creations[t]? = some (Creation.building name) ↔
      r.creations[t]? = some (Creation.building name)) : r'.Wf where
  nodup := hs ▸ hw.nodup
  held name id h := hb ▸ hw.held name id (by simpa only [slotOf, hs] using h)
  reserved name := by
    simp only [slotOf, hs, hc]
    exact hw.reserved name
  building t t' name h h' := hw.building t t' name ((hc _ _).mp h) ((hc _ _).mp h')

theorem reserveName_cases (r : Registry) (d : Descriptor) :
    (r.reserveName d).1.built = r.built ∧
      ((r.reserveName d).1.slots = r.slots ∧ (∃ e, (r.reserveName d).2 = .error e) ∨
        ∃ name, r.slotOf name = none ∧
          (r.reserveName d).1.slots = r.slots ++ [(name, .reserved)] ∧
          (r.reserveName d).2 = .ok name) := by
  unfold reserveName
  split
  · exact ⟨rfl, .inl ⟨rfl, _, rfl⟩⟩
  · extract_lets r₁ name
    -- the count of unnamed creations is all the bump changes
    have hs : r₁.slots = r.slots := by simp only [r₁]; split <;> rfl
    have hb : r₁.built = r.built := by simp only [r₁]; split <;> rfl
    split
    · exact ⟨hb, .inl ⟨hs, _, rfl⟩⟩
    · rename_i hfree
      refine ⟨hb, .inr ⟨name, ?_, by simp [hs], rfl⟩⟩
      have hnone : r₁.slotOf name = none := Option.not_isSome_iff_eq_none.mp hfree
      rw [slotOf, hs] at hnone
      exact hnone

theorem Wf.reserveAt (hw : r.Wf) (hc : r.creations[t]? = some (.resolved d))
    (hfree : r.slotOf name = none) (hs : r'.slots = r.slots ++ [(name, .reserved)])
    (hb : r'.built = r.built) (hcs : r'.creations = r.creations.set t (.building name)) :
    r'.Wf := by
  have ht : t < r.creations.length := (List.getElem?_eq_some_iff.mp hc).1
  have hslot : ∀ n, r'.slotOf n = if n = name then some .reserved else r.slotOf n := fun n => by
    simp only [slotOf, hs]
    exact lookup_append_fresh hfree
  have hbuild : ∀ t' n, r'.creations[t']? = some (Creation.building n) ↔
      t' = t ∧ n = name ∨ t' ≠ t ∧ r.creations[t']? = some (Creation.building n) := fun t' n => by
    rw [hcs]
    exact building_set_building ht
  -- the name was free, so no creation was building under it
  have fresh : ∀ t', r.creations[t']? ≠ some (Creation.building name) := fun t' h => by
    have := (hw.reserved name).mpr ⟨t', h⟩
    simp [hfree] at this
  refine ⟨?_, ?_, ?_, ?_⟩
  · rw [hs]
    exact nodup_append_fresh hw.nodup hfree
  · intro n id h
    rw [hslot] at h
    split at h
    · cases h
    · rw [hb]
      exact hw.held n id h
  · intro n
    rw [hslot]
    by_cases hn : n = name
    · subst hn
      simp only [if_true, true_iff]
      exact ⟨t, (hbuild t n).mpr (.inl ⟨rfl, rfl⟩)⟩
    · rw [if_neg hn, hw.reserved n]
      constructor
      · rintro ⟨t', ht'⟩
        have hne : t' ≠ t := by
          rintro rfl
          simp [hc] at ht'
        exact ⟨t', (hbuild t' n).mpr (.inr ⟨hne, ht'⟩)⟩
      · rintro ⟨t', ht'⟩
        rcases (hbuild t' n).mp ht' with ⟨-, rfl⟩ | ⟨-, h⟩
        · exact absurd rfl hn
        · exact ⟨t', h⟩
  · intro t₁ t₂ n h₁ h₂
    rcases (hbuild t₁ n).mp h₁ with ⟨rfl, rfl⟩ | ⟨-, h₁⟩ <;>
      rcases (hbuild t₂ n).mp h₂ with ⟨rfl, hn⟩ | ⟨-, h₂⟩
    · rfl
    · exact absurd h₂ (fresh t₂)
    · exact absurd (hn ▸ h₁) (fresh t₁)
    · exact hw.building t₁ t₂ n h₁ h₂

theorem Wf.finishAt (hw : r.Wf) (hc : r.creations[t]? = some (Creation.building name))
    {c : Creation} (hcn : ∀ n, c ≠ .building n) (hcs : r'.creations = r.creations.set t c)
    (hnodup : (r'.slots.map Prod.fst).Nodup) (hslot : ∀ n, n ≠ name → r'.slotOf n = r.slotOf n)
    (hname : ∀ id, r'.slotOf name = some (.held id) → r'.built[id]? = some name)
    (hfree : r'.slotOf name ≠ some .reserved) (hb : ∃ more, r'.built = r.built ++ more) :
    r'.Wf := by
  have hbuild : ∀ t' n, r'.creations[t']? = some (Creation.building n) ↔
      r.creations[t']? = some (Creation.building n) ∧ t' ≠ t := fun t' n => by
    rw [hcs]
    exact building_set_of_not hcn
  refine ⟨hnodup, ?_, ?_, ?_⟩
  · intro n id h
    by_cases hn : n = name
    · subst hn
      exact hname id h
    · obtain ⟨more, hmore⟩ := hb
      have hold := hw.held n id (hslot n hn ▸ h)
      rw [hmore, List.getElem?_append_left (List.getElem?_eq_some_iff.mp hold).1]
      exact hold
  · intro n
    by_cases hn : n = name
    · subst hn
      simp only [hfree, false_iff, not_exists]
      intro t' ht'
      obtain ⟨hold, hne⟩ := (hbuild t' n).mp ht'
      exact hne (hw.building t' t n hold hc)
    · rw [hslot n hn, hw.reserved n]
      constructor
      · rintro ⟨t', ht'⟩
        have hne : t' ≠ t := by
          rintro rfl
          rw [hc] at ht'
          exact hn (by injection ht' with h; injection h with h; exact h.symm)
        exact ⟨t', (hbuild t' n).mpr ⟨ht', hne⟩⟩
      · rintro ⟨t', ht'⟩
        exact ⟨t', ((hbuild t' n).mp ht').1⟩
  · intro t₁ t₂ n h₁ h₂
    exact hw.building t₁ t₂ n ((hbuild t₁ n).mp h₁).1 ((hbuild t₂ n).mp h₂).1

theorem Wf.eraseHeld (hw : r.Wf) (h : r.get name = some id) :
    { r with slots := erase r.slots name }.Wf := by
  have hslot : ∀ n, ({ r with slots := erase r.slots name } : Registry).slotOf n =
      if n = name then none else r.slotOf n := fun n => lookup_erase
  refine ⟨nodup_erase hw.nodup, ?_, ?_, hw.building⟩
  · intro n id' h'
    rw [hslot] at h'
    split at h'
    · cases h'
    · exact hw.held n id' h'
  · intro n
    rw [hslot]
    by_cases hn : n = name
    · subst hn
      -- the name held a channel, so no creation was building under it
      simp only [if_true, reduceCtorEq, false_iff]
      rw [← hw.reserved n, get_eq_some_iff.mp h]
      simp
    · rw [if_neg hn]
      exact hw.reserved n

section Building

variable (hc : r.creations[t]? = some (Creation.building name))
include hc

theorem step_build (f : Option Failure) :
    r.step (.build t f) =
      { (r.finish name f).1 with creations := r.creations.set t (.done (r.finish name f).2) } := by
  simp only [Registry.step, hc]

theorem slotOf_build_success (n : String) :
    (r.step (.build t none)).slotOf n = if n = name then some (.held r.built.length) else r.slotOf n := by
  rw [step_build hc]
  exact lookup_put

theorem slotOf_build_failure (f : Failure) (n : String) :
    (r.step (.build t (some f))).slotOf n = if n = name then none else r.slotOf n := by
  rw [step_build hc]
  exact lookup_erase

theorem built_build_success : (r.step (.build t none)).built = r.built ++ [name] := by
  rw [step_build hc]
  rfl

theorem Wf.buildAt (hw : r.Wf) (failure : Option Failure) : (r.step (.build t failure)).Wf := by
  have hmem : name ∈ r.slots.map Prod.fst := by
    obtain ⟨l₁, l₂, hsplit, -⟩ := List.lookup_eq_some_iff.mp ((hw.reserved name).mpr ⟨t, hc⟩)
    simp [hsplit]
  have hcs : (r.step (.build t failure)).creations =
      r.creations.set t (.done (r.finish name failure).2) := by
    rw [step_build hc]
  cases failure with
  | none =>
    refine hw.finishAt hc (by simp) hcs ?_ (fun n hn => ?_) (fun id h => ?_) ?_
      ⟨[name], built_build_success hc⟩
    · simpa [step_build hc, finish, keys_put_of_mem hmem] using hw.nodup
    · rw [slotOf_build_success hc, if_neg hn]
    · rw [slotOf_build_success hc, if_pos rfl, Option.some.injEq, Slot.held.injEq] at h
      rw [built_build_success hc, ← h]
      exact List.getElem?_concat_length
    · simp [slotOf_build_success hc]
  | some f =>
    refine hw.finishAt hc (by simp) hcs ?_ (fun n hn => ?_) (fun id h => ?_) ?_
      ⟨[], by simp [step_build hc, finish]⟩
    · have hnodup : ((erase r.slots name).map Prod.fst).Nodup := nodup_erase hw.nodup
      simpa [step_build hc, finish] using hnodup
    · rw [slotOf_build_failure hc, if_neg hn]
    · simp [slotOf_build_failure hc] at h
    · simp [slotOf_build_failure hc]

end Building

theorem step_build_of_not (h : ∀ name, r.creations[t]? ≠ some (Creation.building name))
    (f : Option Failure) : r.step (.build t f) = r := by
  dsimp only [Registry.step]
  split
  · rename_i name hc
    exact absurd hc (h name)
  · rfl

theorem Wf.step (hw : r.Wf) (e : Event) : (r.step e).Wf := by
  cases e with
  | create d master => exact hw.of_building rfl rfl fun _ _ => building_append_start
  | resolve t =>
    dsimp only [Registry.step]
    split
    · rename_i d master hc
      refine hw.of_building rfl rfl fun t' n => building_set_keep (by simp [hc]) ?_
      split <;> simp
    · exact hw
  | reserve t =>
    dsimp only [Registry.step]
    split
    · rename_i d hc
      obtain ⟨hb, ⟨hs, e, he⟩ | ⟨name, hfree, hs, hok⟩⟩ := reserveName_cases r d
      · simp only [he]
        exact hw.of_building hs hb fun t' n => building_set_keep (by simp [hc]) (by simp)
      · simp only [hok]
        exact hw.reserveAt hc hfree hs hb rfl
    · exact hw
  | build t failure =>
    by_cases hb : ∃ name, r.creations[t]? = some (Creation.building name)
    · obtain ⟨name, hc⟩ := hb
      exact hw.buildAt hc failure
    · rw [step_build_of_not (fun name hc => hb ⟨name, hc⟩)]
      exact hw
  | release id =>
    dsimp only [Registry.step, forget]
    split
    · split
      · rename_i hheld
        exact hw.eraseHeld hheld
      · exact hw
    · exact hw

theorem Wf.run (hw : r.Wf) (es : List Event) : (r.run es).Wf := by
  induction es generalizing r with
  | nil => exact hw
  | cons e es ih => exact ih (hw.step e)

/-! ### What each event does to lookups -/

theorem Wf.get_building (hw : r.Wf) (hc : r.creations[t]? = some (Creation.building name)) :
    r.get name = none :=
  get_eq_none_of_slotOf (by simp [(hw.reserved name).mpr ⟨t, hc⟩])

theorem get_congr (h : r'.slotOf n = r.slotOf n) : r'.get n = r.get n := by
  simp only [get, h]

theorem get_reserve (r : Registry) (t : Nat) (n : String) :
    (r.step (.reserve t)).get n = r.get n := by
  dsimp only [Registry.step]
  split
  · rename_i d hc
    obtain ⟨-, ⟨hs, -⟩ | ⟨name, hfree, hs, -⟩⟩ := reserveName_cases r d
    · exact get_of_slots hs n
    · have hslot : (r.reserveName d).1.slotOf n = if n = name then some .reserved else r.slotOf n := by
        simp only [slotOf, hs]
        exact lookup_append_fresh hfree
      by_cases hn : n = name
      · subst hn
        rw [get_eq_none_of_slotOf (by simp [slotOf] at hslot ⊢; simp [hslot]),
          get_eq_none_of_slotOf (by simp [hfree])]
      · exact get_congr (by simpa [slotOf, hn] using hslot)
  · rfl

section BuildLookups

variable (hc : r.creations[t]? = some (Creation.building name))
include hc

theorem slots_build_failure (hw : r.Wf) (f : Failure) :
    ∃ l₁ l₂, r.slots = l₁ ++ (name, .reserved) :: l₂ ∧
      (r.step (.build t (some f))).slots = l₁ ++ l₂ := by
  obtain ⟨l₁, l₂, hsplit, herase⟩ := erase_of_lookup hw.nodup ((hw.reserved name).mpr ⟨t, hc⟩)
  refine ⟨l₁, l₂, hsplit, ?_⟩
  rw [step_build hc]
  exact herase

theorem get_build_failure (hw : r.Wf) (f : Failure) (n : String) :
    (r.step (.build t (some f))).get n = r.get n := by
  have hslot := slotOf_build_failure hc f n
  by_cases hn : n = name
  · subst hn
    rw [get_eq_none_of_slotOf (by simp [hslot]), hw.get_building hc]
  · exact get_congr (by simp [hslot, hn])

theorem get_build_success (n : String) :
    (r.step (.build t none)).get n = if n = name then some r.built.length else r.get n := by
  have hslot := slotOf_build_success hc n
  by_cases hn : n = name
  · subst hn
    simp [get, hslot]
  · simp only [if_neg hn]
    exact get_congr (by simp [hslot, hn])

end BuildLookups

theorem get_release (hw : r.Wf) (id : ChannelId) (n : String) :
    (r.step (.release id)).get n = if r.get n = some id then none else r.get n := by
  -- a name that holds the channel is the name it was built under
  have hbuilt : r.get n = some id → r.built[id]? = some n := fun h =>
    hw.held n id (get_eq_some_iff.mp h)
  dsimp only [Registry.step, forget]
  split
  · rename_i name hname
    split
    · rename_i hheld
      have hslot : ({ r with slots := erase r.slots name } : Registry).slotOf n =
          if n = name then none else r.slotOf n := lookup_erase
      by_cases hn : n = name
      · subst hn
        rw [if_pos hheld]
        exact get_eq_none_of_slotOf (by simp [hslot])
      · have hother : r.get n ≠ some id := fun h =>
          hn (Option.some.inj (hname.symm.trans (hbuilt h))).symm
        rw [if_neg hother]
        exact get_congr (by simp [hslot, hn])
    · rename_i hnot
      have hother : r.get n ≠ some id := fun h => by
        have := hbuilt h
        rw [hname] at this
        cases this
        exact hnot h
      rw [if_neg hother]
  · rename_i hnone
    have hother : r.get n ≠ some id := fun h => by simpa [hnone] using hbuilt h
    rw [if_neg hother]

theorem built_step (e : Event) :
    (r.step e).built = r.built ∨ ∃ t name, e = .build t none ∧
      r.creations[t]? = some (Creation.building name) ∧ (r.step e).built = r.built ++ [name] := by
  cases e with
  | create d master => exact .inl rfl
  | resolve t =>
    left
    dsimp only [Registry.step]
    split <;> rfl
  | reserve t =>
    left
    dsimp only [Registry.step]
    split
    · exact (reserveName_cases r _).1
    · rfl
  | build t failure =>
    dsimp only [Registry.step]
    split
    · rename_i name hc
      cases failure with
      | none => exact .inr ⟨t, name, rfl, hc, by simp [finish]⟩
      | some f => exact .inl rfl
    · exact .inl rfl
  | release id =>
    left
    dsimp only [Registry.step, forget]
    split
    · split <;> rfl
    · rfl

theorem get_step_of_registered (hw : r.Wf) (h : r.get n = some id) {e : Event}
    (he : e ≠ .release id) : (r.step e).get n = some id := by
  cases e with
  | create d master => exact h
  | resolve t =>
    rw [← h]
    apply get_of_slots
    dsimp only [Registry.step]
    split <;> rfl
  | reserve t => rw [get_reserve, h]
  | build t failure =>
    by_cases hb : ∃ name, r.creations[t]? = some (Creation.building name)
    · obtain ⟨name, hc⟩ := hb
      cases failure with
      | none =>
        -- the name being built was reserved, so it is not the registered one
        have hn : n ≠ name := by
          rintro rfl
          rw [hw.get_building hc] at h
          cases h
        rw [get_build_success hc, if_neg hn, h]
      | some f => rw [get_build_failure hc hw, h]
    · rw [step_build_of_not (fun name hc => hb ⟨name, hc⟩), h]
  | release j =>
    have hj : j ≠ id := fun hj => he (hj ▸ rfl)
    rw [get_release hw, h, if_neg (by simpa using Ne.symm hj)]

theorem run_concat (r : Registry) (es : List Event) (e : Event) :
    r.run (es ++ [e]) = (r.run es).step e := by
  simp [Registry.run, List.foldl_append]

theorem get_run_of_built (es : List Event) (id : ChannelId) (name : String)
    (hb : (({} : Registry).run es).built[id]? = some name) (hr : Event.release id ∉ es) :
    (({} : Registry).run es).get name = some id := by
  induction es using List.reverseRecOn generalizing id name with
  | nil => simp [Registry.run] at hb
  | append_singleton es e ih =>
    have hw := wf_empty.run es
    rw [run_concat] at hb ⊢
    simp only [List.mem_append, List.mem_singleton, not_or] at hr
    have he : e ≠ .release id := fun h => hr.2 h.symm
    rcases built_step (r := ({} : Registry).run es) e with hkeep | ⟨t, name', rfl, hc, hmore⟩
    · rw [hkeep] at hb
      exact get_step_of_registered hw (ih id name hb hr.1) he
    · rw [hmore, List.getElem?_append] at hb
      split at hb
      · exact get_step_of_registered hw (ih id name hb hr.1) he
      · rename_i hlen
        have hid : id = (({} : Registry).run es).built.length := by
          have hsub := (List.getElem?_eq_some_iff.mp hb).1
          simp only [List.length_singleton, Nat.lt_one_iff] at hsub
          exact Nat.le_antisymm (Nat.sub_eq_zero_iff_le.mp hsub) (Nat.not_lt.mp hlen)
        have hname : name' = name := by
          rw [hid, Nat.sub_self] at hb
          simpa using hb
        subst hid hname
        rw [get_build_success hc, if_pos rfl]

theorem slots_reserve_then_failure (hc : r.creations[t]? = some (.resolved d)) (f : Failure) :
    ((r.step (.reserve t)).step (.build t (some f))).slots = r.slots := by
  have ht : t < r.creations.length := (List.getElem?_eq_some_iff.mp hc).1
  obtain ⟨-, ⟨hs, e, he⟩ | ⟨name, hfree, hs, hok⟩⟩ := reserveName_cases r d
  · have hstep : r.step (.reserve t) =
        { (r.reserveName d).1 with creations := r.creations.set t (.done (.error e)) } := by
      simp [Registry.step, hc, he]
    rw [hstep]
    simp [Registry.step, ht, hs]
  · have hstep : r.step (.reserve t) =
        { (r.reserveName d).1 with creations := r.creations.set t (.building name) } := by
      simp [Registry.step, hc, hok]
    rw [hstep]
    simp [Registry.step, ht, finish, hs, erase_append_fresh hfree]

/-- However creations and releases interleave, no two registry entries share a name, and failures
and releases remove only their own entries. -/
theorem registry_keeps_names_apart (es : List Event) :
    let r := ({} : Registry).run es
    (r.slots.map Prod.fst).Nodup ∧
      (∀ id name, r.built[id]? = some name → Event.release id ∉ es → r.get name = some id) ∧
      (∀ (t : Nat) name, r.creations[t]? = some (Creation.building name) → r.get name = none) ∧
      (∀ (t : Nat) d f, r.creations[t]? = some (Creation.resolved d) →
        ((r.step (.reserve t)).step (.build t (some f))).slots = r.slots) ∧
      (∀ (t : Nat) name f, r.creations[t]? = some (Creation.building name) →
        ∃ l₁ l₂, r.slots = l₁ ++ (name, .reserved) :: l₂ ∧
          (r.step (.build t (some f))).slots = l₁ ++ l₂) ∧
      (∀ id name, (r.step (.release id)).get name =
        if r.get name = some id then none else r.get name) := by
  intro r
  have hw : r.Wf := wf_empty.run es
  exact ⟨hw.nodup, get_run_of_built es, fun t name hc => hw.get_building hc,
    fun t d f hc => slots_reserve_then_failure hc f, fun t name f hc => slots_build_failure hc hw f,
    fun id name => get_release hw id name⟩

end ChannelMux.Registry
