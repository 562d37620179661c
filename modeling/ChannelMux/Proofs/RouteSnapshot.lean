import ChannelMux.Route
import Mathlib.Data.String.Basic
import Mathlib.Data.List.Nodup

/-! The snapshot a route table keeps, and what each operation does to it. -/

namespace ChannelMux

open List (Perm)

/-! ### Bytes of a text -/

theorem byteArray_toList_loop (bs : ByteArray) (i : Nat) (r : List UInt8) :
    ByteArray.toList.loop bs i r = r.reverse ++ bs.data.toList.drop i := by
  fun_induction ByteArray.toList.loop bs i r with
  | case1 i r hi ih =>
    have hi' : i < bs.data.toList.length := by simpa using hi
    rw [ih, List.drop_eq_getElem_cons hi']
    simp [ByteArray.get!, hi]
  | case2 i r hi =>
    have : bs.data.toList.length ≤ i := by simpa using hi
    simp [List.drop_eq_nil_of_le this]

theorem ofString_bytes_append (s t : String) :
    (Text.ByteText.ofString (s ++ t)).bytes =
      (Text.ByteText.ofString s).bytes ++ (Text.ByteText.ofString t).bytes := by
  simp [Text.ByteText.ofString, ByteArray.toList, byteArray_toList_loop, String.toByteArray_append,
    ByteArray.data_append]

theorem validatePattern_eq_ok_iff (b : Text.ByteText) :
    validatePattern b = .ok () ↔ b.bytes ≠ [] ∧ '*'.toUInt8 ∉ b.bytes.dropLast := by
  unfold validatePattern Text.ByteText.isEmpty
  split
  · simp_all
  · split <;> simp_all

theorem validatePattern_star_star (s : String) : validatePattern (.ofString (s ++ "**")) ≠ .ok () := by
  have hstars : (Text.ByteText.ofString "**").bytes = ['*'.toUInt8, '*'.toUInt8] := by decide +kernel
  rw [Ne, validatePattern_eq_ok_iff, ofString_bytes_append, hstars]
  simp [List.dropLast_append_of_ne_nil]

/-! ### Wildcard patterns -/

theorem wildcardPrefix?_eq_some_iff {p pre : String} : wildcardPrefix? p = some pre ↔ p = pre ++ "*" := by
  unfold wildcardPrefix?
  constructor
  · intro h
    split at h
    · rename_i hl
      cases h
      rw [← String.toList_inj]
      simpa using (List.dropLast_append_getLast? _ hl).symm
    · cases h
  · rintro rfl
    simp

@[simp] theorem wildcardPrefix?_append_star (pre : String) : wildcardPrefix? (pre ++ "*") = some pre :=
  wildcardPrefix?_eq_some_iff.2 rfl

theorem wildcardPrefix?_eq_none_iff {p : String} : wildcardPrefix? p = none ↔ ∀ pre, p ≠ pre ++ "*" := by
  constructor
  · rintro h pre rfl
    simp at h
  · intro h
    cases hp : wildcardPrefix? p with
    | none => rfl
    | some pre => exact absurd (wildcardPrefix?_eq_some_iff.1 hp) (h pre)

theorem wildcardPrefix?_of_valid {p pre : String} (hv : validatePattern (.ofString p) = .ok ())
    (hp : wildcardPrefix? p = some pre) : wildcardPrefix? pre = none := by
  rw [wildcardPrefix?_eq_none_iff]
  rintro pre' rfl
  rw [wildcardPrefix?_eq_some_iff, String.append_assoc] at hp
  exact validatePattern_star_star pre' (hp ▸ hv)

/-! ### Maps kept as lists of entries -/

section Keyed

variable {α : Type} {m m' : List (String × α)} {k j : String} {v : α}

theorem keyValue?_eq_none_iff : keyValue? m k = none ↔ k ∉ m.map (·.1) := by
  simp only [keyValue?, Option.map_eq_none_iff, List.find?_eq_none, beq_iff_eq, List.mem_map]
  constructor
  · rintro h ⟨e, he, rfl⟩
    exact h e he rfl
  · rintro h e he rfl
    exact h ⟨e, he, rfl⟩

theorem keyValue?_eq_some_iff (hn : (m.map (·.1)).Nodup) : keyValue? m k = some v ↔ (k, v) ∈ m := by
  constructor
  · intro h
    obtain ⟨e, he, rfl⟩ := Option.map_eq_some_iff.1 h
    have hk : e.1 = k := by simpa using List.find?_some he
    exact hk ▸ List.mem_of_find?_eq_some he
  · intro hm
    cases hf : m.find? (·.1 == k) with
    | none => exact absurd (List.find?_eq_none.1 hf _ hm) (by simp)
    | some e =>
      have he := List.mem_of_find?_eq_some hf
      have hk : e.1 = k := by simpa using List.find?_some hf
      have := List.inj_on_of_nodup_map hn he hm hk
      simp [keyValue?, hf, this]

theorem keyValue?_perm (hn : (m.map (·.1)).Nodup) (hp : m.Perm m') (k : String) :
    keyValue? m k = keyValue? m' k := by
  have hn' : (m'.map (·.1)).Nodup := (hp.map _).nodup_iff.1 hn
  cases h : keyValue? m k with
  | none =>
    rw [eq_comm, keyValue?_eq_none_iff, ← (hp.map _).mem_iff]
    exact keyValue?_eq_none_iff.1 h
  | some v =>
    rw [eq_comm, keyValue?_eq_some_iff hn', ← hp.mem_iff]
    exact (keyValue?_eq_some_iff hn).1 h

theorem keyValue?_append_fresh (hk : k ∉ m.map (·.1)) (j : String) :
    keyValue? (m ++ [(k, v)]) j = if j = k then some v else keyValue? m j := by
  unfold keyValue?
  rw [List.find?_append]
  by_cases hj : j = k
  · subst hj
    have hnone : m.find? (·.1 == j) = none :=
      List.find?_eq_none.2 fun e he hej => hk (List.mem_map.2 ⟨e, he, by simpa using hej⟩)
    simp [hnone]
  · cases m.find? (·.1 == j) <;> simp [hj, Ne.symm hj]

theorem keyValue?_filter (f : String → Bool) (j : String) :
    keyValue? (m.filter fun e => f e.1) j = if f j then keyValue? m j else none := by
  induction m with
  | nil => simp [keyValue?]
  | cons e rest ih =>
    by_cases he : f e.1 = true
    · rw [List.filter_cons_of_pos (by simpa using he)]
      by_cases hj : e.1 = j
      · subst hj; simp [keyValue?, he]
      · simpa [keyValue?, hj] using ih
    · rw [List.filter_cons_of_neg (by simpa using he), ih]
      by_cases hj : e.1 = j
      · subst hj; simp [he]
      · simp [keyValue?, hj]

theorem setKey_of_not_mem (hk : k ∉ m.map (·.1)) : setKey k v m = m ++ [(k, v)] := by
  induction m with
  | nil => rfl
  | cons e rest ih =>
    have hne : e.1 ≠ k := fun h => hk (by simp [← h])
    rw [setKey, if_neg hne, ih fun h => hk (List.mem_cons_of_mem _ h)]
    rfl

theorem nodup_keys_append (hn : (m.map (·.1)).Nodup) (hk : k ∉ m.map (·.1)) :
    ((m ++ [(k, v)]).map (·.1)).Nodup := by
  rw [List.map_append, List.nodup_append]
  exact ⟨hn, by simp, fun a ha b hb hab => hk (by simp_all)⟩

end Keyed

/-! ### Sorting prefixes longest first -/

theorem longestFirst_perm (ps : List String) : (longestFirst ps).Perm ps := List.mergeSort_perm _ _

theorem longestFirst_sorted (ps : List String) :
    (longestFirst ps).Pairwise fun a b => b.utf8ByteSize ≤ a.utf8ByteSize := by
  let longer : String → String → Bool := fun a b => decide (b.utf8ByteSize ≤ a.utf8ByteSize)
  have h : (ps.mergeSort longer).Pairwise fun a b => longer a b :=
    List.pairwise_mergeSort (fun a b c hab hbc => by simp only [longer, decide_eq_true_eq] at *; omega)
      (fun a b => by simp only [longer, Bool.or_eq_true, decide_eq_true_eq]; omega) ps
  simpa [longestFirst, longer] using h

/-! ### Sound snapshots -/

namespace RouteTable

variable {α : Type} {t : RouteTable α} {p q pre : String} {v : α}

/-- The invariant of a snapshot: each map has each key once, no key ends in `*`, and the prefixes
are the wildcard prefixes, each once, longest first. -/
structure Sound (t : RouteTable α) : Prop where
  exact_nodup : (t.exact.map (·.1)).Nodup
  wildcard_nodup : (t.wildcard.map (·.1)).Nodup
  exact_plain : ∀ e ∈ t.exact, wildcardPrefix? e.1 = none
  wildcard_plain : ∀ e ∈ t.wildcard, wildcardPrefix? e.1 = none
  prefixes_perm : t.prefixes.Perm (t.wildcard.map (·.1))
  longest_first : t.prefixes.Pairwise fun a b => b.utf8ByteSize ≤ a.utf8ByteSize

theorem sound_empty : ({} : RouteTable α).Sound :=
  ⟨List.nodup_nil, List.nodup_nil, by simp, by simp, List.Perm.nil, List.Pairwise.nil⟩

theorem find?_of_wildcard (h : wildcardPrefix? p = some pre) :
    t.find? p = keyValue? t.wildcard pre := by
  simp [find?, h]

theorem find?_of_plain (h : wildcardPrefix? p = none) : t.find? p = keyValue? t.exact p := by
  simp [find?, h]

theorem star_inj {a b : String} (h : a ++ "*" = b ++ "*") : a = b := by
  rw [← String.toList_inj, String.toList_append, String.toList_append] at h
  exact String.toList_inj.1 (List.append_cancel_right h)

theorem add_of_wildcard (h : wildcardPrefix? p = some pre) (hfree : pre ∉ t.wildcard.map (·.1)) :
    t.add p v = { t with wildcard := t.wildcard ++ [(pre, v)],
                         prefixes := longestFirst (t.prefixes ++ [pre]) } := by
  simp [add, h, setKey_of_not_mem hfree]

theorem add_of_plain (h : wildcardPrefix? p = none) (hfree : p ∉ t.exact.map (·.1)) :
    t.add p v = { t with exact := t.exact ++ [(p, v)] } := by
  simp [add, h, setKey_of_not_mem hfree]

theorem find?_add (hfree : t.find? p = none) (q : String) :
    (t.add p v).find? q = if q = p then some v else t.find? q := by
  cases hp : wildcardPrefix? p with
  | some pre =>
    have hk := keyValue?_eq_none_iff.1 (find?_of_wildcard hp ▸ hfree)
    rw [add_of_wildcard hp hk]
    cases hq : wildcardPrefix? q with
    | some pre' =>
      have hqp : q = p ↔ pre' = pre := by
        rw [wildcardPrefix?_eq_some_iff.1 hp, wildcardPrefix?_eq_some_iff.1 hq]
        exact ⟨star_inj, fun h => h ▸ rfl⟩
      simp only [find?_of_wildcard hq, keyValue?_append_fresh hk, hqp]
    | none =>
      have hqp : q ≠ p := fun e => by simp [e, hp] at hq
      simp [find?_of_plain hq, hqp]
  | none =>
    have hk := keyValue?_eq_none_iff.1 (find?_of_plain hp ▸ hfree)
    rw [add_of_plain hp hk]
    cases hq : wildcardPrefix? q with
    | some pre' =>
      have hqp : q ≠ p := fun e => by simp [e, hp] at hq
      simp [find?_of_wildcard hq, hqp]
    | none => simp only [find?_of_plain hq, keyValue?_append_fresh hk]

theorem sound_add (ht : t.Sound) (hfree : t.find? p = none)
    (hplain : ∀ pre, wildcardPrefix? p = some pre → wildcardPrefix? pre = none) :
    (t.add p v).Sound := by
  cases hp : wildcardPrefix? p with
  | some pre =>
    have hk := keyValue?_eq_none_iff.1 (find?_of_wildcard hp ▸ hfree)
    rw [add_of_wildcard hp hk]
    refine ⟨ht.exact_nodup, nodup_keys_append ht.wildcard_nodup hk, ht.exact_plain, ?_, ?_,
      longestFirst_sorted _⟩
    · intro e he
      rcases List.mem_append.1 he with he | he
      · exact ht.wildcard_plain e he
      · rw [List.mem_singleton.1 he]
        exact hplain pre hp
    · refine (longestFirst_perm _).trans ?_
      simpa using ht.prefixes_perm.append_right [pre]
  | none =>
    have hk := keyValue?_eq_none_iff.1 (find?_of_plain hp ▸ hfree)
    rw [add_of_plain hp hk]
    refine ⟨nodup_keys_append ht.exact_nodup hk, ht.wildcard_nodup, ?_, ht.wildcard_plain,
      ht.prefixes_perm, ht.longest_first⟩
    intro e he
    rcases List.mem_append.1 he with he | he
    · exact ht.exact_plain e he
    · rw [List.mem_singleton.1 he]
      exact hp

/-! ### Registering -/

theorem kind_within (c : String) (f : Failure) : (f.within c).kind = f.kind := by
  unfold Failure.within
  split <;> rfl

theorem register_eq_ok_iff {l : Logger} {t' : RouteTable α} :
    t.register l p v = .ok t' ↔
      validatePattern (.ofString p) = .ok () ∧ t.find? p = none ∧ t' = t.add p v := by
  unfold register
  split
  · rename_i e he
    simp [he]
  · rename_i hv
    by_cases hb : (t.find? p).isSome
    · simp [hb, Option.isSome_iff_ne_none.1 hb]
    · simp [hv, Option.not_isSome_iff_eq_none.1 hb, eq_comm]

theorem register_error {l : Logger} {f : Failure} (h : t.register l p v = .error f) :
    (validatePattern (.ofString p) ≠ .ok () ∧ f.kind = .config) ∨
      (validatePattern (.ofString p) = .ok () ∧ (t.find? p).isSome ∧ f.kind = .routingConflict) := by
  unfold register at h
  split at h
  · rename_i e he
    cases h
    exact .inl ⟨by simp [he], by simp [kind_within, PatternError.failure, Failure.config, Failure.make]⟩
  · rename_i hv
    split at h
    · rename_i hb
      cases h
      exact .inr ⟨hv, hb, by simp [kind_within, Failure.make]⟩
    · cases h

theorem sound_register (ht : t.Sound) {l : Logger} {t' : RouteTable α}
    (h : t.register l p v = .ok t') : t'.Sound := by
  obtain ⟨hv, hfree, rfl⟩ := register_eq_ok_iff.1 h
  exact sound_add ht hfree fun _ hp => wildcardPrefix?_of_valid hv hp

theorem find?_register {l : Logger} {t' : RouteTable α} (h : t.register l p v = .ok t')
    (q : String) : t'.find? q = if q = p then some v else t.find? q := by
  obtain ⟨-, hfree, rfl⟩ := register_eq_ok_iff.1 h
  exact find?_add hfree q

/-! ### Rebuilding -/

theorem foldl_add_exact (es : List (String × α)) (ht : t.Sound)
    (hn : ((t.exact ++ es).map (·.1)).Nodup) (hp : ∀ e ∈ es, wildcardPrefix? e.1 = none) :
    es.foldl (fun t e => t.add e.1 e.2) t = { t with exact := t.exact ++ es } ∧
      (es.foldl (fun t e => t.add e.1 e.2) t).Sound := by
  induction es generalizing t with
  | nil => simpa using ht
  | cons e rest ih =>
    have hk : e.1 ∉ t.exact.map (·.1) := by
      intro hm
      rw [List.map_append, List.nodup_append] at hn
      exact hn.2.2 _ hm _ (List.mem_map_of_mem List.mem_cons_self) rfl
    have hfree : t.find? e.1 = none := by
      rw [find?_of_plain (hp e List.mem_cons_self)]
      exact keyValue?_eq_none_iff.2 hk
    have hadd := add_of_plain (v := e.2) (hp e List.mem_cons_self) hk
    have hs : (t.add e.1 e.2).Sound := sound_add ht hfree fun _ h => by simp [hp e List.mem_cons_self] at h
    obtain ⟨heq, hsound⟩ := ih hs (by simpa [hadd] using hn) fun e' he' => hp e' (List.mem_cons_of_mem _ he')
    rw [List.foldl_cons]
    refine ⟨?_, hsound⟩
    rw [heq, hadd]
    simp

theorem foldl_add_wildcard (ws : List (String × α)) (ht : t.Sound)
    (hn : ((t.wildcard ++ ws).map (·.1)).Nodup) (hp : ∀ e ∈ ws, wildcardPrefix? e.1 = none) :
    (ws.foldl (fun t e => t.add (e.1 ++ "*") e.2) t).exact = t.exact ∧
      (ws.foldl (fun t e => t.add (e.1 ++ "*") e.2) t).wildcard = t.wildcard ++ ws ∧
      (ws.foldl (fun t e => t.add (e.1 ++ "*") e.2) t).Sound := by
  induction ws generalizing t with
  | nil => simpa using ht
  | cons e rest ih =>
    have hk : e.1 ∉ t.wildcard.map (·.1) := by
      intro hm
      rw [List.map_append, List.nodup_append] at hn
      exact hn.2.2 _ hm _ (List.mem_map_of_mem List.mem_cons_self) rfl
    have hfree : t.find? (e.1 ++ "*") = none := by
      rw [find?_of_wildcard (wildcardPrefix?_append_star e.1)]
      exact keyValue?_eq_none_iff.2 hk
    have hadd := add_of_wildcard (v := e.2) (wildcardPrefix?_append_star e.1) hk
    have hs : (t.add (e.1 ++ "*") e.2).Sound :=
      sound_add ht hfree fun pre h => by
        rw [wildcardPrefix?_append_star, Option.some.injEq] at h
        exact h ▸ hp e List.mem_cons_self
    obtain ⟨hex, hwd, hsound⟩ := ih hs (by simpa [hadd] using hn)
      fun e' he' => hp e' (List.mem_cons_of_mem _ he')
    refine ⟨?_, ?_, hsound⟩
    · rw [List.foldl_cons, hex, hadd]
    · rw [List.foldl_cons, hwd, hadd]
      simp

theorem rebuild_spec {ex wd : List (String × α)} (hexn : (ex.map (·.1)).Nodup)
    (hwdn : (wd.map (·.1)).Nodup) (hexp : ∀ e ∈ ex, wildcardPrefix? e.1 = none)
    (hwdp : ∀ e ∈ wd, wildcardPrefix? e.1 = none) :
    (rebuild ex wd).exact = ex ∧ (rebuild ex wd).wildcard = wd ∧ (rebuild ex wd).Sound := by
  obtain ⟨h₁, h₂⟩ := foldl_add_exact ex (sound_empty (α := α)) (by simpa using hexn) hexp
  obtain ⟨h₃, h₄, h₅⟩ := foldl_add_wildcard wd h₂ (by simpa [h₁] using hwdn) hwdp
  unfold rebuild
  refine ⟨?_, ?_, h₅⟩
  · rw [h₃, h₁]
    simp
  · rw [h₄, h₁]
    simp

theorem find?_rebuild {ex wd : List (String × α)} (hexn : (ex.map (·.1)).Nodup)
    (hwdn : (wd.map (·.1)).Nodup) (hexp : ∀ e ∈ ex, wildcardPrefix? e.1 = none)
    (hwdp : ∀ e ∈ wd, wildcardPrefix? e.1 = none) (q : String) :
    (rebuild ex wd).find? q = (⟨ex, wd, []⟩ : RouteTable α).find? q := by
  obtain ⟨h₁, h₂, -⟩ := rebuild_spec hexn hwdn hexp hwdp
  simp only [find?, h₁, h₂]

theorem rebuild_perm {ex ex' wd wd' : List (String × α)} (hexn : (ex.map (·.1)).Nodup)
    (hwdn : (wd.map (·.1)).Nodup) (hexp : ∀ e ∈ ex, wildcardPrefix? e.1 = none)
    (hwdp : ∀ e ∈ wd, wildcardPrefix? e.1 = none) (hex : ex.Perm ex') (hwd : wd.Perm wd') :
    (rebuild ex' wd').Sound ∧ (rebuild ex' wd').find? = (rebuild ex wd).find? := by
  have hexn' := (hex.map _).nodup_iff.1 hexn
  have hwdn' := (hwd.map _).nodup_iff.1 hwdn
  have hexp' : ∀ e ∈ ex', wildcardPrefix? e.1 = none := fun e he => hexp e (hex.mem_iff.2 he)
  have hwdp' : ∀ e ∈ wd', wildcardPrefix? e.1 = none := fun e he => hwdp e (hwd.mem_iff.2 he)
  refine ⟨(rebuild_spec hexn' hwdn' hexp' hwdp').2.2, funext fun q => ?_⟩
  rw [find?_rebuild hexn' hwdn' hexp' hwdp', find?_rebuild hexn hwdn hexp hwdp]
  unfold find?
  split
  · exact (keyValue?_perm hwdn hwd _).symm
  · exact (keyValue?_perm hexn hex _).symm

/-! ### Unregistering -/

/-- The bindings a removal keeps. -/
abbrev keptExact (t : RouteTable α) (p : String) : List (String × α) := t.exact.filter (·.1 != p)

/-- The wildcard bindings a removal keeps. -/
abbrev keptWildcard (t : RouteTable α) (p : String) : List (String × α) :=
  t.wildcard.filter (·.1 ++ "*" != p)

theorem kept_spec (ht : t.Sound) (p : String) :
    (rebuild (keptExact t p) (keptWildcard t p)).Sound ∧
      ∀ q, (rebuild (keptExact t p) (keptWildcard t p)).find? q = if q = p then none else t.find? q := by
  have hexn : ((keptExact t p).map (·.1)).Nodup :=
    (List.filter_sublist.map _).nodup ht.exact_nodup
  have hwdn : ((keptWildcard t p).map (·.1)).Nodup :=
    (List.filter_sublist.map _).nodup ht.wildcard_nodup
  have hexp : ∀ e ∈ keptExact t p, wildcardPrefix? e.1 = none :=
    fun e he => ht.exact_plain e (List.mem_filter.1 he).1
  have hwdp : ∀ e ∈ keptWildcard t p, wildcardPrefix? e.1 = none :=
    fun e he => ht.wildcard_plain e (List.mem_filter.1 he).1
  refine ⟨(rebuild_spec hexn hwdn hexp hwdp).2.2, fun q => ?_⟩
  rw [find?_rebuild hexn hwdn hexp hwdp]
  unfold find?
  split
  · rename_i pre hq
    dsimp only
    rw [keptWildcard, keyValue?_filter (fun k => k ++ "*" != p), ← wildcardPrefix?_eq_some_iff.1 hq]
    by_cases hqp : q = p <;> simp [hqp]
  · rename_i hq
    dsimp only
    rw [keptExact, keyValue?_filter (fun k => k != p)]
    by_cases hqp : q = p <;> simp [hqp]

section Unregister

variable [BEq α] [LawfulBEq α]

theorem unregister_of_bound (h : t.find? p = some v) :
    t.unregister p v = (rebuild (keptExact t p) (keptWildcard t p), true) := by
  simp [unregister, h]

theorem unregister_of_not_bound (h : t.find? p ≠ some v) : t.unregister p v = (t, false) := by
  unfold unregister
  split
  · rename_i g hg
    have hgv : g ≠ v := fun e => h (e ▸ hg)
    simp [hgv]
  · rfl

theorem unregister_removed_iff : (t.unregister p v).2 = true ↔ t.find? p = some v := by
  by_cases h : t.find? p = some v
  · simp [unregister_of_bound h, h]
  · simp [unregister_of_not_bound h, h]

theorem sound_unregister (ht : t.Sound) : (t.unregister p v).1.Sound := by
  by_cases h : t.find? p = some v
  · rw [unregister_of_bound h]
    exact (kept_spec ht p).1
  · rw [unregister_of_not_bound h]
    exact ht

theorem find?_unregister (ht : t.Sound) (q : String) :
    (t.unregister p v).1.find? q =
      if (t.unregister p v).2 = true ∧ q = p then none else t.find? q := by
  by_cases h : t.find? p = some v
  · rw [unregister_of_bound h]
    simpa using (kept_spec ht p).2 q
  · simp [unregister_of_not_bound h]

end Unregister

end RouteTable

end ChannelMux
