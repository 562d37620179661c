import ChannelMux.Proofs.RouteSnapshot

/-! What a sound route table answers. -/

namespace ChannelMux

/-! ### Prefixes of one path -/

theorem exists_append_of_prefix {a b : String} (h : a.toList <+: b.toList) :
    ∃ r, b = a ++ r := by
  obtain ⟨r, hr⟩ := h
  exact ⟨String.ofList r, by rw [← String.toList_inj, String.toList_append, String.toList_ofList, hr]⟩

theorem prefix_of_length_le {a b path : String} (ha : a.toList <+: path.toList)
    (hb : b.toList <+: path.toList) (hl : a.length ≤ b.length) : a.toList <+: b.toList :=
  List.prefix_of_prefix_length_le ha hb (by rwa [String.length_toList, String.length_toList])

theorem length_le_of_utf8ByteSize_le {a b path : String} (ha : a.toList <+: path.toList)
    (hb : b.toList <+: path.toList) (hs : a.utf8ByteSize ≤ b.utf8ByteSize) : a.length ≤ b.length := by
  by_contra hlt
  have hba := prefix_of_length_le hb ha (by omega)
  obtain ⟨r, rfl⟩ := exists_append_of_prefix hba
  have hr : r ≠ "" := by
    rintro rfl
    simp at hlt
  have := String.utf8ByteSize_eq_zero_iff.not.2 hr
  rw [String.utf8ByteSize_append] at hs
  omega

theorem eq_of_prefix_of_length_eq {a b path : String} (ha : a.toList <+: path.toList)
    (hb : b.toList <+: path.toList) (hl : a.length = b.length) : a = b :=
  String.toList_inj.1 ((prefix_of_length_le ha hb hl.le).eq_of_length
    (by rwa [String.length_toList, String.length_toList]))

theorem find?_startsWith_eq_some_iff {ps : List String}
    (hs : ps.Pairwise fun a b => b.utf8ByteSize ≤ a.utf8ByteSize) (path pre : String) :
    ps.find? (path.startsWith ·) = some pre ↔
      pre ∈ ps ∧ pre.toList <+: path.toList ∧
        ∀ q ∈ ps, q.toList <+: path.toList → q.length ≤ pre.length := by
  have first : ∀ pre, ps.find? (path.startsWith ·) = some pre →
      pre ∈ ps ∧ pre.toList <+: path.toList ∧
        ∀ q ∈ ps, q.toList <+: path.toList → q.length ≤ pre.length := by
    intro pre h
    obtain ⟨hpre, as, bs, rfl, hbefore⟩ := List.find?_eq_some_iff_append.1 h
    have hpp : pre.toList <+: path.toList := by simpa using hpre
    refine ⟨by simp, hpp, fun q hq hqp => ?_⟩
    rcases List.mem_append.1 hq with hq | hq
    · exact absurd (by simpa using hqp) (by simpa using hbefore q hq)
    · rcases List.mem_cons.1 hq with rfl | hq
      · exact le_rfl
      · have hle := List.rel_of_pairwise_cons (List.pairwise_append.1 hs).2.1 hq
        exact length_le_of_utf8ByteSize_le hqp hpp hle
  refine ⟨first pre, fun ⟨hmem, hpp, hmax⟩ => ?_⟩
  have hsome : (ps.find? (path.startsWith ·)).isSome :=
    List.find?_isSome.2 ⟨pre, hmem, String.startsWith_string_iff.2 hpp⟩
  obtain ⟨pre', hpre'⟩ := Option.isSome_iff_exists.1 hsome
  obtain ⟨hmem', hpp', hmax'⟩ := first pre' hpre'
  rw [hpre', eq_of_prefix_of_length_eq hpp' hpp (le_antisymm (hmax pre' hmem' hpp') (hmax' pre hmem hpp))]

/-! ### Lookups -/

namespace RouteTable

variable {α : Type} {t : RouteTable α} {path pre : String}

/-- `q` is the longest prefix of `path` among the prefixes of the bound wildcard patterns. -/
def LongestWildcard (t : RouteTable α) (path q : String) : Prop :=
  (t.find? (q ++ "*")).isSome ∧ q.toList <+: path.toList ∧
    ∀ q', (t.find? (q' ++ "*")).isSome → q'.toList <+: path.toList → q'.length ≤ q.length

theorem mem_prefixes_iff (ht : t.Sound) (q : String) :
    q ∈ t.prefixes ↔ (t.find? (q ++ "*")).isSome := by
  rw [ht.prefixes_perm.mem_iff, find?_of_wildcard (wildcardPrefix?_append_star q),
    Option.isSome_iff_ne_none, Ne, keyValue?_eq_none_iff, not_not]

theorem plain_of_bound_wildcard (ht : t.Sound) {q : String} (h : (t.find? (q ++ "*")).isSome) :
    wildcardPrefix? q = none := by
  rw [find?_of_wildcard (wildcardPrefix?_append_star q)] at h
  obtain ⟨v, hv⟩ := Option.isSome_iff_exists.1 h
  exact ht.wildcard_plain _ ((keyValue?_eq_some_iff ht.wildcard_nodup).1 hv)

theorem scan_eq_some_iff (ht : t.Sound) (path pre : String) :
    t.prefixes.find? (path.startsWith ·) = some pre ↔ t.LongestWildcard path pre := by
  rw [find?_startsWith_eq_some_iff ht.longest_first, LongestWildcard, mem_prefixes_iff ht]
  simp only [mem_prefixes_iff ht]

theorem exact_none_of_wildcard (ht : t.Sound) (h : wildcardPrefix? path = some pre) :
    keyValue? t.exact path = none :=
  keyValue?_eq_none_iff.2 fun hm => by
    obtain ⟨e, he, rfl⟩ := List.mem_map.1 hm
    simp [ht.exact_plain e he] at h

theorem lookup_of_exact_none [Inhabited α] (ht : t.Sound) (hx : keyValue? t.exact path = none) :
    t.lookup path = (t.prefixes.find? (path.startsWith ·)).bind fun pre =>
      (t.find? (pre ++ "*")).map (⟨pre ++ "*", ·⟩) := by
  unfold lookup
  rw [hx]
  cases hs : t.prefixes.find? (path.startsWith ·) with
  | none => rfl
  | some pre =>
    have hmem := (mem_prefixes_iff ht pre).1 (List.mem_of_find?_eq_some hs)
    obtain ⟨v, hv⟩ := Option.isSome_iff_exists.1 hmem
    have hw : keyValue? t.wildcard pre = some v := by
      rwa [find?_of_wildcard (wildcardPrefix?_append_star pre)] at hv
    simp [hv, hw]

theorem longestWildcard_self (ht : t.Sound) (hb : (t.find? (pre ++ "*")).isSome) :
    t.LongestWildcard (pre ++ "*") pre := by
  refine ⟨hb, by simp, fun q hq hqp => ?_⟩
  by_contra hlt
  have hlen : q.length = (pre ++ "*").length := by
    have := hqp.length_le
    simp only [String.length_toList, String.length_append] at this ⊢
    have : "*".length = 1 := rfl
    omega
  rw [eq_of_prefix_of_length_eq hqp (List.prefix_refl _) hlen] at hq
  simpa using plain_of_bound_wildcard ht hq

theorem lookup_eq [Inhabited α] (ht : t.Sound) (path : String) :
    t.lookup path =
      match t.find? path with
      | some h => some ⟨path, h⟩
      | none => (t.prefixes.find? (path.startsWith ·)).bind fun pre =>
          (t.find? (pre ++ "*")).map (⟨pre ++ "*", ·⟩) := by
  cases hp : wildcardPrefix? path with
  | none =>
    rw [find?_of_plain hp]
    cases hx : keyValue? t.exact path with
    | some h => simp [lookup, hx]
    | none => exact lookup_of_exact_none ht hx
  | some pre =>
    rw [lookup_of_exact_none ht (exact_none_of_wildcard ht hp)]
    cases hf : t.find? path with
    | none => rfl
    | some h =>
      have hpath := wildcardPrefix?_eq_some_iff.1 hp
      subst hpath
      have hscan := (scan_eq_some_iff ht _ pre).2 (longestWildcard_self ht (by simp [hf]))
      simp [hscan, hf]

theorem lookup_eq_some_iff [Inhabited α] (ht : t.Sound) (path : String) (r : RouteMatch α) :
    t.lookup path = some r ↔
      (t.find? path = some r.handler ∧ r.pattern = path) ∨
      (t.find? path = none ∧ ∃ q, r.pattern = q ++ "*" ∧ t.find? r.pattern = some r.handler ∧
        t.LongestWildcard path q) := by
  rw [lookup_eq ht]
  obtain ⟨pat, h⟩ := r
  cases hf : t.find? path with
  | some v =>
    simp only [Option.some.injEq, RouteMatch.mk.injEq, reduceCtorEq, false_and, or_false]
    constructor
    · rintro ⟨rfl, rfl⟩
      exact ⟨rfl, rfl⟩
    · rintro ⟨rfl, rfl⟩
      exact ⟨rfl, rfl⟩
  | none =>
    simp only [reduceCtorEq, false_and, true_and, false_or]
    constructor
    · intro hb
      obtain ⟨pre, hs, hm⟩ := Option.bind_eq_some_iff.1 hb
      obtain ⟨v, hv, hr⟩ := Option.map_eq_some_iff.1 hm
      cases hr
      exact ⟨pre, rfl, hv, (scan_eq_some_iff ht path pre).1 hs⟩
    · rintro ⟨q, rfl, hv, hq⟩
      rw [(scan_eq_some_iff ht path q).2 hq]
      simp [hv]

theorem lookup_eq_none_iff [Inhabited α] (ht : t.Sound) (path : String) :
    t.lookup path = none ↔
      t.find? path = none ∧ ∀ q, (t.find? (q ++ "*")).isSome → ¬ q.toList <+: path.toList := by
  rw [lookup_eq ht]
  cases hf : t.find? path with
  | some v => simp
  | none =>
    simp only [true_and]
    constructor
    · intro hb q hq hqp
      have hsome : (t.prefixes.find? (path.startsWith ·)).isSome :=
        List.find?_isSome.2 ⟨q, (mem_prefixes_iff ht q).2 hq, String.startsWith_string_iff.2 hqp⟩
      obtain ⟨pre, hs⟩ := Option.isSome_iff_exists.1 hsome
      obtain ⟨v, hv⟩ := Option.isSome_iff_exists.1 ((scan_eq_some_iff ht path pre).1 hs).1
      simp [hs, hv] at hb
    · intro hno
      cases hs : t.prefixes.find? (path.startsWith ·) with
      | none => rfl
      | some pre =>
        have hl := (scan_eq_some_iff ht path pre).1 hs
        exact absurd hl.2.1 (hno pre hl.1)

/-! ### Listing -/

theorem isSome_keyValue?_iff {m : List (String × α)} {k : String} :
    (keyValue? m k).isSome ↔ k ∈ m.map (·.1) := by
  rw [Option.isSome_iff_ne_none, Ne, keyValue?_eq_none_iff, not_not]

theorem mem_patterns (ht : t.Sound) (p : String) : p ∈ t.patterns ↔ (t.find? p).isSome := by
  unfold patterns
  rw [List.mem_mergeSort, List.mem_append]
  cases hp : wildcardPrefix? p with
  | some pre =>
    have hexact : p ∉ t.exact.map (·.1) := fun hm => by
      obtain ⟨e, he, rfl⟩ := List.mem_map.1 hm
      simp [ht.exact_plain e he] at hp
    rw [find?_of_wildcard hp, isSome_keyValue?_iff, wildcardPrefix?_eq_some_iff.1 hp]
    rw [wildcardPrefix?_eq_some_iff.1 hp] at hexact
    simp only [hexact, false_or, List.mem_map]
    exact ⟨fun ⟨e, he, h⟩ => ⟨e, he, star_inj h⟩, fun ⟨e, he, h⟩ => ⟨e, he, h ▸ rfl⟩⟩
  | none =>
    have hwild : p ∉ t.wildcard.map (·.1 ++ "*") := fun hm => by
      obtain ⟨e, -, rfl⟩ := List.mem_map.1 hm
      simp at hp
    rw [find?_of_plain hp, isSome_keyValue?_iff]
    simp only [hwild, or_false]

theorem nodup_patterns (ht : t.Sound) : t.patterns.Nodup := by
  unfold patterns
  refine (List.mergeSort_perm _ _).nodup_iff.2 (List.nodup_append.2 ⟨ht.exact_nodup, ?_, ?_⟩)
  · have hinj : Function.Injective (· ++ "*") := fun _ _ h => star_inj h
    have h := ht.wildcard_nodup.map hinj
    rwa [List.map_map] at h
  · intro a ha b hb hab
    obtain ⟨e, he, rfl⟩ := List.mem_map.1 ha
    obtain ⟨e', -, rfl⟩ := List.mem_map.1 hb
    have := ht.exact_plain e he
    simp [hab] at this

theorem patterns_sorted (ht : t.Sound) : t.patterns.Pairwise (· < ·) := by
  have hle : t.patterns.Pairwise fun a b => decide (a ≤ b) = true :=
    List.pairwise_mergeSort (fun a b c hab hbc => by simp only [decide_eq_true_eq] at *; exact le_trans hab hbc)
      (fun a b => by simpa using le_total a b) _
  exact (hle.and (nodup_patterns ht)).imp fun ⟨h₁, h₂⟩ => lt_of_le_of_ne (by simpa using h₁) h₂

theorem size_eq_length_patterns (t : RouteTable α) : t.size = t.patterns.length := by
  simp [size, patterns]

/-! ### Answers depend on the bound patterns alone -/

theorem lookup_congr [Inhabited α] {t₁ t₂ : RouteTable α} (h₁ : t₁.Sound) (h₂ : t₂.Sound)
    (hf : t₁.find? = t₂.find?) (path : String) : t₁.lookup path = t₂.lookup path := by
  refine Option.ext fun r => ?_
  rw [lookup_eq_some_iff h₁, lookup_eq_some_iff h₂]
  simp only [LongestWildcard, hf]

theorem patterns_congr {t₁ t₂ : RouteTable α} (h₁ : t₁.Sound) (h₂ : t₂.Sound)
    (hf : t₁.find? = t₂.find?) : t₁.patterns = t₂.patterns := by
  refine List.Perm.eq_of_pairwise (fun a b _ _ hab hba => absurd hba (lt_asymm hab))
    (patterns_sorted h₁) (patterns_sorted h₂) ?_
  refine (List.perm_ext_iff_of_nodup (nodup_patterns h₁) (nodup_patterns h₂)).2 fun p => ?_
  rw [mem_patterns h₁, mem_patterns h₂, hf]

theorem size_congr {t₁ t₂ : RouteTable α} (h₁ : t₁.Sound) (h₂ : t₂.Sound)
    (hf : t₁.find? = t₂.find?) : t₁.size = t₂.size := by
  rw [size_eq_length_patterns, size_eq_length_patterns, patterns_congr h₁ h₂ hf]

/-! ### Every table a run reaches behaves as a finite map -/

/-- The tables that registrations and removals reach from the empty one; a refused registration
leaves the table as it was, and lookups, listings and counts change nothing. -/
inductive Reachable [BEq α] : RouteTable α → Prop
  | empty : Reachable {}
  | register {t t' : RouteTable α} (l : Logger) (p : String) (h : α) :
      Reachable t → t.register l p h = .ok t' → Reachable t'
  | unregister {t : RouteTable α} (p : String) (h : α) :
      Reachable t → Reachable (t.unregister p h).1

theorem Reachable.sound [BEq α] [LawfulBEq α] (hr : t.Reachable) : t.Sound := by
  induction hr with
  | empty => exact sound_empty
  | register l p h _ hreg ih => exact sound_register ih hreg
  | unregister p h _ ih => exact sound_unregister ih

/-- A pattern is valid when it has bytes and no `*` before its last byte, so that a `*` can only
end it. -/
def ValidPattern (p : String) : Prop :=
  (Text.ByteText.ofString p).bytes ≠ [] ∧ '*'.toUInt8 ∉ (Text.ByteText.ofString p).bytes.dropLast

/-- A table whose answers are those of the finite map `find?`, with its wildcard prefixes listed
once each, longest first. -/
structure MapSpec [BEq α] [Inhabited α] (t : RouteTable α) : Prop where
  prefixes_perm : t.prefixes.Perm (t.wildcard.map (·.1))
  prefixes_nodup : t.prefixes.Nodup
  longest_first : t.prefixes.Pairwise fun a b => b.utf8ByteSize ≤ a.utf8ByteSize
  /-- A registration succeeds exactly for a valid pattern that is not bound yet. -/
  register_ok_iff : ∀ (l : Logger) (p : String) (h : α),
    (∃ t', t.register l p h = .ok t') ↔ ValidPattern p ∧ t.find? p = none
  /-- A registration binds its pattern and changes no other. -/
  find?_register : ∀ (l : Logger) (p : String) (h : α) (t' : RouteTable α),
    t.register l p h = .ok t' → ∀ q, t'.find? q = if q = p then some h else t.find? q
  /-- A refused registration is a configuration failure for an invalid pattern and a routing
  conflict for a bound one. -/
  register_error : ∀ (l : Logger) (p : String) (h : α) (f : Failure),
    t.register l p h = .error f →
      (¬ ValidPattern p ∧ f.kind = .config) ∨
        (ValidPattern p ∧ (t.find? p).isSome ∧ f.kind = .routingConflict)
  /-- A removal happens exactly when the pattern is bound to this handler. -/
  unregister_iff : ∀ (p : String) (h : α), (t.unregister p h).2 = true ↔ t.find? p = some h
  /-- A removal unbinds its pattern and nothing else. -/
  find?_unregister : ∀ (p : String) (h : α) (q : String),
    (t.unregister p h).1.find? q = if (t.unregister p h).2 = true ∧ q = p then none else t.find? q
  /-- A lookup finds the path's own binding, else the longest bound wildcard prefix of it. -/
  lookup_some_iff : ∀ (path : String) (r : RouteMatch α),
    t.lookup path = some r ↔
      (t.find? path = some r.handler ∧ r.pattern = path) ∨
      (t.find? path = none ∧ ∃ q, r.pattern = q ++ "*" ∧ t.find? r.pattern = some r.handler ∧
        t.LongestWildcard path q)
  lookup_none_iff : ∀ path : String,
    t.lookup path = none ↔
      t.find? path = none ∧ ∀ q, (t.find? (q ++ "*")).isSome → ¬ q.toList <+: path.toList
  /-- The listing is the bound patterns in increasing order, and the size counts them. -/
  patterns_sorted : t.patterns.Pairwise (· < ·)
  mem_patterns : ∀ p, p ∈ t.patterns ↔ (t.find? p).isSome
  size_eq : t.size = t.patterns.length
  /-- Whatever order a removal walks the two maps in, the snapshot it builds answers the same. -/
  rebuild_any_order : ∀ (p : String) (h : α) (ex wd : List (String × α)), t.find? p = some h →
    ex.Perm (t.exact.filter (·.1 != p)) → wd.Perm (t.wildcard.filter (·.1 ++ "*" != p)) →
      (rebuild ex wd).find? = (t.unregister p h).1.find? ∧
      (∀ path, (rebuild ex wd).lookup path = (t.unregister p h).1.lookup path) ∧
      (rebuild ex wd).patterns = (t.unregister p h).1.patterns ∧
      (rebuild ex wd).size = (t.unregister p h).1.size

theorem rebuild_of_perm [BEq α] [LawfulBEq α] (ht : t.Sound) {p : String} {h : α}
    {ex wd : List (String × α)} (hb : t.find? p = some h) (hex : ex.Perm (keptExact t p))
    (hwd : wd.Perm (keptWildcard t p)) :
    (rebuild ex wd).Sound ∧ (rebuild ex wd).find? = (t.unregister p h).1.find? := by
  have hexn : ((keptExact t p).map (·.1)).Nodup := (List.filter_sublist.map _).nodup ht.exact_nodup
  have hwdn : ((keptWildcard t p).map (·.1)).Nodup :=
    (List.filter_sublist.map _).nodup ht.wildcard_nodup
  obtain ⟨hs, hf⟩ := rebuild_perm hexn hwdn (fun e he => ht.exact_plain e (List.mem_filter.1 he).1)
    (fun e he => ht.wildcard_plain e (List.mem_filter.1 he).1) hex.symm hwd.symm
  rw [unregister_of_bound hb]
  exact ⟨hs, hf⟩

theorem mapSpec_of_sound [BEq α] [LawfulBEq α] [Inhabited α] (ht : t.Sound) : t.MapSpec where
  prefixes_perm := ht.prefixes_perm
  prefixes_nodup := ht.prefixes_perm.nodup_iff.2 ht.wildcard_nodup
  longest_first := ht.longest_first
  register_ok_iff l p h := by
    rw [ValidPattern, ← validatePattern_eq_ok_iff]
    exact ⟨fun ⟨_, h'⟩ => (register_eq_ok_iff.1 h').imp_right And.left,
      fun ⟨hv, hf⟩ => ⟨_, register_eq_ok_iff.2 ⟨hv, hf, rfl⟩⟩⟩
  find?_register l p h t' hreg := find?_register hreg
  register_error l p h f herr := by
    simpa only [ValidPattern, ← validatePattern_eq_ok_iff] using register_error herr
  unregister_iff p h := unregister_removed_iff
  find?_unregister p h q := find?_unregister ht q
  lookup_some_iff := lookup_eq_some_iff ht
  lookup_none_iff := lookup_eq_none_iff ht
  patterns_sorted := patterns_sorted ht
  mem_patterns := mem_patterns ht
  size_eq := size_eq_length_patterns t
  rebuild_any_order p h ex wd hb hex hwd := by
    obtain ⟨hs, hf⟩ := rebuild_of_perm ht hb hex hwd
    have hu := sound_unregister (v := h) (p := p) ht
    exact ⟨hf, lookup_congr hs hu hf, patterns_congr hs hu hf, size_congr hs hu hf⟩

/-- Every reachable route table answers as the finite map of its bound patterns. -/
theorem route_table_is_finite_map [BEq α] [LawfulBEq α] [Inhabited α] (hr : t.Reachable) :
    t.MapSpec :=
  mapSpec_of_sound hr.sound

/-- A table with a wildcard, a longer wildcard inside it, and an exact pattern. -/
theorem route_table_is_finite_map_sample :
    ((((({} : RouteTable Nat).add "/a*" 1).add "/a/b*" 2).add "/a" 3)).Reachable ∧
      ((((({} : RouteTable Nat).add "/a*" 1).add "/a/b*" 2).add "/a" 3)).MapSpec := by
  have h₁ : ({} : RouteTable Nat).Reachable :=
    .empty
  have h₂ := Reachable.register {} "/a*" 1 h₁ (register_eq_ok_iff.2 ⟨by decide +kernel, by decide +kernel, rfl⟩)
  have h₃ := Reachable.register {} "/a/b*" 2 h₂ (register_eq_ok_iff.2 ⟨by decide +kernel, by decide +kernel, rfl⟩)
  have h₄ := Reachable.register {} "/a" 3 h₃ (register_eq_ok_iff.2 ⟨by decide +kernel, by decide +kernel, rfl⟩)
  exact ⟨h₄, route_table_is_finite_map h₄⟩

end RouteTable

end ChannelMux
