import ChannelMux.Proofs.OptionOrder

/-! Options read as finite maps from names to values. -/

namespace ChannelMux.Options

variable {o o' p : Options} {k v : String}

/-! ### One entry per name -/

theorem eq_of_mem_of_fst_eq {es : List (String × String)} (apart : es.Pairwise (fun a b => a.1 ≠ b.1))
    {e e' : String × String} (he : e ∈ es) (he' : e' ∈ es) (same : e.1 = e'.1) : e = e' := by
  induction es with
  | nil => cases he
  | cons x rest ih =>
    rw [List.pairwise_cons] at apart
    rcases List.mem_cons.1 he with rfl | hr <;> rcases List.mem_cons.1 he' with rfl | hr'
    · rfl
    · exact absurd same (apart.1 _ hr')
    · exact absurd same.symm (apart.1 _ hr)
    · exact ih apart.2 hr hr'

theorem find?_eq_some_iff_mem {es : List (String × String)} (apart : es.Pairwise (fun a b => a.1 ≠ b.1)) :
    (es.find? (·.1 == k)).map (·.2) = some v ↔ (k, v) ∈ es := by
  constructor
  · intro found
    obtain ⟨e, he, rfl⟩ := Option.map_eq_some_iff.1 found
    have hk : e.1 = k := by simpa using List.find?_some he
    exact hk ▸ List.mem_of_find?_eq_some he
  · intro hm
    obtain ⟨e, he⟩ : ∃ e, es.find? (·.1 == k) = some e :=
      Option.isSome_iff_exists.1 (List.find?_isSome.2 ⟨(k, v), hm, beq_self_eq_true k⟩)
    have hk : e.1 = k := by simpa using List.find?_some he
    rw [he, eq_of_mem_of_fst_eq apart (List.mem_of_find?_eq_some he) hm hk]
    rfl

theorem Ordered.apart (h : o.Ordered) : o.entries.Pairwise (fun a b => a.1 ≠ b.1) :=
  h.imp ne_of_lt

theorem Ordered.nodup (h : o.Ordered) : o.entries.Nodup := by
  apply List.Pairwise.imp _ h
  intro a b hab same
  subst same
  exact lt_irrefl _ hab

theorem get?_eq_some_iff (h : o.Ordered) : o.get? k = some v ↔ (k, v) ∈ o.entries :=
  find?_eq_some_iff_mem h.apart

theorem ext_get? (h : o.Ordered) (h' : o'.Ordered) (same : ∀ k, o.get? k = o'.get? k) : o = o' := by
  have mem : ∀ e, e ∈ o.entries ↔ e ∈ o'.entries := fun ⟨k, v⟩ => by
    rw [← get?_eq_some_iff h, ← get?_eq_some_iff h', same]
  have perm := (List.perm_ext_iff_of_nodup h.nodup h'.nodup).2 mem
  obtain ⟨es⟩ := o
  obtain ⟨es'⟩ := o'
  congr
  exact perm.eq_of_pairwise (fun _ _ _ _ hab hba => absurd (lt_trans hab hba) (lt_irrefl _)) h h'

/-! ### The last write wins -/

theorem get?_foldl_insert (ps : List (String × String)) (o : Options) (k : String) :
    (ps.foldl (fun o p => o.insert p.1 p.2) o).get? k =
      ((ps.reverse.find? (·.1 == k)).map (·.2)).or (o.get? k) := by
  induction ps generalizing o with
  | nil => simp
  | cons p rest ih =>
    rw [List.foldl_cons, ih, get?_insert, List.reverse_cons, List.find?_append]
    by_cases hk : k = p.1
    · subst hk
      cases rest.reverse.find? (·.1 == p.1) <;> simp
    · have : (p.1 == k) = false := by simp [Ne.symm hk]
      cases rest.reverse.find? (·.1 == k) <;> simp [hk, this]

theorem get?_ofList (ps : List (String × String)) (k : String) :
    (ofList ps).get? k = (ps.reverse.find? (·.1 == k)).map (·.2) := by
  rw [ofList, get?_foldl_insert, get?_empty, Option.or_none]

theorem get?_merge (o p : Options) (k : String) :
    (o.merge p).get? k = ((ofList p.entries).get? k).or (o.get? k) := by
  rw [merge, get?_foldl_insert, get?_ofList]

theorem get?_merge_of_ordered (hp : p.Ordered) (o : Options) (k : String) :
    (o.merge p).get? k = (p.get? k).or (o.get? k) := by
  rw [get?_merge, ofList_of_pairwise hp]

theorem merge_ofList (ho : o.Ordered) (p : Options) : o.merge (ofList p.entries) = o.merge p :=
  ext_get? (ordered_merge ho _) (ordered_merge ho _) fun k => by
    rw [get?_merge_of_ordered (ordered_ofList _), get?_merge]

theorem merge_eq_self_of_held (ho : o.Ordered) (held : ∀ e ∈ p.entries, o.get? e.1 = some e.2) :
    o.merge p = o :=
  ext_get? (ordered_merge ho p) ho fun k => by
    rw [get?_merge]
    cases hl : (ofList p.entries).get? k with
    | none => rfl
    | some v =>
      have mem := mem_ofList ((get?_eq_some_iff (ordered_ofList _)).1 hl)
      exact (held _ mem).symm

/-! ### Empty maps and absent names -/

theorem insertEntry_ne_nil (k v : String) (es : List (String × String)) : insertEntry k v es ≠ [] := by
  cases es with
  | nil => simp [insertEntry]
  | cons e rest =>
    unfold insertEntry
    split_ifs <;> simp

theorem isEmpty_merge_of_isEmpty_false (h : o.isEmpty = false) (p : Options) :
    (o.merge p).isEmpty = false := by
  unfold merge
  induction p.entries generalizing o with
  | nil => exact h
  | cons e rest ih =>
    apply ih
    simp [isEmpty, insert, insertEntry_ne_nil]

theorem isEmpty_ofList_entries (h : p.isEmpty = false) : (ofList p.entries).isEmpty = false := by
  obtain ⟨_ | ⟨e, rest⟩⟩ := p
  · cases h
  · exact isEmpty_merge_of_isEmpty_false (o := ⟨[e]⟩) rfl ⟨rest⟩

theorem merge_empty_right (o : Options) : o.merge empty = o := rfl

theorem eq_empty_of_isEmpty (h : o.isEmpty = true) : o = empty := by
  obtain ⟨es⟩ := o
  simp only [isEmpty, List.isEmpty_iff] at h
  subst h
  rfl

theorem erase_of_get?_eq_none (h : o.get? k = none) : o.erase k = o := by
  obtain ⟨es⟩ := o
  simp only [get?, Option.map_eq_none_iff, List.find?_eq_none, beq_iff_eq] at h
  simp only [erase, Options.mk.injEq]
  exact List.filter_eq_self.2 fun e he => by simpa using h e he

/-! ### Given values -/

theorem given?_eq_some_iff : o.given? k = some v ↔ o.get? k = some v ∧ v ≠ "" := by
  cases hg : o.get? k with
  | none => simp [given?, hg]
  | some w =>
    by_cases h : w = ""
    · subst h
      simp [given?, hg]
    · rw [show o.given? k = some w by simp [given?, hg, h]]
      constructor
      · intro same
        cases same
        exact ⟨rfl, h⟩
      · rintro ⟨same, -⟩
        exact same

theorem given?_eq_none_iff : o.given? k = none ↔ o.get? k = none ∨ o.get? k = some "" := by
  cases hg : o.get? k with
  | none => simp [given?, hg]
  | some w =>
    by_cases h : w = ""
    · subst h
      simp [given?, hg]
    · rw [show o.given? k = some w by simp [given?, hg, h]]
      simp [h]

theorem given?_of_get? (h : o.get? k = some v) (filled : v ≠ "") : o.given? k = some v :=
  given?_eq_some_iff.2 ⟨h, filled⟩

end ChannelMux.Options
