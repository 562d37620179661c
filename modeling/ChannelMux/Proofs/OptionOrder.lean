import ChannelMux.Options
import Mathlib.Data.String.Basic

/-! Option maps keep their entries in strictly increasing order of names, so each name has one
entry. -/

namespace ChannelMux.Options

/-- Entries in strictly increasing order of names. -/
def Ordered (o : Options) : Prop := o.entries.Pairwise (fun a b => a.1 < b.1)

instance : DecidablePred Ordered := fun o => inferInstanceAs (Decidable (o.entries.Pairwise _))

theorem mem_insertEntry {k v : String} {es : List (String × String)} {e : String × String}
    (h : e ∈ insertEntry k v es) : e = (k, v) ∨ e ∈ es := by
  induction es with
  | nil => simpa [insertEntry] using h
  | cons x rest ih =>
    obtain ⟨k', v'⟩ := x
    unfold insertEntry at h
    split_ifs at h with hlt heq
    · simpa using h
    · rcases List.mem_cons.1 h with rfl | hr
      · exact .inl rfl
      · exact .inr (List.mem_cons_of_mem _ hr)
    · rcases List.mem_cons.1 h with rfl | hr
      · exact .inr List.mem_cons_self
      · exact (ih hr).imp_right (List.mem_cons_of_mem _)

theorem pairwise_insertEntry (k v : String) {es : List (String × String)}
    (h : es.Pairwise (fun a b => a.1 < b.1)) :
    (insertEntry k v es).Pairwise (fun a b => a.1 < b.1) := by
  induction es with
  | nil => simp [insertEntry]
  | cons x rest ih =>
    obtain ⟨k', v'⟩ := x
    rw [List.pairwise_cons] at h
    unfold insertEntry
    split_ifs with hlt heq
    · refine List.pairwise_cons.2 ⟨?_, List.pairwise_cons.2 h⟩
      intro e he
      rcases List.mem_cons.1 he with rfl | hr
      · exact hlt
      · exact lt_trans hlt (h.1 e hr)
    · subst heq
      exact List.pairwise_cons.2 h
    · have hgt : k' < k := lt_of_le_of_ne (not_lt.1 hlt) (Ne.symm heq)
      refine List.pairwise_cons.2 ⟨?_, ih h.2⟩
      intro e he
      rcases mem_insertEntry he with rfl | hr
      · exact hgt
      · exact h.1 e hr

theorem insertEntry_of_lt (k v : String) {es : List (String × String)}
    (h : ∀ e ∈ es, e.1 < k) : insertEntry k v es = es ++ [(k, v)] := by
  induction es with
  | nil => rfl
  | cons x rest ih =>
    obtain ⟨k', v'⟩ := x
    have hx : k' < k := h _ List.mem_cons_self
    rw [insertEntry, if_neg (not_lt.2 hx.le), if_neg (ne_of_gt hx),
      ih fun e he => h e (List.mem_cons_of_mem _ he)]
    rfl

theorem ordered_insert {o : Options} (h : o.Ordered) (k v : String) : (o.insert k v).Ordered :=
  pairwise_insertEntry k v h

theorem mem_insert {o : Options} {k v : String} {e : String × String}
    (h : e ∈ (o.insert k v).entries) : e = (k, v) ∨ e ∈ o.entries :=
  mem_insertEntry h

theorem ordered_empty : empty.Ordered := List.Pairwise.nil

theorem ordered_erase {o : Options} (h : o.Ordered) (k : String) : (o.erase k).Ordered :=
  List.Pairwise.filter _ h

theorem mem_erase {o : Options} {k : String} {e : String × String}
    (h : e ∈ (o.erase k).entries) : e ∈ o.entries :=
  (List.mem_filter.1 h).1

theorem mem_of_get?_eq_some {o : Options} {k v : String} (h : o.get? k = some v) :
    (k, v) ∈ o.entries := by
  obtain ⟨e, he, rfl⟩ := Option.map_eq_some_iff.1 h
  have hk : e.1 = k := by simpa using List.find?_some he
  exact hk ▸ List.mem_of_find?_eq_some he

theorem ordered_foldl_insert (ps : List (String × String)) {o : Options} (h : o.Ordered) :
    (ps.foldl (fun o p => o.insert p.1 p.2) o).Ordered := by
  induction ps generalizing o with
  | nil => exact h
  | cons p rest ih => exact ih (ordered_insert h p.1 p.2)

theorem mem_foldl_insert (ps : List (String × String)) {o : Options} {e : String × String}
    (h : e ∈ (ps.foldl (fun o p => o.insert p.1 p.2) o).entries) : e ∈ o.entries ∨ e ∈ ps := by
  induction ps generalizing o with
  | nil => exact .inl h
  | cons p rest ih =>
    rcases ih h with hi | hr
    · rcases mem_insert hi with rfl | ho
      · exact .inr List.mem_cons_self
      · exact .inl ho
    · exact .inr (List.mem_cons_of_mem _ hr)

theorem ordered_ofList (ps : List (String × String)) : (ofList ps).Ordered :=
  ordered_foldl_insert ps ordered_empty

theorem mem_ofList {ps : List (String × String)} {e : String × String}
    (h : e ∈ (ofList ps).entries) : e ∈ ps :=
  (mem_foldl_insert ps h).resolve_left List.not_mem_nil

theorem ordered_merge {o : Options} (h : o.Ordered) (other : Options) : (o.merge other).Ordered :=
  ordered_foldl_insert other.entries h

theorem mem_merge {o other : Options} {e : String × String} (h : e ∈ (o.merge other).entries) :
    e ∈ o.entries ∨ e ∈ other.entries :=
  mem_foldl_insert other.entries h

theorem foldl_insert_of_pairwise {es : List (String × String)} (acc : List (String × String))
    (h : (acc ++ es).Pairwise (fun a b => a.1 < b.1)) :
    es.foldl (fun (o : Options) p => o.insert p.1 p.2) ⟨acc⟩ = ⟨acc ++ es⟩ := by
  induction es generalizing acc with
  | nil => simp
  | cons p rest ih =>
    have hp : ∀ e ∈ acc, e.1 < p.1 := fun e he =>
      (List.pairwise_append.1 h).2.2 e he p List.mem_cons_self
    have step : (⟨acc⟩ : Options).insert p.1 p.2 = ⟨acc ++ [p]⟩ := by
      simp only [insert, insertEntry_of_lt p.1 p.2 hp]
    rw [List.foldl_cons, step, ih (acc ++ [p]) (by simpa using h)]
    simp

theorem ofList_of_pairwise {es : List (String × String)}
    (h : es.Pairwise (fun a b => a.1 < b.1)) : ofList es = ⟨es⟩ := by
  have h' := @foldl_insert_of_pairwise es [] (by rwa [List.nil_append])
  rwa [List.nil_append] at h'

end ChannelMux.Options
