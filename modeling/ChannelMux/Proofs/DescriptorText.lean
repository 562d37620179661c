import ChannelMux.Descriptor
import ChannelMux.Proofs.OptionOrder

/-! A descriptor's rendering reads back as the same descriptor. -/

namespace ChannelMux

/-! ### Splitting at the first separator -/

theorem splitFirst_nil_sep (xs : List Char) : splitFirst [] xs = some ([], xs) := by
  cases xs <;> simp [splitFirst]

theorem eq_of_splitFirst {sep xs a b : List Char} (h : splitFirst sep xs = some (a, b)) :
    xs = a ++ sep ++ b := by
  induction xs generalizing a b with
  | nil => by_cases hs : sep = [] <;> simp_all [splitFirst]
  | cons c cs ih =>
    unfold splitFirst at h
    split at h
    · rename_i hp
      obtain ⟨rfl, rfl⟩ := Prod.mk.inj (Option.some.inj h)
      obtain ⟨t, ht⟩ := List.isPrefixOf_iff_prefix.1 hp
      simp [← ht]
    · obtain ⟨⟨a', b'⟩, h', hab⟩ := Option.map_eq_some_iff.1 h
      cases hab
      simp [ih h']

theorem splitFirst_append {sep xs a b : List Char} (h : splitFirst sep xs = some (a, b))
    (c : List Char) : splitFirst sep (a ++ sep ++ c) = some (a, c) := by
  induction xs generalizing a b with
  | nil =>
    by_cases hs : sep = []
    · subst hs; simp_all [splitFirst, splitFirst_nil_sep]
    · simp [splitFirst, hs] at h
  | cons x xs ih =>
    unfold splitFirst at h
    split at h
    · obtain ⟨rfl, rfl⟩ := Prod.mk.inj (Option.some.inj h)
      cases sep with
      | nil => simp [splitFirst_nil_sep]
      | cons s ss => simp [splitFirst]
    · rename_i hnp
      obtain ⟨⟨a', b'⟩, h', hab⟩ := Option.map_eq_some_iff.1 h
      cases hab
      have hxs := eq_of_splitFirst h'
      have hnot : ¬ sep <+: x :: a' ++ sep ++ c := by
        intro hp
        have hshort : sep <+: x :: a' ++ sep :=
          List.prefix_of_prefix_length_le hp (by simp [List.append_assoc]) (by simp; omega)
        exact hnp (List.isPrefixOf_iff_prefix.2 (hxs ▸ hshort.trans (by simp [List.append_assoc])))
      rw [List.cons_append, List.cons_append, splitFirst,
        if_neg (by rwa [List.isPrefixOf_iff_prefix, ← List.cons_append, ← List.cons_append])]
      simpa [List.append_assoc] using ih h'

/-! ### Splitting at `;` and `=` -/

theorem not_mem_of_mem_splitOn {α : Type} [DecidableEq α] {x : α} {xs l : List α} (h : l ∈ xs.splitOn x) :
    x ∉ l := by
  induction xs generalizing l with
  | nil => simp_all
  | cons c cs ih =>
    rw [List.splitOn_cons_eq_if_modifyHead] at h
    split at h
    · rcases List.mem_cons.1 h with rfl | hr
      · simp
      · exact ih hr
    · have hne := List.splitOn_ne_nil x cs
      generalize cs.splitOn x = ls at ih hne h
      cases ls with
      | nil => contradiction
      | cons l₀ rest =>
        rcases List.mem_cons.1 h with rfl | hr
        · rename_i hcx
          have hl₀ := ih List.mem_cons_self
          rintro (_ | ⟨_, hm⟩)
          · exact hcx (by simp)
          · exact hl₀ hm
        · exact ih (List.mem_cons_of_mem _ hr)

theorem splitOn_segments {host : List Char} {segs : List (List Char)} (hh : ';' ∉ host)
    (hs : ∀ s ∈ segs, ';' ∉ s) : (host ++ segs.flatMap (';' :: ·)).splitOn ';' = host :: segs := by
  induction segs generalizing host with
  | nil => simpa using List.splitOn_eq_singleton hh
  | cons s rest ih =>
    rw [List.flatMap_cons, List.cons_append, List.splitOn_append_cons_self_of_not_mem hh,
      ih (hs s List.mem_cons_self) fun t ht => hs t (List.mem_cons_of_mem _ ht)]

/-! ### Option names and values that can stand between `;`s -/

/-- A name is non-empty and holds neither `;` nor `=`. -/
def NameSpelled (k : String) : Prop := k.toList ≠ [] ∧ ';' ∉ k.toList ∧ '=' ∉ k.toList

/-- Every name is spelled as a name and no value holds a `;`. -/
def Options.Separable (o : Options) : Prop := ∀ e ∈ o.entries, NameSpelled e.1 ∧ ';' ∉ e.2.toList

/-- The text of one option segment. -/
def segmentText (e : String × String) : List Char := e.1.toList ++ '=' :: e.2.toList

theorem readSegments_cons_named (text : String) {k w : List Char} (hk : k ≠ []) (heq : '=' ∉ k)
    (rest : List (List Char)) :
    readSegments text ((k ++ '=' :: w) :: rest) =
      (readSegments text rest).map ((String.ofList k, String.ofList w) :: ·) := by
  have hsplit : (k ++ '=' :: w).splitOn '=' = k :: w.splitOn '=' :=
    List.splitOn_append_cons_self_of_not_mem heq _
  have hval : "=".intercalate ((w.splitOn '=').map String.ofList) = String.ofList w := by
    rw [← String.toList_inj, String.toList_intercalate, List.map_map]
    simp
  have hv : (w.splitOn '=').isEmpty = false := by simp
  have hseg : (k ++ '=' :: w).isEmpty = false := by simp
  rw [readSegments, hseg, hsplit]
  simp only [Bool.false_eq_true, if_false, List.isEmpty_iff, hk, hv, Bool.or_false, hval]
  cases readSegments text rest <;> rfl

theorem readSegments_cons_segment (text : String) {e : String × String} (he : NameSpelled e.1)
    (rest : List (List Char)) :
    readSegments text (segmentText e :: rest) =
      (readSegments text rest).map (e :: ·) := by
  obtain ⟨hne, -, heq⟩ := he
  simpa [segmentText] using readSegments_cons_named text (w := e.2.toList) hne heq rest

theorem readSegments_render (text : String) {es : List (String × String)}
    (h : ∀ e ∈ es, NameSpelled e.1) : readSegments text (es.map segmentText) = .ok es := by
  induction es with
  | nil => rfl
  | cons e rest ih =>
    rw [List.map_cons, readSegments_cons_segment text (h e List.mem_cons_self),
      ih fun e' he' => h e' (List.mem_cons_of_mem _ he')]
    rfl

theorem readSegments_cons_of_ok {text : String} {seg : List Char} {rest : List (List Char)}
    {pairs : List (String × String)} (h : readSegments text (seg :: rest) = .ok pairs)
    (hne : seg ≠ []) :
    ∃ k w tail, seg = k ++ '=' :: w ∧ k ≠ [] ∧ '=' ∉ k ∧
      pairs = (String.ofList k, String.ofList w) :: tail ∧ readSegments text rest = .ok tail := by
  have hseg : seg.isEmpty = false := by simpa using hne
  rw [readSegments, hseg] at h
  simp only [Bool.false_eq_true, if_false] at h
  split at h
  · rename_i k v hkv
    split at h
    · cases h
    · rename_i hok
      simp only [Bool.or_eq_true, List.isEmpty_iff, not_or] at hok
      split at h
      · rename_i tail htail
        cases h
        have hjoin : ['='].intercalate (seg.splitOn '=') = seg := List.intercalate_splitOn '='
        rw [hkv, List.intercalate_cons_of_ne_nil hok.2] at hjoin
        have hval : "=".intercalate (v.map String.ofList) = String.ofList (['='].intercalate v) := by
          rw [← String.toList_inj, String.toList_intercalate, List.map_map]
          simp
        refine ⟨k, ['='].intercalate v, tail, by simpa using hjoin.symm, hok.1,
          not_mem_of_mem_splitOn (hkv ▸ List.mem_cons_self), by rw [hval], htail⟩
      · cases h
  · rename_i hnil
    exact absurd hnil (List.splitOn_ne_nil '=' seg)

theorem readSegments_separable {text : String} {segs : List (List Char)}
    {pairs : List (String × String)} (h : readSegments text segs = .ok pairs)
    (hs : ∀ s ∈ segs, ';' ∉ s) : ∀ e ∈ pairs, NameSpelled e.1 ∧ ';' ∉ e.2.toList := by
  induction segs generalizing pairs with
  | nil => cases h; simp
  | cons seg rest ih =>
    have hrest := fun t ht => hs t (List.mem_cons_of_mem seg ht)
    by_cases hne : seg = []
    · subst hne
      exact ih (by simpa [readSegments] using h) hrest
    · obtain ⟨k, w, tail, rfl, hk, hkeq, rfl, htail⟩ := readSegments_cons_of_ok h hne
      have hsemi : ';' ∉ k ++ '=' :: w := hs _ List.mem_cons_self
      intro e he
      rcases List.mem_cons.1 he with rfl | ht
      · simp only [List.mem_append, List.mem_cons, not_or] at hsemi
        exact ⟨⟨by simpa using hk, by simpa using hsemi.1, by simpa using hkeq⟩,
          by simpa using hsemi.2.2⟩
      · exact ih htail hrest e ht

/-! ### Filling in the derived fields -/

theorem finish_fields {source scheme host : String} {o : Options} {d : Descriptor}
    (h : Descriptor.finish source scheme host o = .ok d) :
    d.source = source ∧ d.scheme = scheme ∧ d.host = host ∧ d.options = o := by
  unfold Descriptor.finish at h
  by_cases ht : (Descriptor.schemeParts scheme).1.isEmpty = true
  · simp [ht] at h
  · simp only [ht, if_false, Bool.false_eq_true] at h
    split at h
    · cases h
    · cases h
      exact ⟨rfl, rfl, rfl, rfl⟩

theorem finish_eq_ok {source scheme host : String} {o : Options} {x : String}
    (transport : (Descriptor.schemeParts scheme).1.isEmpty = false)
    (dump : o.getChoice "dump" DumpMode.names = .ok x) :
    Descriptor.finish source scheme host o =
      .ok ⟨source, scheme, (Descriptor.schemeParts scheme).1, (Descriptor.schemeParts scheme).2, host,
        o.getString "name" "", (DumpMode.ofName? x).getD .no, o⟩ := by
  simp [Descriptor.finish, transport, dump]

theorem finish_source {source scheme host : String} {o : Options} {d : Descriptor}
    (h : Descriptor.finish source scheme host o = .ok d) (source' : String) :
    Descriptor.finish source' scheme host o = .ok { d with source := source' } := by
  unfold Descriptor.finish at h ⊢
  by_cases ht : (Descriptor.schemeParts scheme).1.isEmpty = true
  · simp [ht] at h
  · simp only [ht, if_false, Bool.false_eq_true] at h ⊢
    split at h
    · cases h
    · cases h
      rfl

/-! ### Descriptors that read back -/

/-- What a descriptor read back from its rendering needs. -/
structure Descriptor.Renders (d : Descriptor) : Prop where
  scheme_ne : d.scheme.toList ≠ []
  scheme_ends : splitFirst "://".toList (d.scheme.toList ++ "://".toList) = some (d.scheme.toList, [])
  host_clean : ';' ∉ d.host.toList
  ordered : d.options.Ordered
  separable : d.options.Separable
  finished : Descriptor.finish d.source d.scheme d.host d.options = .ok d

theorem parse_written {scheme host : String} {es : List (String × String)}
    (scheme_ne : scheme.toList ≠ [])
    (ends : splitFirst "://".toList (scheme.toList ++ "://".toList) = some (scheme.toList, []))
    (host_clean : ';' ∉ host.toList) (separable : ∀ e ∈ es, NameSpelled e.1 ∧ ';' ∉ e.2.toList) :
    Descriptor.parse (scheme ++ "://" ++ host ++ String.join (es.map fun (k, v) => ";" ++ k ++ "=" ++ v)) =
      Descriptor.finish (scheme ++ "://" ++ host ++ String.join (es.map fun (k, v) => ";" ++ k ++ "=" ++ v))
        scheme host (Options.ofList es) := by
  have written : (scheme ++ "://" ++ host ++ String.join (es.map fun (k, v) => ";" ++ k ++ "=" ++ v)).toList =
      scheme.toList ++ "://".toList ++ (host.toList ++ (es.map segmentText).flatMap (';' :: ·)) := by
    simp [segmentText, List.flatMap_map, List.append_assoc]
  have hsegs : ∀ s ∈ es.map segmentText, ';' ∉ s := by
    intro s hs
    obtain ⟨e, he, rfl⟩ := List.mem_map.1 hs
    have := separable e he
    simp only [segmentText, List.mem_append, List.mem_cons, not_or]
    exact ⟨this.1.2.1, by simp, this.2⟩
  obtain ⟨c, cs, hcs⟩ := List.exists_cons_of_ne_nil scheme_ne
  unfold Descriptor.parse
  rw [written, splitFirst_append ends, hcs]
  dsimp only
  rw [splitOn_segments host_clean hsegs]
  dsimp only
  rw [readSegments_render _ fun e he => (separable e he).1]
  dsimp only
  rw [← hcs, String.ofList_toList, String.ofList_toList]

theorem parse_render {d : Descriptor} (h : d.Renders) :
    Descriptor.parse d.render = .ok { d with source := d.render } := by
  unfold Descriptor.render
  rw [parse_written h.scheme_ne h.scheme_ends h.host_clean h.separable,
    Options.ofList_of_pairwise h.ordered]
  exact finish_source h.finished _

theorem renders_of_finish {source scheme host : String} {o : Options} {d : Descriptor}
    (h : Descriptor.finish source scheme host o = .ok d) (hne : scheme.toList ≠ [])
    (hends : splitFirst "://".toList (scheme.toList ++ "://".toList) = some (scheme.toList, []))
    (hhost : ';' ∉ host.toList) (hord : o.Ordered) (hsep : o.Separable) : d.Renders := by
  obtain ⟨hs, hsc, hh, ho⟩ := finish_fields h
  subst hsc hh ho hs
  exact ⟨hne, hends, hhost, hord, hsep, h⟩

theorem renders_of_parse {u : String} {d : Descriptor} (h : Descriptor.parse u = .ok d) :
    d.Renders := by
  unfold Descriptor.parse at h
  split at h
  · cases h
  · cases h
  · rename_i scheme rest hnil hsplit
    have hne : scheme ≠ [] := by
      rintro rfl
      exact hnil rfl
    split at h
    · cases h
    · rename_i host segs hsegs
      have hclean : ∀ l ∈ rest.splitOn ';', ';' ∉ l := fun l hl => not_mem_of_mem_splitOn hl
      split at h
      · cases h
      · rename_i pairs hpairs
        have hsep := readSegments_separable hpairs fun s hs => hclean s (hsegs ▸ List.mem_cons_of_mem _ hs)
        refine renders_of_finish h (by simpa using hne) ?_ (by simpa using hclean host (hsegs ▸ List.mem_cons_self))
          (Options.ordered_ofList pairs) fun e he => hsep e (Options.mem_ofList he)
        simpa using splitFirst_append hsplit []

theorem renders_override {d d' : Descriptor} (h : d.Renders) {extra : Options}
    (hx : extra.Separable) (ho : d.override extra = .ok d') : d'.Renders := by
  unfold Descriptor.override at ho
  split at ho
  · cases ho
    exact h
  · have hord := Options.ordered_merge h.ordered extra
    have hsep : (d.options.merge extra).Separable := fun e he =>
      (Options.mem_merge he).elim (h.separable e) (hx e)
    dsimp only at ho
    split at ho
    · rename_i v hv
      have hhost : ';' ∉ v.toList := (hsep _ (Options.mem_of_get?_eq_some hv)).2
      exact renders_of_finish ho h.scheme_ne h.scheme_ends hhost (Options.ordered_erase hord _)
        fun e he => hsep e (Options.mem_erase he)
    · exact renders_of_finish ho h.scheme_ne h.scheme_ends h.host_clean hord hsep

/-- A descriptor reads back from its rendering with the rendering as its source, and rendering
what was read gives the same text again. -/
def Descriptor.ReadsBack (d : Descriptor) : Prop :=
  Descriptor.parse d.render = .ok { d with source := d.render } ∧
    ({ d with source := d.render } : Descriptor).render = d.render

theorem readsBack_of_renders {d : Descriptor} (h : d.Renders) : d.ReadsBack :=
  ⟨parse_render h, rfl⟩

/-- Every descriptor read from a text, and every separable override of it, reads back from its
rendering. -/
theorem rendering_reads_back {u : String} {d : Descriptor} (h : Descriptor.parse u = .ok d) :
    d.ReadsBack ∧ ∀ (extra : Options) (d' : Descriptor), extra.Separable →
      d.override extra = .ok d' → d'.ReadsBack := by
  have hd := renders_of_parse h
  exact ⟨readsBack_of_renders hd, fun _ _ hx ho => readsBack_of_renders (renders_override hd hx ho)⟩

/-- A text with a `://` in its host, an empty segment, an empty value, a value holding `=`, and
a repeated name whose later value wins. -/
theorem rendering_reads_back_sample :
    Descriptor.parse "ws+http://x://y;b=1;;name=n;a=;b=k=v" =
        .ok ⟨"ws+http://x://y;b=1;;name=n;a=;b=k=v", "ws+http", "ws", "http", "x://y", "n", .no,
          ⟨[("a", ""), ("b", "k=v"), ("name", "n")]⟩⟩ ∧
      (Descriptor.ReadsBack ⟨"ws+http://x://y;b=1;;name=n;a=;b=k=v", "ws+http", "ws", "http",
          "x://y", "n", .no, ⟨[("a", ""), ("b", "k=v"), ("name", "n")]⟩⟩ ∧
        ∀ (extra : Options) (d' : Descriptor), extra.Separable →
          Descriptor.override ⟨"ws+http://x://y;b=1;;name=n;a=;b=k=v", "ws+http", "ws", "http",
            "x://y", "n", .no, ⟨[("a", ""), ("b", "k=v"), ("name", "n")]⟩⟩ extra = .ok d' →
          d'.ReadsBack) :=
  have hp : Descriptor.parse "ws+http://x://y;b=1;;name=n;a=;b=k=v" =
      .ok ⟨"ws+http://x://y;b=1;;name=n;a=;b=k=v", "ws+http", "ws", "http", "x://y", "n", .no,
        ⟨[("a", ""), ("b", "k=v"), ("name", "n")]⟩⟩ := by rfl
  ⟨hp, rendering_reads_back hp⟩

end ChannelMux
