import ChannelMux.Header
import ChannelMux.Proofs.ByteTextReading

/-! The order of normalized header lines. -/

namespace ChannelMux.Text

/-! ### Texts compare as their bytes -/

/-- A byte string read as a big-endian number. -/
def bigEndian : List UInt8 → Nat
  | [] => 0
  | b :: bs => b.toNat * 256 ^ bs.length + bigEndian bs

theorem bigEndian_lt (bs : List UInt8) : bigEndian bs < 256 ^ bs.length := by
  induction bs with
  | nil => simp [bigEndian]
  | cons b bs ih =>
    have byte : b.toNat + 1 ≤ 256 := b.toNat_lt
    calc bigEndian (b :: bs) = b.toNat * 256 ^ bs.length + bigEndian bs := rfl
      _ < b.toNat * 256 ^ bs.length + 256 ^ bs.length := by omega
      _ = (b.toNat + 1) * 256 ^ bs.length := by rw [Nat.add_one_mul]
      _ ≤ 256 * 256 ^ bs.length := Nat.mul_le_mul_right _ byte
      _ = 256 ^ (b :: bs).length := by rw [List.length_cons, Nat.pow_succ, Nat.mul_comm]

theorem lead_lt {a b : UInt8} (lt : a.toNat < b.toNat) (p q x y : List UInt8) :
    a :: p ++ x < b :: q ++ y :=
  List.cons_lt_cons_iff.2 (.inl (UInt8.lt_iff_toNat_lt.2 lt))

theorem append_lt_of_bigEndian_lt {p q : List UInt8} (same : p.length = q.length)
    (lt : bigEndian p < bigEndian q) (x y : List UInt8) : p ++ x < q ++ y := by
  induction p generalizing q with
  | nil =>
    obtain rfl : q = [] := List.eq_nil_of_length_eq_zero same.symm
    simp [bigEndian] at lt
  | cons a p ih =>
    obtain _ | ⟨b, q⟩ := q
    · simp at same
    have rest : p.length = q.length := by simpa using same
    have below := bigEndian_lt q
    simp only [bigEndian, rest] at lt
    rcases Nat.lt_trichotomy a.toNat b.toNat with first | first | first
    · exact lead_lt first p q x y
    · obtain rfl : a = b := UInt8.toNat_inj.1 first
      exact List.cons_lt_cons_iff.2 (.inr ⟨rfl, ih rest (by omega)⟩)
    · -- a greater first byte outweighs everything after it
      have outweighs : (b.toNat + 1) * 256 ^ q.length ≤ a.toNat * 256 ^ q.length :=
        Nat.mul_le_mul_right _ first
      rw [Nat.add_one_mul] at outweighs
      omega

theorem utf8EncodeChar_append_lt {c d : Char} (lt : c < d) (x y : List UInt8) :
    String.utf8EncodeChar c ++ x < String.utf8EncodeChar d ++ y := by
  have ordered : c.val.toNat < d.val.toNat := UInt32.lt_iff_toNat_lt.1 lt
  have valid : d.val.toNat < 0xD800 ∨ (0xDFFF < d.val.toNat ∧ d.val.toNat < 0x110000) := d.valid
  unfold String.utf8EncodeChar
  dsimp only
  generalize c.val.toNat = v at ordered ⊢
  generalize d.val.toNat = w at ordered valid ⊢
  -- one case per pair of encoding lengths: a shorter one begins with a smaller byte, and one of
  -- the same length has the smaller big-endian value
  by_cases w1 : w ≤ 127
  · rw [if_pos (by omega : v ≤ 127), if_pos w1]
    exact lead_lt (by simp only [UInt8.toNat_ofNat']; omega) [] [] x y
  by_cases w2 : w ≤ 2047
  · rw [if_neg w1, if_pos w2]
    by_cases v1 : v ≤ 127
    · rw [if_pos v1]
      exact lead_lt (by simp only [UInt8.toNat_ofNat']; omega) _ _ x y
    · rw [if_neg v1, if_pos (by omega : v ≤ 2047)]
      exact append_lt_of_bigEndian_lt (by simp) (by simp (disch := omega) only [bigEndian, List.length_cons, List.length_nil, toNat_ofNat_lt]; omega) x y
  by_cases w3 : w ≤ 65535
  · rw [if_neg w1, if_neg w2, if_pos w3]
    by_cases v1 : v ≤ 127
    · rw [if_pos v1]
      exact lead_lt (by simp only [UInt8.toNat_ofNat']; omega) _ _ x y
    by_cases v2 : v ≤ 2047
    · rw [if_neg v1, if_pos v2]
      exact lead_lt (by simp only [UInt8.toNat_ofNat']; omega) _ _ x y
    · rw [if_neg v1, if_neg v2, if_pos (by omega : v ≤ 65535)]
      exact append_lt_of_bigEndian_lt (by simp) (by simp (disch := omega) only [bigEndian, List.length_cons, List.length_nil, toNat_ofNat_lt]; omega) x y
  · rw [if_neg w1, if_neg w2, if_neg w3]
    by_cases v1 : v ≤ 127
    · rw [if_pos v1]
      exact lead_lt (by simp only [UInt8.toNat_ofNat']; omega) _ _ x y
    by_cases v2 : v ≤ 2047
    · rw [if_neg v1, if_pos v2]
      exact lead_lt (by simp only [UInt8.toNat_ofNat']; omega) _ _ x y
    by_cases v3 : v ≤ 65535
    · rw [if_neg v1, if_neg v2, if_pos v3]
      exact lead_lt (by simp only [UInt8.toNat_ofNat']; omega) _ _ x y
    · rw [if_neg v1, if_neg v2, if_neg v3]
      -- four bytes each: the first byte is the top digit, and past an equal first byte the rest
      -- compare as three bytes do
      rcases Nat.lt_or_ge (v / 262144) (w / 262144) with top | top
      · exact lead_lt (by simp (disch := omega) only [toNat_ofNat_lt]; omega) _ _ x y
      · rw [show v / 262144 = w / 262144 by omega]
        refine List.cons_lt_cons_iff.2 (.inr ⟨rfl, append_lt_of_bigEndian_lt (by simp) ?_ x y⟩)
        simp (disch := omega) only [bigEndian, List.length_cons, List.length_nil, toNat_ofNat_lt]
        omega

theorem append_lt_append_left_iff {p x y : List UInt8} : p ++ x < p ++ y ↔ x < y := by
  induction p with
  | nil => rfl
  | cons b p ih => rw [List.cons_append, List.cons_append, List.cons_lt_cons_self, ih]

theorem flatMap_utf8EncodeChar_lt_iff (cs ds : List Char) :
    cs.flatMap String.utf8EncodeChar < ds.flatMap String.utf8EncodeChar ↔ cs < ds := by
  induction cs generalizing ds with
  | nil =>
    cases ds with
    | nil => simp
    | cons d ds =>
      obtain ⟨b, bs, written⟩ := List.exists_cons_of_ne_nil (String.utf8EncodeChar_ne_nil (c := d))
      simp [written]
  | cons c cs ih =>
    cases ds with
    | nil => simp
    | cons d ds =>
      rw [List.flatMap_cons, List.flatMap_cons, List.cons_lt_cons_iff]
      rcases lt_trichotomy c d with lt | rfl | gt
      · exact iff_of_true (utf8EncodeChar_append_lt lt _ _) (.inl lt)
      · rw [append_lt_append_left_iff, ih]
        simp
      · refine iff_of_false (List.lt_asymm (utf8EncodeChar_append_lt gt _ _)) ?_
        rintro (lt | ⟨rfl, -⟩)
        exacts [lt_asymm lt gt, lt_irrefl _ gt]

namespace ByteText

theorem ofString_bytes_lt_iff {s t : String} : (ofString s).bytes < (ofString t).bytes ↔ s < t := by
  rw [ofString_bytes, ofString_bytes, flatMap_utf8EncodeChar_lt_iff]
  rfl

theorem ofString_bytes_le_iff {s t : String} : (ofString s).bytes ≤ (ofString t).bytes ↔ s ≤ t :=
  not_congr ofString_bytes_lt_iff

end ByteText

end ChannelMux.Text

namespace ChannelMux.HeaderMap

open Text

/-! ### Normalized lines -/

/-- The names of a map, in the order they were first written. -/
def names (h : HeaderMap) : List String := h.entries.map (·.1)

/-- The bytes of a name's lower-cased form, by which normalizing orders names. -/
def lowerBytes (k : String) : List UInt8 := (ByteText.ofString (lower k)).bytes

/-- Names in strictly increasing byte order of their lower-cased forms. -/
def LowerOrdered (ks : List String) : Prop := ks.Pairwise fun a b => lowerBytes a < lowerBytes b

/-- The header lines of the names `ks` taken in that order: each value of a name, in its order,
under the lower-cased name. -/
def linesOf (h : HeaderMap) (ks : List String) : List HeaderLine :=
  ks.flatMap fun k => (h.get k).map (HeaderLine.mk (lower k))

/-- What normalizing gives for a map whose names stay apart when lower-cased. -/
structure SortsByLowerName (h : HeaderMap) : Prop where
  /-- The names can be put in increasing byte order of their lower-cased forms. -/
  ordered : ∃ ks, ks.Perm h.names ∧ LowerOrdered ks
  /-- The lines are those of the names in such an order. -/
  lines : ∀ ks, ks.Perm h.names → LowerOrdered ks → h.normalize = h.linesOf ks
  /-- One line for each value. -/
  length : h.normalize.length = (h.entries.map fun e => e.2.length).sum
  /-- The names of the lines never decrease. -/
  names_sorted : (h.normalize.map (·.name)).Pairwise fun a b =>
    (ByteText.ofString a).bytes ≤ (ByteText.ofString b).bytes
  /-- The lines under a name carry its values in their order. -/
  values : ∀ k ∈ h.names, (h.normalize.filter (·.name == lower k)).map (·.value) = h.get k

variable {h : HeaderMap}

theorem get_of_mem (keys : h.names.Nodup) {k : String} {vs : List String}
    (mem : (k, vs) ∈ h.entries) : h.get k = vs := by
  obtain ⟨e, found⟩ : ∃ e, h.entries.find? (·.1 == k) = some e :=
    Option.isSome_iff_exists.1 (List.find?_isSome.2 ⟨(k, vs), mem, beq_self_eq_true k⟩)
  have named : e.1 = k := by simpa using List.find?_some found
  have same : e = (k, vs) :=
    List.inj_on_of_nodup_map keys (List.mem_of_find?_eq_some found) mem named
  simp [get, found, same]

theorem normalize_eq (h : HeaderMap) :
    h.normalize = ((h.entries.map fun e => (lower e.1, e.2)).mergeSort
      fun a b => decide (a.1 ≤ b.1)).flatMap fun e => e.2.map (HeaderLine.mk e.1) := rfl

theorem linesOf_eq (h : HeaderMap) (ks : List String) :
    h.linesOf ks = (ks.map fun k => (lower k, h.get k)).flatMap
      fun e => e.2.map (HeaderLine.mk e.1) := by
  simp [linesOf, List.flatMap_map]

theorem mergeSort_eq_of_ordered (apart : (h.names.map lower).Nodup) {ks : List String}
    (perm : ks.Perm h.names) (ordered : LowerOrdered ks) :
    (h.entries.map fun e => (lower e.1, e.2)).mergeSort (fun a b => decide (a.1 ≤ b.1)) =
      ks.map fun k => (lower k, h.get k) := by
  have keys : h.names.Nodup := apart.of_map lower
  have named : h.entries.map (fun e => (lower e.1, e.2)) = h.names.map fun k => (lower k, h.get k) := by
    simp only [names, List.map_map]
    refine List.map_congr_left fun e mem => ?_
    simp [get_of_mem keys mem]
  have pairs : (ks.map fun k => (lower k, h.get k)).Perm (h.entries.map fun e => (lower e.1, e.2)) :=
    named ▸ perm.map _
  have firsts : ((h.entries.map fun e => (lower e.1, e.2)).map (·.1)).Nodup := by
    have same : (h.entries.map fun e => (lower e.1, e.2)).map (·.1) = h.names.map lower := by
      simp [names]
    exact same ▸ apart
  refine List.Perm.eq_of_pairwise
    (fun a b ha hb (ab : decide (a.1 ≤ b.1) = true) (ba : decide (b.1 ≤ a.1) = true) => ?_)
    ?_ ?_ ((List.mergeSort_perm _ _).trans pairs.symm)
  · -- two pairs that sort alike are one pair
    have same : a.1 = b.1 := le_antisymm (by simpa using ab) (by simpa using ba)
    exact List.inj_on_of_nodup_map firsts ((List.mergeSort_perm _ _).subset ha)
      (pairs.subset hb) same
  · exact List.pairwise_mergeSort (fun _ _ _ ab bc => by simpa using le_trans (by simpa using ab) (by simpa using bc))
      (fun a b => by simpa using le_total a.1 b.1) _
  · refine List.pairwise_map.2 (ordered.imp fun lt => ?_)
    simpa using le_of_lt (ByteText.ofString_bytes_lt_iff.1 lt)

theorem normalize_eq_linesOf (apart : (h.names.map lower).Nodup) {ks : List String}
    (perm : ks.Perm h.names) (ordered : LowerOrdered ks) : h.normalize = h.linesOf ks := by
  rw [normalize_eq, linesOf_eq, mergeSort_eq_of_ordered apart perm ordered]

theorem exists_lowerOrdered (apart : (h.names.map lower).Nodup) :
    ∃ ks, ks.Perm h.names ∧ LowerOrdered ks := by
  let ks := h.names.mergeSort fun a b => decide (lower a ≤ lower b)
  have perm : ks.Perm h.names := List.mergeSort_perm _ _
  have sorted : ks.Pairwise fun a b => decide (lower a ≤ lower b) :=
    List.pairwise_mergeSort (fun _ _ _ ab bc => by simpa using le_trans (by simpa using ab) (by simpa using bc))
      (fun a b => by simpa using le_total (lower a) (lower b)) _
  have distinct : ks.Pairwise fun a b => lower a ≠ lower b :=
    List.pairwise_map.1 ((perm.map lower).nodup_iff.2 apart)
  refine ⟨ks, perm, (sorted.and distinct).imp fun ⟨le, ne⟩ => ?_⟩
  exact ByteText.ofString_bytes_lt_iff.2 (lt_of_le_of_ne (by simpa using le) ne)

theorem length_linesOf (keys : h.names.Nodup) {ks : List String} (perm : ks.Perm h.names) :
    (h.linesOf ks).length = (h.entries.map fun e => e.2.length).sum := by
  have each : (h.names.map fun k => (h.get k).length) = h.entries.map fun e => e.2.length := by
    simp only [names, List.map_map]
    exact List.map_congr_left fun e mem => by simp [get_of_mem keys mem]
  rw [← each, ← (perm.map _).sum_eq]
  simp [linesOf, List.length_flatMap]

theorem names_linesOf_sorted {ks : List String} (ordered : LowerOrdered ks) :
    ((h.linesOf ks).map (·.name)).Pairwise fun a b =>
      (ByteText.ofString a).bytes ≤ (ByteText.ofString b).bytes := by
  simp only [linesOf, List.map_flatMap, List.map_map]
  refine List.pairwise_flatMap.2 ⟨fun k _ => ?_, ordered.imp fun lt => ?_⟩
  · -- the lines of one name all carry it
    exact List.pairwise_map.2 (List.pairwise_of_forall fun _ _ => List.le_refl _)
  · intro a ma b mb
    simp only [List.mem_map, Function.comp] at ma mb
    obtain ⟨_, _, rfl⟩ := ma
    obtain ⟨_, _, rfl⟩ := mb
    exact List.le_of_lt lt

theorem values_linesOf {ks : List String} (ordered : LowerOrdered ks) {k : String} (mem : k ∈ ks) :
    ((h.linesOf ks).filter (·.name == lower k)).map (·.value) = h.get k := by
  induction ks with
  | nil => cases mem
  | cons k' rest ih =>
    rw [LowerOrdered, List.pairwise_cons] at ordered
    have later : ∀ j ∈ rest, lower j ≠ lower k' := fun j mj same =>
      List.lt_irrefl _ (by simpa [lowerBytes, same] using ordered.1 j mj)
    simp only [linesOf, List.flatMap_cons, List.filter_append, List.map_append] at ih ⊢
    by_cases head : k' = k
    · subst head
      -- the other names lower-case apart from this one, so their lines are left out
      have none : ((rest.flatMap fun j => (h.get j).map (HeaderLine.mk (lower j))).filter
          (·.name == lower k')) = [] := by
        simp only [List.filter_eq_nil_iff, List.mem_flatMap, List.mem_map, beq_iff_eq]
        rintro _ ⟨j, mj, _, _, rfl⟩
        exact later j mj
      simp [none, List.filter_map, Function.comp_def]
    · have mr : k ∈ rest := (List.mem_cons.1 mem).resolve_left (Ne.symm head)
      have apartK : lower k' ≠ lower k := fun same => later k mr same.symm
      rw [ih ordered.2 mr]
      simp [List.filter_map, Function.comp_def, apartK]

/-- Normalizing a map whose lower-cased names are apart sorts its lines by lower-cased name, each
name's values in order. -/
theorem normalize_sorts_by_lower_name (h : HeaderMap) (apart : (h.names.map lower).Nodup) :
    h.SortsByLowerName := by
  have keys : h.names.Nodup := apart.of_map lower
  obtain ⟨ks, perm, ordered⟩ := exists_lowerOrdered apart
  have lines := normalize_eq_linesOf apart perm ordered
  refine ⟨⟨ks, perm, ordered⟩, fun _ => normalize_eq_linesOf apart, ?_, ?_, ?_⟩
  · rw [lines, length_linesOf keys perm]
  · rw [lines]
    exact names_linesOf_sorted ordered
  · intro k mem
    rw [lines]
    exact values_linesOf ordered (perm.mem_iff.2 mem)

/-- A header with `X-B: 2`, `Content-Length: 5` and `X-A: 1, 0` normalizes by lower-cased name. -/
theorem mixed_case_header_sorts_by_lower_name :
    ((names ⟨[("X-B", ["2"]), ("Content-Length", ["5"]), ("X-A", ["1", "0"])]⟩).map lower).Nodup ∧
      SortsByLowerName ⟨[("X-B", ["2"]), ("Content-Length", ["5"]), ("X-A", ["1", "0"])]⟩ :=
  ⟨by decide +kernel, normalize_sorts_by_lower_name _ (by decide +kernel)⟩

end ChannelMux.HeaderMap
