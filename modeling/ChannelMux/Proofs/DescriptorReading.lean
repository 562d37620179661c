import ChannelMux.Proofs.DescriptorText
import ChannelMux.Proofs.OptionLookup
import Mathlib.Data.List.TakeWhile

/-! Which texts read as descriptors, and what they read as, said without the reader's own steps. -/
namespace ChannelMux

/-- `a` and `b` split `xs` at the first occurrence of `sep`: `xs` is `a`, `sep`, `b`, and no
occurrence of `sep` starts before the end of `a`. -/
def FirstSplit (sep xs a b : List Char) : Prop :=
  xs = a ++ sep ++ b ∧ ∀ a' b', xs = a' ++ sep ++ b' → a.length ≤ a'.length

theorem splitFirst_shortest {sep xs a b a' b' : List Char} (h : splitFirst sep xs = some (a, b))
    (other : xs = a' ++ sep ++ b') : a.length ≤ a'.length := by
  induction xs generalizing a b a' with
  | nil =>
    by_cases hs : sep = []
    · simp only [splitFirst, hs, List.isEmpty_nil, if_true, Option.some.injEq, Prod.mk.injEq] at h
      rw [← h.1]
      exact Nat.zero_le _
    · simp [splitFirst, hs] at h
  | cons c cs ih =>
    unfold splitFirst at h
    split at h
    · obtain ⟨rfl, -⟩ := Prod.mk.inj (Option.some.inj h)
      exact Nat.zero_le _
    · rename_i hnp
      obtain ⟨⟨a₀, b₀⟩, h₀, hab⟩ := Option.map_eq_some_iff.1 h
      cases hab
      cases a' with
      | nil =>
        refine absurd ?_ hnp
        rw [List.isPrefixOf_iff_prefix, other]
        simp
      | cons c' a'' =>
        simp only [List.cons_append, List.cons.injEq] at other
        exact Nat.succ_le_succ (ih h₀ other.2)

theorem splitFirst_eq_none {sep xs a b : List Char} (h : splitFirst sep xs = none) :
    xs ≠ a ++ sep ++ b := by
  induction xs generalizing a with
  | nil =>
    by_cases hs : sep = []
    · simp [splitFirst, hs] at h
    · intro same
      have := congrArg List.length same
      simp at this
      exact hs (List.eq_nil_of_length_eq_zero (by omega))
  | cons c cs ih =>
    unfold splitFirst at h
    split at h
    · cases h
    · rename_i hnp
      intro same
      cases a with
      | nil =>
        refine hnp ?_
        rw [List.isPrefixOf_iff_prefix, same]
        simp
      | cons c' a'' =>
        simp only [List.cons_append, List.cons.injEq] at same
        exact ih (Option.map_eq_none_iff.1 h) same.2

theorem splitFirst_eq_some_iff {sep xs a b : List Char} :
    splitFirst sep xs = some (a, b) ↔ FirstSplit sep xs a b := by
  constructor
  · intro h
    exact ⟨eq_of_splitFirst h, fun _ _ => splitFirst_shortest h⟩
  · rintro ⟨whole, shortest⟩
    cases h : splitFirst sep xs with
    | none => exact absurd whole (splitFirst_eq_none h)
    | some ab =>
      obtain ⟨a₀, b₀⟩ := ab
      have whole₀ := eq_of_splitFirst h
      have length : a₀.length = a.length :=
        le_antisymm (splitFirst_shortest h whole) (shortest _ _ whole₀)
      rw [whole, List.append_assoc, List.append_assoc] at whole₀
      obtain ⟨rfl, rest⟩ := List.append_inj whole₀ length.symm
      rw [List.append_cancel_left rest]

/-! ### The text before and after the first occurrence of a character -/

section FirstChar

variable {c : Char}

theorem takeWhile_dropWhile_first {k w : List Char} (hk : c ∉ k) :
    (k ++ c :: w).takeWhile (· != c) = k ∧ ((k ++ c :: w).dropWhile (· != c)).drop 1 = w := by
  have before : ∀ a ∈ k, (a != c) = true := fun a ha => by
    simpa using fun same : a = c => hk (same ▸ ha)
  rw [List.takeWhile_append_of_pos before, List.dropWhile_append_of_pos before]
  simp

theorem eq_first_of_mem {s : List Char} (h : c ∈ s) :
    s = s.takeWhile (· != c) ++ c :: (s.dropWhile (· != c)).drop 1 ∧ c ∉ s.takeWhile (· != c) := by
  have kept : c ∉ s.takeWhile (· != c) := fun hm => by simpa using List.mem_takeWhile_imp hm
  refine ⟨?_, kept⟩
  have whole := (List.takeWhile_append_dropWhile (p := (· != c)) (l := s)).symm
  cases hd : s.dropWhile (· != c) with
  | nil =>
    rw [List.dropWhile_eq_nil_iff] at hd
    simpa using hd c h
  | cons d rest =>
    have hdc : d = c := by
      have := List.head_dropWhile_not (fun a => a != c) (l := s) (by simp [hd])
      simpa [hd] using this
    rw [hd, hdc] at whole
    simpa using whole

theorem splitOn_eq_takeWhile_cons (s : List Char) :
    s.splitOn c = s.takeWhile (· != c) :: (s.splitOn c).tail := by
  by_cases h : c ∈ s
  · obtain ⟨whole, kept⟩ := eq_first_of_mem h
    rw [whole, List.splitOn_append_cons_self_of_not_mem kept, (takeWhile_dropWhile_first kept).1]
    rfl
  · have all : ∀ a ∈ s, (a != c) = true := fun a ha => by
      simpa using fun same : a = c => h (same ▸ ha)
    rw [List.splitOn_eq_singleton h, List.takeWhile_eq_self_iff.2 all]
    rfl

end FirstChar

/-! ### Option segments -/

/-- The option pairs that segments write: each non-empty segment, in order, split at its first
`=`. -/
def optionPairs (segs : List (List Char)) : List (String × String) :=
  (segs.filter (· ≠ [])).map fun s =>
    (String.ofList (s.takeWhile (· != '=')), String.ofList ((s.dropWhile (· != '=')).drop 1))

theorem optionPairs_cons_of_ne {s : List Char} (h : s ≠ []) (rest : List (List Char)) :
    optionPairs (s :: rest) =
      (String.ofList (s.takeWhile (· != '=')), String.ofList ((s.dropWhile (· != '=')).drop 1)) ::
        optionPairs rest := by
  simp [optionPairs, h]

theorem readSegments_eq_ok_iff {text : String} {segs : List (List Char)}
    {pairs : List (String × String)} :
    readSegments text segs = .ok pairs ↔
      (∀ s ∈ segs, s ≠ [] → '=' ∈ s ∧ s.takeWhile (· != '=') ≠ []) ∧ pairs = optionPairs segs := by
  induction segs generalizing pairs with
  | nil =>
    simp only [readSegments, Except.ok.injEq, List.not_mem_nil, false_implies, implies_true,
      true_and, optionPairs, List.filter_nil, List.map_nil]
    exact eq_comm
  | cons s rest ih =>
    by_cases empty : s = []
    · subst empty
      simp only [readSegments, List.isEmpty_nil, if_true, ih, List.mem_cons, forall_eq_or_imp,
        ne_eq, not_true_eq_false, false_implies, true_and, optionPairs, List.filter_cons,
        decide_false, Bool.false_eq_true, if_false]
    · constructor
      · intro h
        obtain ⟨k, w, tail, rfl, hk, hkeq, rfl, htail⟩ := readSegments_cons_of_ok h empty
        obtain ⟨named, rfl⟩ := ih.1 htail
        have parts := takeWhile_dropWhile_first (w := w) hkeq
        refine ⟨?_, ?_⟩
        · intro s' hs' hne
          rcases List.mem_cons.1 hs' with rfl | hr
          · exact ⟨by simp, by rw [parts.1]; exact hk⟩
          · exact named s' hr hne
        · rw [optionPairs_cons_of_ne empty, parts.1, parts.2]
      · rintro ⟨named, rfl⟩
        obtain ⟨hmem, hkne⟩ := named s List.mem_cons_self empty
        obtain ⟨whole, kept'⟩ := eq_first_of_mem hmem
        have reads := readSegments_cons_named text (w := (s.dropWhile (· != '=')).drop 1) hkne kept' rest
        rw [← whole, ih.2 ⟨fun s' hs' => named s' (List.mem_cons_of_mem _ hs'), rfl⟩] at reads
        rw [reads, optionPairs_cons_of_ne empty]
        rfl

/-! ### Scheme parts and the derived fields -/

theorem schemeParts_eq (scheme : String) :
    Descriptor.schemeParts scheme = (String.ofList (scheme.toList.takeWhile (· != '+')),
      String.ofList ((scheme.toList.dropWhile (· != '+')).drop 1)) := by
  unfold Descriptor.schemeParts
  by_cases h : '+' ∈ scheme.toList
  · obtain ⟨whole, kept⟩ := eq_first_of_mem h
    generalize scheme.toList.takeWhile (· != '+') = k at whole kept
    generalize (scheme.toList.dropWhile (· != '+')).drop 1 = w at whole
    rw [whole, List.splitOn_append_cons_self_of_not_mem kept]
    obtain ⟨p, more, parts⟩ := List.exists_cons_of_ne_nil (List.splitOn_ne_nil '+' w)
    rw [parts]
    have joined : "+".intercalate ((p :: more).map String.ofList) = String.ofList w := by
      rw [← String.toList_inj, String.toList_intercalate, List.map_map, ← parts]
      simp
    dsimp only
    rw [joined]
  · have all : ∀ a ∈ scheme.toList, (a != '+') = true := fun a ha => by
      simpa using fun same : a = '+' => h (same ▸ ha)
    rw [List.splitOn_eq_singleton h, List.takeWhile_eq_self_iff.2 all,
      List.dropWhile_eq_nil_iff.2 all]
    simp

theorem DumpMode.ofName?_name (m : DumpMode) : DumpMode.ofName? m.name = some m := by
  cases m <;> rfl

/-- The dump mode a `dump` option value names: an absent or empty value names `no`, and any other
value the mode whose word it is, up to case. -/
def NamesDump (v : Option String) (mode : DumpMode) : Prop :=
  ((v = none ∨ v = some "") ∧ mode = .no) ∨
    ∃ w, v = some w ∧ w ≠ "" ∧ Text.equalFold mode.name w = true

theorem namesDump_of_getChoice {o : Options} {x : String}
    (h : o.getChoice "dump" DumpMode.names = .ok x) :
    NamesDump (o.get? "dump") ((DumpMode.ofName? x).getD .no) := by
  unfold Options.getChoice at h
  cases hg : o.given? "dump" with
  | none =>
    rw [hg] at h
    cases h
    exact .inl ⟨Options.given?_eq_none_iff.1 hg, rfl⟩
  | some v =>
    obtain ⟨hv, filled⟩ := Options.given?_eq_some_iff.1 hg
    rw [hg] at h
    dsimp only at h
    split at h
    · rename_i c found
      cases h
      obtain ⟨m, -, rfl⟩ := List.mem_map.1 (List.mem_of_find?_eq_some found)
      have folds : Text.equalFold m.name v = true := List.find?_some (p := (Text.equalFold · v)) found
      rw [DumpMode.ofName?_name]
      exact .inr ⟨v, hv, filled, folds⟩
    · cases h

theorem getChoice_of_namesDump {o : Options} {mode : DumpMode}
    (h : NamesDump (o.get? "dump") mode) : ∃ x, o.getChoice "dump" DumpMode.names = .ok x := by
  unfold Options.getChoice
  rcases h with ⟨absent, -⟩ | ⟨w, hw, filled, folds⟩
  · exact ⟨_, by rw [Options.given?_eq_none_iff.2 absent]⟩
  · rw [Options.given?_eq_some_iff.2 ⟨hw, filled⟩]
    dsimp only
    obtain ⟨c, found⟩ : ∃ c, DumpMode.names.find? (Text.equalFold · w) = some c :=
      Option.isSome_iff_exists.1 (List.find?_isSome.2
        ⟨mode.name, List.mem_map_of_mem (by cases mode <;> decide), folds⟩)
    exact ⟨c, by rw [found]⟩

theorem finish_eq_ok_iff {source scheme host : String} {o : Options} {d : Descriptor} :
    Descriptor.finish source scheme host o = .ok d ↔
      (Descriptor.schemeParts scheme).1.isEmpty = false ∧
        ∃ x, o.getChoice "dump" DumpMode.names = .ok x ∧
          d = ⟨source, scheme, (Descriptor.schemeParts scheme).1, (Descriptor.schemeParts scheme).2,
            host, o.getString "name" "", (DumpMode.ofName? x).getD .no, o⟩ := by
  constructor
  · intro h
    unfold Descriptor.finish at h
    by_cases ht : (Descriptor.schemeParts scheme).1.isEmpty = true
    · simp [ht] at h
    · simp only [ht, if_false, Bool.false_eq_true] at h
      split at h
      · cases h
      · rename_i x hx
        cases h
        exact ⟨by simpa using ht, x, hx, rfl⟩
  · rintro ⟨transport, x, dump, rfl⟩
    exact finish_eq_ok transport dump

/-! ### Reading a descriptor text -/

/-- The value of the last pair with a name. -/
def optionValue? (pairs : List (String × String)) (k : String) : Option String :=
  (pairs.reverse.find? (·.1 == k)).map (·.2)

/-- What a text must be to read as a descriptor, with `pre` the text before its first `://` and
`post` the text after. -/
structure Readable (u : String) (pre post : List Char) : Prop where
  split : FirstSplit "://".toList u.toList pre post
  scheme_ne : pre ≠ []
  named : ∀ s ∈ (post.splitOn ';').tail, s ≠ [] → '=' ∈ s ∧ s.takeWhile (· != '=') ≠ []
  transport_ne : pre.takeWhile (· != '+') ≠ []
  dump : ∃ mode, NamesDump (optionValue? (optionPairs (post.splitOn ';').tail) "dump") mode

/-- The descriptor a readable text reads as, with `pre` and `post` as for `Readable`. -/
structure Descriptor.ReadFrom (d : Descriptor) (u : String) (pre post : List Char) : Prop where
  source : d.source = u
  scheme : d.scheme = String.ofList pre
  transport : d.transport = String.ofList (pre.takeWhile (· != '+'))
  protocol : d.protocol = String.ofList ((pre.dropWhile (· != '+')).drop 1)
  host : d.host = String.ofList (post.takeWhile (· != ';'))
  ordered : d.options.Ordered
  options : ∀ k, d.options.get? k = optionValue? (optionPairs (post.splitOn ';').tail) k
  name : d.name = (optionValue? (optionPairs (post.splitOn ';').tail) "name").getD ""
  dump : NamesDump (optionValue? (optionPairs (post.splitOn ';').tail) "dump") d.dump

theorem get?_ofList_optionPairs (segs : List (List Char)) (k : String) :
    (Options.ofList (optionPairs segs)).get? k = optionValue? (optionPairs segs) k :=
  Options.get?_ofList _ k

theorem readFrom_of_parse {u : String} {d : Descriptor} (h : Descriptor.parse u = .ok d) :
    ∃ scheme rest, Readable u scheme rest ∧ d.ReadFrom u scheme rest := by
  unfold Descriptor.parse at h
  split at h
  · cases h
  · cases h
  · rename_i scheme rest hnil hsplit
    have hne : scheme ≠ [] := by
      rintro rfl
      exact hnil rfl
    split at h
    · cases h
    · rename_i host segs hsegs
      obtain ⟨rfl, rfl⟩ := List.cons.inj ((splitOn_eq_takeWhile_cons (c := ';') rest).symm.trans hsegs)
      split at h
      · cases h
      · rename_i pairs hpairs
        obtain ⟨named, rfl⟩ := readSegments_eq_ok_iff.1 hpairs
        obtain ⟨transport, x, hx, rfl⟩ := finish_eq_ok_iff.1 h
        rw [schemeParts_eq, String.toList_ofList] at transport ⊢
        have dump := namesDump_of_getChoice hx
        rw [get?_ofList_optionPairs] at dump
        refine ⟨scheme, rest, ⟨splitFirst_eq_some_iff.1 hsplit, hne, named, ?_, _, dump⟩,
          ⟨rfl, rfl, rfl, rfl, rfl, Options.ordered_ofList _, get?_ofList_optionPairs _, ?_, dump⟩⟩
        · simpa using transport
        · simp only [Options.getString, get?_ofList_optionPairs]

theorem parse_of_readable {u : String} {scheme rest : List Char} (h : Readable u scheme rest) :
    ∃ d, Descriptor.parse u = .ok d := by
  obtain ⟨c, cs, hcs⟩ := List.exists_cons_of_ne_nil h.scheme_ne
  have transport : (Descriptor.schemeParts (String.ofList scheme)).1.isEmpty = false := by
    rw [schemeParts_eq, String.toList_ofList]
    simpa using h.transport_ne
  obtain ⟨mode, names⟩ := h.dump
  rw [← get?_ofList_optionPairs] at names
  obtain ⟨x, hx⟩ := getChoice_of_namesDump names
  unfold Descriptor.parse
  rw [splitFirst_eq_some_iff.2 h.split, hcs]
  dsimp only
  rw [splitOn_eq_takeWhile_cons (c := ';') rest]
  dsimp only
  rw [readSegments_eq_ok_iff.2 ⟨h.named, rfl⟩]
  dsimp only
  rw [← hcs]
  exact ⟨_, finish_eq_ok transport hx⟩

/-- A text reads as a descriptor exactly when it is `Readable`, and then as the descriptor its parts
give. -/
theorem parse_reads_exactly_readable_texts (u : String) :
    ((∃ d, Descriptor.parse u = .ok d) ↔ ∃ scheme rest, Readable u scheme rest) ∧
      ∀ d, Descriptor.parse u = .ok d →
        ∃ scheme rest, Readable u scheme rest ∧ d.ReadFrom u scheme rest := by
  refine ⟨⟨fun ⟨_, h⟩ => ?_, fun ⟨_, _, h⟩ => parse_of_readable h⟩, fun _ => readFrom_of_parse⟩
  obtain ⟨scheme, rest, readable, -⟩ := readFrom_of_parse h
  exact ⟨scheme, rest, readable⟩

end ChannelMux
