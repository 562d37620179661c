import ChannelMux.Proofs.NumberText
import ChannelMux.Options

/-! Byte sizes written in options. -/

namespace ChannelMux.Text

theorem readInt64_cases {cs : List Char} {n : Int} (h : readInt64 cs = .ok n) :
    ∃ digits m, readDigits (2 ^ 64 - 1) 0 digits = .ok m ∧ digits ≠ [] ∧
      ((cs = '-' :: digits ∧ m ≤ 2 ^ 63 ∧ n = -(m : Int)) ∨
       ((cs = '+' :: digits ∨ cs = digits) ∧ m ≤ 2 ^ 63 - 1 ∧ n = m)) := by
  unfold readInt64 at h
  split at h
  rename_i negative digits signs
  have sign : (negative = true ∧ cs = '-' :: digits) ∨
      (negative = false ∧ (cs = '+' :: digits ∨ cs = digits)) := by
    split at signs <;> cases signs
    · exact .inl ⟨rfl, rfl⟩
    · exact .inr ⟨rfl, .inl rfl⟩
    · exact .inr ⟨rfl, .inr rfl⟩
  split at h
  · cases h
  · rename_i filled
    split at h
    · rename_i m read
      refine ⟨digits, m, read, by simpa using filled, ?_⟩
      rcases sign with ⟨rfl, same⟩ | ⟨rfl, same⟩
      · simp only [if_true, Nat.pow_eq] at h
        split at h
        · cases h
        · cases h
          exact .inl ⟨same, by omega, rfl⟩
      · simp only [Bool.false_eq_true, if_false, Nat.pow_eq] at h
        split at h
        · cases h
        · cases h
          exact .inr ⟨same, by omega, rfl⟩
    · cases h

theorem readInt64_bounds {cs : List Char} {n : Int} (h : readInt64 cs = .ok n) :
    -2 ^ 63 ≤ n ∧ n < 2 ^ 63 := by
  obtain ⟨digits, m, -, -, ⟨-, hm, rfl⟩ | ⟨-, hm, rfl⟩⟩ := readInt64_cases h <;> omega

end ChannelMux.Text

namespace ChannelMux.Options

open Text

/-- `body` is `cs` with one trailing `b` dropped, if it has one. -/
def DropsB (cs body : List Char) : Prop := cs = body ++ ['b'] ∨ (cs = body ∧ body.getLast? ≠ some 'b')

/-- A size body is a number text `digits` and a multiplier `m`: a last unit letter is split off with
the blanks before it, and without one the multiplier is 1. -/
def UnitSplit (body digits : List Char) (m : Nat) : Prop :=
  (digits = body ∧ m = 1 ∧ ∀ u, body.getLast? = some u → sizeUnit u = 1) ∨
    ∃ num u, body = num ++ [u] ∧ digits = trimChars num ∧ sizeUnit u = m ∧ m ≠ 1

/-- `v` writes `n` units of `m` bytes. -/
def SizeReading (v : String) (n : Int) (m : Nat) : Prop :=
  ∃ body digits, DropsB (trimChars (lower v).toList) body ∧ UnitSplit body digits m ∧
    readInt64 digits = .ok n ∧ 0 ≤ n

theorem dropsB_iff {cs body : List Char} :
    DropsB cs body ↔ body = if cs.getLast? = some 'b' then cs.dropLast else cs := by
  by_cases hb : cs.getLast? = some 'b'
  · rw [if_pos hb]
    have whole : cs = cs.dropLast ++ ['b'] := (List.dropLast_append_getLast? 'b' hb).symm
    constructor
    · rintro (rfl | ⟨rfl, hne⟩)
      · simp
      · exact absurd hb hne
    · rintro rfl
      exact .inl whole
  · rw [if_neg hb]
    constructor
    · rintro (rfl | ⟨rfl, -⟩)
      · simp at hb
      · rfl
    · rintro rfl
      exact .inr ⟨rfl, hb⟩

theorem sizeUnit_cases (u : Char) : sizeUnit u = 1 ∨ (u = 'k' ∧ sizeUnit u = 2 ^ 10) ∨
    (u = 'm' ∧ sizeUnit u = 2 ^ 20) ∨ (u = 'g' ∧ sizeUnit u = 2 ^ 30) := by
  unfold sizeUnit
  split <;> simp

theorem unitSplit_of_unit {body digits : List Char} {m : Nat} {u : Char} (hl : body.getLast? = some u)
    (hu : sizeUnit u ≠ 1) : UnitSplit body digits m ↔ digits = trimChars body.dropLast ∧ m = sizeUnit u := by
  have whole : body = body.dropLast ++ [u] := (List.dropLast_append_getLast? u hl).symm
  constructor
  · rintro (⟨-, -, plain⟩ | ⟨num, u', same, rfl, rfl, -⟩)
    · exact absurd (plain u hl) hu
    · rw [same] at hl ⊢
      simp only [List.getLast?_append, List.getLast?_singleton, Option.some_or, Option.some.injEq] at hl
      subst hl
      simp
  · rintro ⟨rfl, rfl⟩
    exact .inr ⟨_, u, whole, rfl, rfl, hu⟩

theorem unitSplit_of_plain {body digits : List Char} {m : Nat}
    (plain : ∀ u, body.getLast? = some u → sizeUnit u = 1) : UnitSplit body digits m ↔ digits = body ∧ m = 1 := by
  constructor
  · rintro (⟨rfl, rfl, -⟩ | ⟨num, u, rfl, -, hu, hm⟩)
    · exact ⟨rfl, rfl⟩
    · exact absurd (hu ▸ plain u (by simp)) hm
  · rintro ⟨rfl, rfl⟩
    exact .inl ⟨rfl, rfl, plain⟩


theorem getSize_given {o : Options} {k v : String} {dflt : Int} (hv : o.given? k = some v)
    {body digits : List Char} {m : Nat} (hb : DropsB (trimChars (lower v).toList) body)
    (hs : UnitSplit body digits m) :
    o.getSize k dflt = ((readInt64 digits).mapError fun _ => (⟨k, v, .size⟩ : OptionError)) >>= fun n =>
      if n < 0 then .error ⟨k, v, .size⟩ else .ok (wrap64 (n * m)) := by
  unfold getSize
  rw [hv]
  dsimp only
  rw [← dropsB_iff.1 hb]
  -- the code's unit split is the one `hs` names
  rcases hs with ⟨rfl, rfl, plain⟩ | ⟨num, u, rfl, rfl, rfl, hu⟩
  · cases hl : digits.getLast? with
    | none => cases readInt64 digits <;> rfl
    | some u =>
      simp only [plain u hl, ne_eq, not_true_eq_false, if_false]
      cases readInt64 digits <;> rfl
  · simp only [List.getLast?_append, List.getLast?_singleton, Option.some_or, ne_eq, hu,
      not_false_eq_true, if_true, List.dropLast_concat]
    cases readInt64 (trimChars num) <;> rfl

theorem exists_dropsB (cs : List Char) : ∃ body, DropsB cs body := ⟨_, dropsB_iff.2 rfl⟩

theorem unitSplit_cases (body : List Char) :
    (∃ u, body.getLast? = some u ∧ sizeUnit u ≠ 1) ∨ ∀ u, body.getLast? = some u → sizeUnit u = 1 := by
  by_cases h : ∃ u, body.getLast? = some u ∧ sizeUnit u ≠ 1
  · exact .inl h
  · exact .inr fun u hl => by simpa using fun hu => h ⟨u, hl, hu⟩

theorem exists_unitSplit (body : List Char) : ∃ digits m, UnitSplit body digits m := by
  rcases unitSplit_cases body with ⟨u, hl, hu⟩ | plain
  · exact ⟨_, _, (unitSplit_of_unit hl hu).2 ⟨rfl, rfl⟩⟩
  · exact ⟨_, _, (unitSplit_of_plain plain).2 ⟨rfl, rfl⟩⟩

theorem unitSplit_unique {body d₁ d₂ : List Char} {m₁ m₂ : Nat} (h₁ : UnitSplit body d₁ m₁)
    (h₂ : UnitSplit body d₂ m₂) : d₁ = d₂ ∧ m₁ = m₂ := by
  rcases unitSplit_cases body with ⟨u, hl, hu⟩ | plain
  · obtain ⟨rfl, rfl⟩ := (unitSplit_of_unit hl hu).1 h₁
    obtain ⟨rfl, rfl⟩ := (unitSplit_of_unit hl hu).1 h₂
    exact ⟨rfl, rfl⟩
  · obtain ⟨rfl, rfl⟩ := (unitSplit_of_plain plain).1 h₁
    obtain ⟨rfl, rfl⟩ := (unitSplit_of_plain plain).1 h₂
    exact ⟨rfl, rfl⟩

theorem getSize_eq_ok_iff (o : Options) (k : String) (dflt r : Int) :
    o.getSize k dflt = .ok r ↔ (o.given? k = none ∧ r = dflt) ∨
      ∃ v n m, o.given? k = some v ∧ SizeReading v n m ∧ r = wrap64 (n * m) := by
  cases hv : o.given? k with
  | none =>
    simp only [getSize, hv, Except.ok.injEq, true_and, reduceCtorEq, false_and, exists_const,
      or_false]
    exact eq_comm
  | some v =>
    obtain ⟨body, hb⟩ := exists_dropsB (trimChars (lower v).toList)
    obtain ⟨digits, m, hs⟩ := exists_unitSplit body
    rw [getSize_given hv hb hs]
    constructor
    · intro h
      cases hr : readInt64 digits with
      | error e =>
        rw [hr] at h
        cases h
      | ok n =>
        rw [hr] at h
        change (if n < 0 then _ else _) = _ at h
        by_cases hn : n < 0
        · rw [if_pos hn] at h
          cases h
        · rw [if_neg hn] at h
          cases h
          exact .inr ⟨v, n, m, rfl, ⟨body, digits, hb, hs, hr, by omega⟩, rfl⟩
    · rintro (⟨h, -⟩ | ⟨v', n, m', hv', ⟨body', digits', hb', hs', hr, hn⟩, rfl⟩)
      · cases h
      · cases hv'
        -- the body and its split are the ones the reading names
        have same : body' = body := (dropsB_iff.1 hb').trans (dropsB_iff.1 hb).symm
        subst same
        obtain ⟨rfl, rfl⟩ := unitSplit_unique hs' hs
        rw [hr]
        change (if n < 0 then _ else _) = _
        rw [if_neg (by omega)]

theorem getSize_eq_error {o : Options} {k : String} {dflt : Int} {e : OptionError}
    (h : o.getSize k dflt = .error e) : ∃ v, o.given? k = some v ∧ e = ⟨k, v, .size⟩ := by
  cases hv : o.given? k with
  | none => simp [getSize, hv] at h
  | some v =>
    obtain ⟨body, hb⟩ := exists_dropsB (trimChars (lower v).toList)
    obtain ⟨digits, m, hs⟩ := exists_unitSplit body
    rw [getSize_given hv hb hs] at h
    refine ⟨v, rfl, ?_⟩
    cases hr : readInt64 digits with
    | error e' =>
      rw [hr] at h
      cases h
      rfl
    | ok n =>
      rw [hr] at h
      change (if n < 0 then _ else _) = _ at h
      split at h <;> cases h
      rfl

theorem sizeReading_bounds {v : String} {n : Int} {m : Nat} (h : SizeReading v n m) :
    0 ≤ n ∧ n < 2 ^ 63 ∧ (m = 1 ∨ m = 2 ^ 10 ∨ m = 2 ^ 20 ∨ m = 2 ^ 30) := by
  obtain ⟨body, digits, -, hs, hr, hn⟩ := h
  refine ⟨hn, (readInt64_bounds hr).2, ?_⟩
  rcases hs with ⟨-, rfl, -⟩ | ⟨num, u, -, -, rfl, hu⟩
  · exact .inl rfl
  · rcases sizeUnit_cases u with h1 | ⟨-, h⟩ | ⟨-, h⟩ | ⟨-, h⟩
    · exact absurd h1 hu
    · exact .inr (.inl h)
    · exact .inr (.inr (.inl h))
    · exact .inr (.inr (.inr h))

theorem wrap64_modEq (x : Int) : wrap64 x ≡ x [ZMOD 2 ^ 64] := by
  have h := Int.bmod_emod (x := x) (m := 2 ^ 64)
  push_cast at h
  exact h

theorem wrap64_eq_self_iff {x : Int} (h : 0 ≤ x) : wrap64 x = x ↔ x < 2 ^ 63 := by
  constructor
  · intro same
    have below := Int.bmod_lt (x := x) (m := 2 ^ 64) (by norm_num)
    rw [← same]
    unfold wrap64
    norm_num at below ⊢
    omega
  · intro small
    exact Int.bmod_eq_of_le (by norm_num; omega) (by norm_num; omega)

/-- A size option reads as the number written times its unit, wrapped into the signed 64-bit range.
-/
theorem size_reads_as_wrapped_product (o : Options) (k : String) (dflt r : Int) :
    (o.getSize k dflt = .ok r ↔ (o.given? k = none ∧ r = dflt) ∨
      ∃ v n m, o.given? k = some v ∧ SizeReading v n m ∧ r = wrap64 (n * m)) ∧
    (∀ e, o.getSize k dflt = .error e → ∃ v, o.given? k = some v ∧ e = ⟨k, v, .size⟩) ∧
    ∀ v n m, SizeReading v n m → 0 ≤ n ∧ n < 2 ^ 63 ∧ (m = 1 ∨ m = 2 ^ 10 ∨ m = 2 ^ 20 ∨ m = 2 ^ 30) ∧
      wrap64 (n * m) ≡ n * m [ZMOD 2 ^ 64] ∧ (wrap64 (n * m) = n * m ↔ n * m < 2 ^ 63) := by
  refine ⟨getSize_eq_ok_iff o k dflt r, fun e h => getSize_eq_error h, fun v n m reading => ?_⟩
  obtain ⟨nonneg, fits, unit⟩ := sizeReading_bounds reading
  exact ⟨nonneg, fits, unit, wrap64_modEq _, wrap64_eq_self_iff (by positivity)⟩

/-- Sizes in kilobytes near 2^63 / 2^10 wrap: `9223372036854775807k` reads as -1024 and
`18014398509481985k` as 1024, a positive size that is not the one written. -/
theorem kilobyte_sizes_wrap :
    SizeReading "9223372036854775807k" 9223372036854775807 1024 ∧
      getSize ⟨[("k", "9223372036854775807k")]⟩ "k" 99 = .ok (-1024) ∧
      (-1024 : Int) ≠ 9223372036854775807 * 1024 ∧
    SizeReading "18014398509481985k" 18014398509481985 1024 ∧
      getSize ⟨[("k", "18014398509481985k")]⟩ "k" 99 = .ok 1024 ∧
      (1024 : Int) ≠ 18014398509481985 * 1024 := by
  have first : SizeReading "9223372036854775807k" 9223372036854775807 1024 :=
    ⟨"9223372036854775807k".toList, "9223372036854775807".toList, .inr ⟨by decide, by decide⟩,
      .inr ⟨"9223372036854775807".toList, 'k', rfl, by decide, rfl, by decide⟩, by decide, by decide⟩
  have second : SizeReading "18014398509481985k" 18014398509481985 1024 :=
    ⟨"18014398509481985k".toList, "18014398509481985".toList, .inr ⟨by decide, by decide⟩,
      .inr ⟨"18014398509481985".toList, 'k', rfl, by decide, rfl, by decide⟩, by decide, by decide⟩
  have wraps₁ : wrap64 (9223372036854775807 * 1024) = -1024 := by decide
  have wraps₂ : wrap64 (18014398509481985 * 1024) = 1024 := by decide
  refine ⟨first, ?_, by decide, second, ?_, by decide⟩
  · rw [← wraps₁]
    exact (size_reads_as_wrapped_product _ "k" 99 _).1.2 (.inr ⟨_, _, _, rfl, first, rfl⟩)
  · rw [← wraps₂]
    exact (size_reads_as_wrapped_product _ "k" 99 _).1.2 (.inr ⟨_, _, _, rfl, second, rfl⟩)

end ChannelMux.Options
