import ChannelMux.Text.Decimal
import ChannelMux.Text.Real
import ChannelMux.Text.Duration
import Mathlib

/-! Numbers written in decimal and read back. -/

namespace ChannelMux.Text

theorem digitChar_facts (d : Nat) (h : d < 10) :
    ('0' ≤ Nat.digitChar d && Nat.digitChar d ≤ '9') = true ∧
      (Nat.digitChar d).toNat - '0'.toNat = d ∧ Nat.digitChar d ≠ '-' ∧ Nat.digitChar d ≠ '+' ∧
      Nat.digitChar d ≠ '_' ∧ Nat.digitChar d ≠ '.' ∧ (Nat.digitChar d).toLower = Nat.digitChar d ∧
      Nat.digitChar d ≠ 'x' ∧ Nat.digitChar d ≠ 'X' := by
  interval_cases d <;> decide

theorem toDigits_split (m : Nat) :
    ∃ ds, Nat.toDigits 10 m = ds ++ [Nat.digitChar (m % 10)] ∧
      (m < 10 → ds = []) ∧ (10 ≤ m → ds = Nat.toDigits 10 (m / 10)) := by
  rw [Nat.toDigits_eq_if (by decide)]
  split
  · next small => exact ⟨[], by rw [Nat.mod_eq_of_lt small]; rfl, fun _ => rfl, fun big => by omega⟩
  · next big => exact ⟨_, rfl, fun small => by omega, fun _ => rfl⟩

theorem mem_toDigits {m : Nat} {c : Char} (h : c ∈ Nat.toDigits 10 m) : ∃ d < 10, c = Nat.digitChar d := by
  induction m using Nat.strong_induction_on with
  | _ m ih =>
    obtain ⟨ds, split, small, big⟩ := toDigits_split m
    rw [split, List.mem_append, List.mem_singleton] at h
    rcases h with inner | rfl
    · by_cases low : m < 10
      · rw [small low] at inner; cases inner
      · rw [big (by omega)] at inner
        exact ih (m / 10) (by omega) inner
    · exact ⟨m % 10, Nat.mod_lt _ (by decide), rfl⟩

theorem readDigits_append {bound acc a : Nat} {xs : List Char} (h : readDigits bound acc xs = .ok a)
    (ys : List Char) : readDigits bound acc (xs ++ ys) = readDigits bound a ys := by
  induction xs generalizing acc with
  | nil => cases h; rfl
  | cons c cs ih =>
    simp only [readDigits, List.cons_append] at h ⊢
    by_cases digit : ('0' ≤ c && c ≤ '9') = true
    · by_cases past : bound < acc * 10 + (c.toNat - '0'.toNat)
      · simp only [digit, past, if_true] at h
        cases h
      · simp only [digit, past, if_true, if_false] at h ⊢
        exact ih h
    · simp [digit] at h

theorem readDigits_toDigits {bound : Nat} (m : Nat) (h : m ≤ bound) :
    readDigits bound 0 (Nat.toDigits 10 m) = .ok m := by
  induction m using Nat.strong_induction_on with
  | _ m ih =>
    obtain ⟨ds, split, small, big⟩ := toDigits_split m
    obtain ⟨isDigit, value, -⟩ := digitChar_facts (m % 10) (Nat.mod_lt _ (by decide))
    have lead : readDigits bound 0 ds = .ok (m / 10) := by
      by_cases low : m < 10
      · rw [small low, Nat.div_eq_of_lt low]; rfl
      · rw [big (by omega)]; exact ih (m / 10) (by omega) (by omega)
    rw [split, readDigits_append lead]
    simp only [readDigits, isDigit, if_true, value]
    rw [if_neg (by omega)]
    congr 1
    omega

theorem readInt64_toString {n : Int} (nonneg : 0 ≤ n) (fits : n < 2 ^ 63) :
    readInt64 (toString n).toList = .ok n := by
  obtain ⟨m, rfl⟩ := Int.eq_ofNat_of_zero_le nonneg
  have written : (toString (m : Int)).toList = Nat.toDigits 10 m := by
    show (Nat.repr m).toList = _
    rw [Nat.repr_eq_ofList_toDigits, String.toList_ofList]
  obtain ⟨c, cs, digits⟩ := List.exists_cons_of_ne_nil (Nat.toDigits_ne_nil (b := 10) (n := m))
  obtain ⟨d, small, rfl⟩ := mem_toDigits (digits ▸ List.mem_cons_self : c ∈ Nat.toDigits 10 m)
  obtain ⟨-, -, minus, plus, -⟩ := digitChar_facts d small
  rw [written]
  unfold readInt64
  rw [digits]
  simp only [Nat.pow_eq]
  split
  · next rest same => exact absurd (List.cons.inj same).1 minus
  · next rest same => exact absurd (List.cons.inj same).1 plus
  · have nonempty : (Nat.toDigits 10 m).isEmpty = false :=
      List.isEmpty_eq_false_iff.mpr Nat.toDigits_ne_nil
    have bounded : m ≤ 2 ^ 63 - 1 := by omega
    rw [← digits, readDigits_toDigits m (by omega)]
    simp only [nonempty, Bool.false_eq_true, if_false]
    rw [if_neg (Nat.not_lt.mpr bounded)]

theorem toString_int_toList (k : Int) :
    (toString k).toList = (if k < 0 then ['-'] else []) ++ Nat.toDigits 10 k.natAbs := by
  cases k with
  | ofNat m =>
    show (Nat.repr m).toList = _
    simp [Nat.repr_eq_ofList_toDigits]
  | negSucc m =>
    show ("-" ++ Nat.repr (m + 1)).toList = _
    simp [Nat.repr_eq_ofList_toDigits, Int.negSucc_lt_zero]

theorem digitValue?_digitChar {d : Nat} (h : d < 10) : digitValue? 10 (Nat.digitChar d) = some d := by
  obtain ⟨isDigit, value, -⟩ := digitChar_facts d h
  unfold digitValue?
  rw [if_neg (by decide), if_pos isDigit, value]

theorem readRun_digits_rest (acc count : Nat) (under : Bool) {ds : List Char}
    (digits : ∀ c ∈ ds, ∃ d < 10, c = Nat.digitChar d) {c : Char} (stop : digitValue? 10 c = none)
    (notUnder : c ≠ '_') (r : List Char) :
    (readRun 10 acc count under (ds ++ c :: r)).2.2.2 = c :: r := by
  induction ds generalizing acc count with
  | nil => simp [readRun, stop, notUnder]
  | cons x xs ih =>
    obtain ⟨d, small, rfl⟩ := digits x List.mem_cons_self
    simp only [List.cons_append, readRun, digitValue?_digitChar small]
    exact ih _ _ fun y hy => digits y (List.mem_cons_of_mem _ hy)

theorem millis_toList (k : Int) : (toString k ++ "ms").toList =
    (if k < 0 then ['-'] else []) ++ (Nat.toDigits 10 k.natAbs ++ ['m', 's']) := by
  rw [String.toList_append, toString_int_toList]
  simp

theorem readReal_millis (k : Int) : readReal (toString k ++ "ms") = none := by
  obtain ⟨c, cs, digits⟩ := List.exists_cons_of_ne_nil (Nat.toDigits_ne_nil (b := 10) (n := k.natAbs))
  have all : ∀ x ∈ Nat.toDigits 10 k.natAbs, ∃ d < 10, x = Nat.digitChar d := fun x hx => mem_toDigits hx
  obtain ⟨d, small, rfl⟩ := all c (digits ▸ List.mem_cons_self)
  obtain ⟨isDigit, -, minus, plus, -, -, lower, -, -⟩ := digitChar_facts d small
  -- after the sign come the digits and the unit, which no plain numeral holds
  have decimal : readUnsignedReal.readDecimalReal (Nat.toDigits 10 k.natAbs ++ ['m', 's']) = none := by
    have unit := readRun_digits_rest 0 0 false all (c := 'm') (by decide) (by decide) ['s']
    unfold readUnsignedReal.readDecimalReal
    generalize readRun 10 0 0 false (Nat.toDigits 10 k.natAbs ++ ['m', 's']) = run at unit ⊢
    obtain ⟨whole, count, under, after⟩ := run
    dsimp only at unit
    subst unit
    simp
  have letters : ∀ y ∈ Nat.toDigits 10 k.natAbs ++ ['m', 's'], y ≠ 'x' ∧ y ≠ 'X' := by
    intro y hy
    rcases List.mem_append.mp hy with inner | unit
    · obtain ⟨e, small', rfl⟩ := all y inner
      obtain ⟨-, -, -, -, -, -, -, x, X⟩ := digitChar_facts e small'
      exact ⟨x, X⟩
    · simp at unit
      rcases unit with rfl | rfl <;> decide
  have unsigned : readUnsignedReal (Nat.toDigits 10 k.natAbs ++ ['m', 's']) = none := by
    unfold readUnsignedReal
    split
    · next x rest same =>
      have hx : x ∈ Nat.toDigits 10 k.natAbs ++ ['m', 's'] := by rw [same]; simp
      rw [if_neg (by simpa using letters x hx)]
      exact decimal
    · exact decimal
  have word : ∀ w : String, (∃ l more, w.toList = l :: more ∧ ('0' ≤ l && l ≤ '9') = false) →
      startsWithWord (Nat.toDigits 10 k.natAbs ++ ['m', 's']) w = false := by
    rintro w ⟨l, more, spelled, letter⟩
    rw [digits]
    cases long : w.length with
    | zero => simp [String.length, spelled] at long
    | succ n =>
      have differ : d.digitChar ≠ l := fun same => by
        rw [← same, isDigit] at letter
        cases letter
      simp [startsWithWord, long, lower, spelled, List.cons_beq_cons, differ]
  have infinity := word "infinity" ⟨'i', "nfinity".toList, rfl, by decide⟩
  have inf := word "inf" ⟨'i', "nf".toList, rfl, by decide⟩
  have nan := word "nan" ⟨'n', "an".toList, rfl, by decide⟩
  unfold readReal
  rw [millis_toList]
  by_cases neg : k < 0
  · simp only [neg, if_true, List.cons_append, List.nil_append]
    simp only [infinity, inf, nan, Bool.false_and, Bool.and_false, Bool.not_true, Bool.false_eq_true,
      if_false, unsigned, Option.filter_none, Option.map_none]
  · simp only [neg, if_false, List.nil_append]
    rw [digits]
    split
    · next r same => exact absurd (List.cons.inj same).1 minus
    · next r same => exact absurd (List.cons.inj same).1 plus
    · rw [← digits]
      simp only [infinity, inf, nan, Bool.false_and, Bool.and_false, Bool.false_eq_true, if_false,
        unsigned, Option.filter_none, Option.map_none]

theorem readWhole_append {acc a : Nat} {xs : List Char} (h : readWhole acc xs = some (a, []))
    (ys : List Char) : readWhole acc (xs ++ ys) = readWhole a ys := by
  induction xs generalizing acc with
  | nil => cases h; rfl
  | cons c cs ih =>
    simp only [readWhole, List.cons_append, Nat.pow_eq] at h ⊢
    by_cases digit : ('0' ≤ c && c ≤ '9') = true
    · by_cases big : 2 ^ 63 / 10 < acc
      · simp only [digit, big, if_true] at h
        cases h
      · by_cases past : 2 ^ 63 < acc * 10 + (c.toNat - '0'.toNat)
        · simp only [digit, big, past, if_true, if_false] at h
          cases h
        · simp only [digit, big, past, if_true, if_false] at h ⊢
          exact ih h
    · simp only [digit, Bool.false_eq_true, if_false, Option.some.injEq, Prod.mk.injEq] at h
      cases h.2

theorem readWhole_toDigits (m : Nat) (h : m ≤ 2 ^ 63) : readWhole 0 (Nat.toDigits 10 m) = some (m, []) := by
  induction m using Nat.strong_induction_on with
  | _ m ih =>
    obtain ⟨ds, split, small, big⟩ := toDigits_split m
    obtain ⟨isDigit, value, -⟩ := digitChar_facts (m % 10) (Nat.mod_lt _ (by decide))
    have lead : readWhole 0 ds = some (m / 10, []) := by
      by_cases low : m < 10
      · rw [small low, Nat.div_eq_of_lt low]; rfl
      · rw [big (by omega)]; exact ih (m / 10) (by omega) (by omega)
    rw [split, readWhole_append lead]
    simp only [readWhole, isDigit, if_true, value, Nat.pow_eq]
    rw [if_neg (by omega), if_neg (by omega)]
    congr 2
    omega

theorem readTerms_millis (m : Nat) (h : m ≤ 9223372036854) :
    readTerms 0 (Nat.toDigits 10 m ++ ['m', 's']) = .ok (m * 1000000) := by
  obtain ⟨c, cs, digits⟩ := List.exists_cons_of_ne_nil (Nat.toDigits_ne_nil (b := 10) (n := m))
  obtain ⟨d, small, rfl⟩ := mem_toDigits (digits ▸ List.mem_cons_self : c ∈ Nat.toDigits 10 m)
  obtain ⟨isDigit, -⟩ := digitChar_facts d small
  have whole : readWhole 0 (Nat.toDigits 10 m ++ ['m', 's']) = some (m, ['m', 's']) := by
    rw [readWhole_append (readWhole_toDigits m (by omega))]
    rfl
  have chars : List.takeWhile (fun c => !endsUnit c) ['m', 's'] = ['m', 's'] := by decide
  have rest : List.dropWhile (fun c => !endsUnit c) ['m', 's'] = [] := by decide
  have nanos : unitNanos (String.ofList ['m', 's']) = some 1000000 := by decide
  have within : ¬ 2 ^ 63 / 1000000 < m := by omega
  have fits : ¬ 2 ^ 63 < m * 1000000 := by omega
  rw [digits, List.cons_append, readTerms, ← List.cons_append, ← digits, if_neg (by simp [isDigit]), whole]
  dsimp only
  -- the text after the digits is the unit, with no fraction before it
  split
  · next r same => simp at same
  · simp only [chars, rest, nanos, List.isEmpty_cons, Bool.false_eq_true, if_false, Nat.pow_eq,
      within, fits, gt_iff_lt, lt_self_iff_false, Nat.zero_add]
    rw [if_neg (by simp), dif_pos (by simp), readTerms]

theorem readDuration_millis (k : Int) (h : k.natAbs ≤ 9223372036854) :
    readDuration (toString k ++ "ms") = .ok (k * 1000000) := by
  obtain ⟨c, cs, digits⟩ := List.exists_cons_of_ne_nil (Nat.toDigits_ne_nil (b := 10) (n := k.natAbs))
  obtain ⟨d, small, rfl⟩ := mem_toDigits (digits ▸ List.mem_cons_self : c ∈ Nat.toDigits 10 k.natAbs)
  obtain ⟨-, -, minus, plus, -⟩ := digitChar_facts d small
  have terms := readTerms_millis k.natAbs h
  have notZero : Nat.toDigits 10 k.natAbs ++ ['m', 's'] ≠ ['0'] := by simp [digits]
  have nonempty : (Nat.toDigits 10 k.natAbs ++ ['m', 's']).isEmpty = false := by simp
  have fits : ¬ 2 ^ 63 - 1 < k.natAbs * 1000000 := by omega
  unfold readDuration
  rw [millis_toList]
  by_cases neg : k < 0
  · simp only [neg, if_true, List.cons_append, List.nil_append]
    simp only [notZero, nonempty, terms, Bool.false_eq_true, if_false, Except.ok.injEq]
    omega
  · simp only [neg, if_false, List.nil_append]
    rw [digits]
    split
    · next r same => exact absurd (List.cons.inj same).1 minus
    · next r same => exact absurd (List.cons.inj same).1 plus
    · rw [← digits]
      simp only [notZero, nonempty, terms, Nat.pow_eq, fits, Bool.false_eq_true, if_false,
        Except.ok.injEq]
      omega

end ChannelMux.Text
