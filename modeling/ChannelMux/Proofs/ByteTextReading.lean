import ChannelMux.Text.Bytes
import ChannelMux.Proofs.RouteSnapshot
import Mathlib

/-! Reading byte texts at their joins. -/

namespace ChannelMux.Text

theorem isContinuation_zero {lo hi : Nat} (pos : 0 < lo) : isContinuation lo hi 0 = false := by
  simp [isContinuation]
  omega

theorem isContinuation_ascii {lo hi : Nat} {a : UInt8} (ascii : a.toNat < 128) (high : 128 ≤ lo) :
    isContinuation lo hi a = false := by
  simp [isContinuation]
  omega

theorem lt_length_of_isContinuation {lo hi k : Nat} {rest : List UInt8} (pos : 0 < lo)
    (h : isContinuation lo hi (rest.getD k 0) = true) : k < rest.length := by
  by_contra past
  rw [List.getD_eq_default _ _ (by omega), isContinuation_zero pos] at h
  cases h

theorem decodeOne?_used {b : UInt8} {rest : List UInt8} {c : Char} {used : Nat}
    (h : decodeOne? b rest = some (c, used)) : used ≤ rest.length := by
  unfold decodeOne? at h
  dsimp only at h
  split_ifs at h <;> cases h
  -- the last continuation byte a character takes lies within the bytes
  all_goals first
    | omega
    | exact @lt_length_of_isContinuation 128 191 _ rest (by decide) (by simp_all)

theorem decodeOne?_append_ascii (b : UInt8) (rest : List UInt8) {a : UInt8} (ascii : a.toNat < 128)
    (bs : List UInt8) : decodeOne? b (rest ++ a :: bs) = decodeOne? b rest := by
  -- every lower bound of a continuation byte is at least 128
  have stops : ∀ x : UInt8, x.toNat < 128 → isContinuation 128 191 x = false ∧
      (∀ (c : Bool) hi, isContinuation (if c = true then 160 else 128) hi x = false) ∧
      (∀ (c : Bool) hi, isContinuation (if c = true then 144 else 128) hi x = false) :=
    fun x low => ⟨isContinuation_ascii low (by decide),
      fun c hi => isContinuation_ascii low (by split <;> decide),
      fun c hi => isContinuation_ascii low (by split <;> decide)⟩
  obtain ⟨a1, a2, a3⟩ := stops a ascii
  obtain ⟨z1, z2, z3⟩ := stops 0 (by decide)
  unfold decodeOne?
  -- the first index past the given bytes is where both readings stop
  match rest with
  | [] =>
    simp only [List.nil_append, List.getD_cons_zero, List.getD_nil]
    simp only [a1, a2, a3]
    simp only [z1, z2, z3]
    simp only [Bool.false_and, Bool.false_eq_true, if_false]
  | [x0] =>
    simp only [List.cons_append, List.nil_append, List.getD_cons_zero, List.getD_cons_succ,
      List.getD_nil, a1, z1, Bool.and_false, Bool.false_and, Bool.false_eq_true, if_false]
  | [x0, x1] =>
    simp only [List.cons_append, List.nil_append, List.getD_cons_zero, List.getD_cons_succ,
      List.getD_nil, a1, z1, Bool.and_false, Bool.false_eq_true, if_false]
  | x0 :: x1 :: x2 :: rs =>
    simp only [List.cons_append, List.getD_cons_zero, List.getD_cons_succ]

theorem toNat_ofNat_lt {x : Nat} (h : x < 256) : (UInt8.ofNat x).toNat = x := by
  rw [UInt8.toNat_ofNat']
  omega

theorem decodeOne?_utf8EncodeChar (c : Char) (rest : List UInt8) :
    ∃ lead tail, String.utf8EncodeChar c = lead :: tail ∧
      decodeOne? lead (tail ++ rest) = some (c, tail.length) := by
  have valid : c.val.toNat < 0xD800 ∨ (0xDFFF < c.val.toNat ∧ c.val.toNat < 0x110000) := c.valid
  have back : Char.ofNat c.val.toNat = c := Char.ofNat_toNat c
  unfold String.utf8EncodeChar
  dsimp only
  generalize c.val.toNat = v at valid back ⊢
  -- one case per length of the encoding
  by_cases one : v ≤ 127
  · refine ⟨_, [], by rw [if_pos one], ?_⟩
    unfold decodeOne?
    dsimp only
    rw [toNat_ofNat_lt (by omega), if_pos (by omega), back]
    rfl
  by_cases two : v ≤ 2047
  · refine ⟨_, [_], by rw [if_neg one, if_pos two], ?_⟩
    unfold decodeOne?
    dsimp only
    have lead : (UInt8.ofNat (v / 64 % 32 + 192)).toNat = v / 64 % 32 + 192 := toNat_ofNat_lt (by omega)
    have c0 : (UInt8.ofNat (v % 64 + 128)).toNat = v % 64 + 128 := toNat_ofNat_lt (by omega)
    simp only [List.cons_append, List.nil_append, List.getD_cons_zero, lead, isContinuation, c0]
    rw [if_neg (by omega), if_pos (by simp only [Bool.and_eq_true, decide_eq_true_eq]; omega),
      if_pos (by simp only [Bool.and_eq_true, decide_eq_true_eq]; omega)]
    have value : (v / 64 % 32 + 192) % 32 * 64 + (v % 64 + 128) % 64 = v := by omega
    rw [value, back]
    rfl
  by_cases three : v ≤ 65535
  · refine ⟨_, [_, _], by rw [if_neg one, if_neg two, if_pos three], ?_⟩
    unfold decodeOne?
    dsimp only
    have lead : (UInt8.ofNat (v / 4096 % 16 + 224)).toNat = v / 4096 % 16 + 224 :=
      toNat_ofNat_lt (by omega)
    have c0 : (UInt8.ofNat (v / 64 % 64 + 128)).toNat = v / 64 % 64 + 128 := toNat_ofNat_lt (by omega)
    have c1 : (UInt8.ofNat (v % 64 + 128)).toNat = v % 64 + 128 := toNat_ofNat_lt (by omega)
    simp only [List.cons_append, List.nil_append, List.getD_cons_zero, List.getD_cons_succ, lead,
      isContinuation, c0, c1]
    rw [if_neg (by omega), if_neg (by simp only [Bool.and_eq_true, decide_eq_true_eq]; omega),
      if_pos (by simp only [Bool.and_eq_true, decide_eq_true_eq]; omega)]
    -- the second byte is bounded so that the encoding is the shortest and no surrogate
    rw [if_pos (by simp only [beq_iff_eq, Bool.and_eq_true, decide_eq_true_eq]; split_ifs <;> omega)]
    have value : (v / 4096 % 16 + 224) % 16 * 4096 + (v / 64 % 64 + 128) % 64 * 64 +
        (v % 64 + 128) % 64 = v := by omega
    rw [value, back]
    rfl
  · refine ⟨_, [_, _, _], by rw [if_neg one, if_neg two, if_neg three], ?_⟩
    unfold decodeOne?
    dsimp only
    have lead : (UInt8.ofNat (v / 262144 % 8 + 240)).toNat = v / 262144 % 8 + 240 :=
      toNat_ofNat_lt (by omega)
    have c0 : (UInt8.ofNat (v / 4096 % 64 + 128)).toNat = v / 4096 % 64 + 128 :=
      toNat_ofNat_lt (by omega)
    have c1 : (UInt8.ofNat (v / 64 % 64 + 128)).toNat = v / 64 % 64 + 128 := toNat_ofNat_lt (by omega)
    have c2 : (UInt8.ofNat (v % 64 + 128)).toNat = v % 64 + 128 := toNat_ofNat_lt (by omega)
    simp only [List.cons_append, List.nil_append, List.getD_cons_zero, List.getD_cons_succ, lead,
      isContinuation, c0, c1, c2]
    rw [if_neg (by omega), if_neg (by simp only [Bool.and_eq_true, decide_eq_true_eq]; omega),
      if_neg (by simp only [Bool.and_eq_true, decide_eq_true_eq]; omega),
      if_pos (by simp only [Bool.and_eq_true, decide_eq_true_eq]; omega)]
    rw [if_pos (by simp only [beq_iff_eq, Bool.and_eq_true, decide_eq_true_eq]; split_ifs <;> omega)]
    have value : (v / 262144 % 8 + 240) % 8 * 262144 + (v / 4096 % 64 + 128) % 64 * 4096 +
        (v / 64 % 64 + 128) % 64 * 64 + (v % 64 + 128) % 64 = v := by omega
    rw [value, back]
    rfl

theorem decodePieces_cons_of_some {b : UInt8} {rest : List UInt8} {c : Char} {used : Nat}
    (h : decodeOne? b rest = some (c, used)) :
    decodePieces (b :: rest) = .char c :: decodePieces (rest.drop used) := by
  rw [decodePieces, h]

theorem decodePieces_cons_of_none {b : UInt8} {rest : List UInt8} (h : decodeOne? b rest = none) :
    decodePieces (b :: rest) = .stray b :: decodePieces rest := by
  rw [decodePieces, h]

theorem decodePieces_append_ascii (xs : List UInt8) {a : UInt8} (ascii : a.toNat < 128)
    (bs : List UInt8) : decodePieces (xs ++ a :: bs) = decodePieces xs ++ decodePieces (a :: bs) := by
  fun_induction decodePieces xs with
  | case1 => rfl
  | case2 b rest c used found ih =>
    rw [List.cons_append, decodePieces_cons_of_some ((decodeOne?_append_ascii b rest ascii bs).trans found),
      List.drop_append_of_le_length (decodeOne?_used found), ih]
    rfl
  | case3 b rest missing ih =>
    rw [List.cons_append, decodePieces_cons_of_none ((decodeOne?_append_ascii b rest ascii bs).trans missing),
      ih]
    rfl

theorem decodePieces_flatMap_utf8EncodeChar (cs : List Char) (rest : List UInt8) :
    decodePieces (cs.flatMap String.utf8EncodeChar ++ rest) = cs.map .char ++ decodePieces rest := by
  induction cs with
  | nil => rfl
  | cons c cs ih =>
    obtain ⟨lead, tail, written, read⟩ := decodeOne?_utf8EncodeChar c (cs.flatMap String.utf8EncodeChar ++ rest)
    rw [List.flatMap_cons, written, List.cons_append, List.cons_append, List.append_assoc,
      decodePieces_cons_of_some read, List.drop_left, ih]
    rfl

theorem lt_of_toNat_ofNat {m : Nat} (pos : 0 < (Char.ofNat m).toNat)
    (ascii : (Char.ofNat m).toNat < 128) : m < 128 := by
  rw [Char.toNat_ofNat] at pos ascii
  by_cases valid : m.isValidChar
  · simpa [valid] using ascii
  · simp [valid] at pos

theorem decodeOne?_ascii {b : UInt8} {rest : List UInt8} {c : Char} {used : Nat}
    (h : decodeOne? b rest = some (c, used)) (pos : 0 < c.toNat) (ascii : c.toNat < 128) :
    b = c.toUInt8 := by
  unfold decodeOne? at h
  dsimp only at h
  split_ifs at h with low <;> cases h
  · apply UInt8.toNat_inj.mp
    unfold Char.toUInt8
    rw [UInt32.toNat_toUInt8]
    show b.toNat = (Char.ofNat b.toNat).toNat % 2 ^ 8
    rw [Char.toNat_ofNat, if_pos (Or.inl (by omega))]
    omega
  -- a character of several bytes has a code of at least 128
  all_goals
    have small := lt_of_toNat_ofNat pos ascii
    simp only [isContinuation, Bool.and_eq_true, decide_eq_true_eq, beq_iff_eq] at *
    omega

theorem mem_of_shown_mem_decodePieces (bs : List UInt8) {c : Char} (pos : 0 < c.toNat)
    (ascii : c.toNat < 128) : ∀ p ∈ decodePieces bs, p.shown = c → c.toUInt8 ∈ bs := by
  fun_induction decodePieces bs with
  | case1 => simp
  | case2 b rest c' used found ih =>
    intro p hp shown
    rcases List.mem_cons.mp hp with rfl | later
    · simp only [Piece.shown] at shown
      subst shown
      simp [decodeOne?_ascii found pos ascii]
    · exact List.mem_cons_of_mem _ (List.mem_of_mem_drop (ih p later shown))
  | case3 b rest missing ih =>
    intro p hp shown
    rcases List.mem_cons.mp hp with rfl | later
    · -- a stray byte shows as the replacement character, which is no ASCII character
      subst shown
      simp [Piece.shown, replacementChar] at ascii
    · exact List.mem_cons_of_mem _ (ih p later shown)

theorem utf8EncodeChar_ascii {c : Char} (ascii : c.toNat < 128) :
    String.utf8EncodeChar c = [c.toUInt8] := by
  have small : c.val.toNat ≤ 127 := by
    change c.toNat ≤ 127
    omega
  unfold String.utf8EncodeChar
  rw [if_pos small]
  rfl

theorem toNat_toUInt8_of_ascii {c : Char} (ascii : c.toNat < 128) : c.toUInt8.toNat = c.toNat := by
  change c.val.toUInt8.toNat = c.val.toNat
  change c.val.toNat < 128 at ascii
  rw [UInt32.toNat_toUInt8]
  omega

namespace ByteText

theorem ext {a b : ByteText} (h : a.bytes = b.bytes) : a = b := by
  cases a
  cases h
  rfl

theorem ofString_bytes (s : String) : (ofString s).bytes = s.toList.flatMap String.utf8EncodeChar := by
  simp only [ofString, String.toUTF8, ByteArray.toList, byteArray_toList_loop, List.reverse_nil,
    List.nil_append, List.drop_zero, ← String.utf8Encode_toList, List.utf8Encode,
    List.toList_data_toByteArray]

theorem pieces_ofString_append (s : String) (t : ByteText) :
    (ofString s ++ t).pieces = s.toList.map .char ++ t.pieces := by
  simp only [pieces, bytes_append, ofString_bytes, decodePieces_flatMap_utf8EncodeChar]

theorem text_ofString_append (s : String) (t : ByteText) : (ofString s ++ t).text = s ++ t.text := by
  simp only [text, pieces_ofString_append, List.map_append, List.map_map, String.ofList_append]
  congr 1
  simp [Function.comp_def, Piece.shown]

theorem text_ofString (s : String) : (ofString s).text = s := by
  have joined := text_ofString_append s ⟨[]⟩
  rwa [show ofString s ++ ⟨[]⟩ = ofString s from congrArg ByteText.mk (List.append_nil _),
    show (⟨[]⟩ : ByteText).text = "" by simp [text, pieces, decodePieces], String.append_empty] at joined

theorem text_append_ascii (u : ByteText) {a : UInt8} (ascii : a.toNat < 128) (bs : List UInt8) :
    (u ++ ⟨a :: bs⟩).text = u.text ++ (⟨a :: bs⟩ : ByteText).text := by
  simp only [text, pieces, bytes_append, decodePieces_append_ascii u.bytes ascii bs, List.map_append,
    String.ofList_append]

theorem mem_bytes_of_mem_text (t : ByteText) {c : Char} (pos : 0 < c.toNat) (ascii : c.toNat < 128)
    (h : c ∈ t.text.toList) : c.toUInt8 ∈ t.bytes := by
  obtain ⟨p, hp, shown⟩ : ∃ p ∈ t.pieces, p.shown = c := by
    simpa [text] using h
  exact mem_of_shown_mem_decodePieces t.bytes pos ascii p hp shown

theorem ofString_append (s t : String) : ofString (s ++ t) = ofString s ++ ofString t :=
  ext (by simp [ofString_bytes])

theorem text_append_ofString (u : ByteText) (s : String) (lead : ∀ c ∈ s.toList.head?, c.toNat < 128) :
    (u ++ ofString s).text = u.text ++ s := by
  cases written : s.toList with
  | nil =>
    have empty : s = "" := String.toList_eq_nil_iff.mp written
    subst empty
    rw [show u ++ ofString "" = u from ext (by simp [ofString_bytes]), String.append_empty]
  | cons c cs =>
    have ascii : c.toNat < 128 := lead c (by simp [written])
    have bytes : ofString s = ⟨c.toUInt8 :: cs.flatMap String.utf8EncodeChar⟩ :=
      ext (by rw [ofString_bytes, written, List.flatMap_cons, utf8EncodeChar_ascii ascii]; rfl)
    rw [bytes, text_append_ascii u (by rw [toNat_toUInt8_of_ascii ascii]; exact ascii), ← bytes,
      text_ofString]

theorem not_mem_text {t : ByteText} {c : Char} (pos : 0 < c.toNat) (ascii : c.toNat < 128)
    (h : t.contains c = false) : c ∉ t.text.toList := fun mem => by
  have shown := mem_bytes_of_mem_text t pos ascii mem
  simp only [contains] at h
  rw [List.contains_iff_mem.mpr shown] at h
  cases h

theorem text_ne_empty {t : ByteText} (h : t.isEmpty = false) : t.text ≠ "" := by
  obtain ⟨b, bs, rfl⟩ : ∃ b bs, t = ⟨b :: bs⟩ := by
    obtain ⟨_ | ⟨b, bs⟩⟩ := t
    · simp [isEmpty] at h
    · exact ⟨b, bs, rfl⟩
  simp only [text, pieces]
  rw [decodePieces]
  split <;> simp

end ByteText

end ChannelMux.Text
