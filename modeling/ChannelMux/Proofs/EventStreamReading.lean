import ChannelMux.EventStream
import ChannelMux.Proofs.ByteTextReading
import ChannelMux.Proofs.DescriptorText
import Mathlib

/-! Reading back the events of a stream. -/

namespace ChannelMux

namespace Text

theorem decodeFrom_append_ascii (q : Option Partial) (xs : List UInt8) {a : UInt8}
    (ascii : a.toNat < 0x80) (ys : List UInt8) :
    decodeFrom q (xs ++ a :: ys) = decodeFrom q xs ++ Char.ofNat a.toNat :: utf8Decode ys := by
  induction xs generalizing q with
  | nil => simp [decodeStep_ascii q ascii, utf8Decode]
  | cons x xs ih => simp [ih]

theorem utf8Decode_append_ascii (xs : List UInt8) {a : UInt8} (ascii : a.toNat < 0x80)
    (ys : List UInt8) : utf8Decode (xs ++ a :: ys) = utf8Decode xs ++ Char.ofNat a.toNat :: utf8Decode ys :=
  decodeFrom_append_ascii none xs ascii ys

theorem utf8Decode_cons_ascii {a : UInt8} (ascii : a.toNat < 0x80) (ys : List UInt8) :
    utf8Decode (a :: ys) = Char.ofNat a.toNat :: utf8Decode ys :=
  utf8Decode_append_ascii [] ascii ys

theorem utf8Decode_intercalate {a : UInt8} (ascii : a.toNat < 0x80) (parts : List (List UInt8)) :
    utf8Decode ([a].intercalate parts) = [Char.ofNat a.toNat].intercalate (parts.map utf8Decode) := by
  induction parts with
  | nil => rfl
  | cons p ps ih =>
    cases ps with
    | nil => simp
    | cons p' ps' =>
      rw [List.intercalate_cons_cons, List.append_assoc, List.singleton_append,
        utf8Decode_append_ascii p ascii, ih]
      simp [List.intercalate_cons_cons]

theorem decodeStep_ascii_of_mem (q : Option Partial) (b : UInt8) {c : Char}
    (mem : c ∈ (decodeStep q b).1) (pos : 0 < c.toNat) (ascii : c.toNat < 0x80) :
    b.toNat = c.toNat := by
  -- what a byte read between characters gives
  have fromBegin : c ∈ (begin b).1 → b.toNat = c.toNat := by
    intro inBegin
    simp only [begin] at inBegin
    split_ifs at inBegin with small <;> simp [replacementChar] at inBegin <;> subst inBegin
    · rw [Char.toNat_ofNat, if_pos (Or.inl (by omega))]
    · simp at ascii
  cases q with
  | none => exact fromBegin mem
  | some p =>
    simp only [decodeStep, Partial.take] at mem
    split_ifs at mem with within last
    · -- a completed character has a code beyond ASCII, which no ASCII character other than NUL has
      rw [List.mem_singleton] at mem
      subst mem
      have beyond := p.lastBeyondAscii last
      have bounds := p.continues
      have small := lt_of_toNat_ofNat pos ascii
      omega
    · simp at mem
    · rcases List.mem_cons.mp mem with rfl | later
      · simp [replacementChar] at ascii
      · exact fromBegin later

theorem byte_of_mem_decodeFrom (q : Option Partial) (bs : List UInt8) {c : Char}
    (mem : c ∈ decodeFrom q bs) (pos : 0 < c.toNat) (ascii : c.toNat < 0x80) :
    ∃ b ∈ bs, b.toNat = c.toNat := by
  induction bs generalizing q with
  | nil =>
    cases q <;> simp [decodeEnd, replacementChar] at mem
    subst mem
    simp at ascii
  | cons b bs ih =>
    rw [decodeFrom_cons, List.mem_append] at mem
    rcases mem with here | later
    · exact ⟨b, List.mem_cons_self, decodeStep_ascii_of_mem q b here pos ascii⟩
    · obtain ⟨b', mem', same⟩ := ih _ later
      exact ⟨b', List.mem_cons_of_mem _ mem', same⟩

theorem lf_not_mem_utf8Decode {bs : List UInt8} (h : (10 : UInt8) ∉ bs) : '\n' ∉ utf8Decode bs := by
  intro mem
  obtain ⟨b, inBytes, same⟩ := byte_of_mem_decodeFrom none bs mem (by decide) (by decide)
  have ten : b = 10 := UInt8.toNat_inj.mp (by simpa using same)
  exact h (ten ▸ inBytes)

theorem cr_mem_utf8Decode_iff (bs : List UInt8) : '\r' ∈ utf8Decode bs ↔ (13 : UInt8) ∈ bs := by
  constructor
  · intro mem
    obtain ⟨b, inBytes, same⟩ := byte_of_mem_decodeFrom none bs mem (by decide) (by decide)
    have thirteen : b = 13 := UInt8.toNat_inj.mp (by simpa using same)
    exact thirteen ▸ inBytes
  · intro mem
    obtain ⟨xs, ys, rfl⟩ := List.append_of_mem mem
    rw [utf8Decode_append_ascii xs (by decide) ys]
    simp

end Text

namespace EventStream

open Text

theorem subset_intercalate {α : Type} (sep : List α) {parts : List (List α)} {part : List α}
    (mem : part ∈ parts) : part ⊆ sep.intercalate parts := by
  induction parts with
  | nil => simp at mem
  | cons p ps ih =>
    cases ps with
    | nil => simp_all
    | cons p' ps' =>
      rw [List.intercalate_cons_cons]
      rcases List.mem_cons.mp mem with rfl | later
      · exact List.subset_append_of_subset_left _ (List.subset_append_left _ _)
      · exact List.subset_append_of_subset_right _ (ih later)

theorem subset_of_mem_splitOn {α : Type} [DecidableEq α] {xs part : List α} {a : α}
    (mem : part ∈ xs.splitOn a) : part ⊆ xs := by
  have whole := subset_intercalate [a] mem
  rwa [List.intercalate_splitOn] at whole

/-- The characters of `dataPrefix`. -/
def dataChars : List Char := "data: ".toList

theorem dataChars_eq : dataChars = ['d', 'a', 't', 'a', ':', ' '] := rfl

/-- The text of the event that carries a payload: a `data: ` line for each part between line
feeds, then an empty line. -/
def eventText (payload : List UInt8) : List Char :=
  ((payload.splitOn 10).flatMap fun part => dataChars ++ utf8Decode part ++ ['\n']) ++ ['\n']

theorem utf8Decode_dataPrefix_append (rest : List UInt8) :
    utf8Decode (dataPrefix ++ rest) = dataChars ++ utf8Decode rest := by
  simp only [dataPrefix, List.cons_append, List.nil_append]
  repeat rw [utf8Decode_cons_ascii (by decide)]
  rfl

theorem utf8Decode_encode_append (payload rest : List UInt8) :
    utf8Decode (encode payload ++ rest) = eventText payload ++ utf8Decode rest := by
  -- the parts' lines decode one after the other, each ended by its line feed
  have parts : ∀ (ps : List (List UInt8)) (tail : List UInt8),
      utf8Decode ((ps.flatMap fun part => dataPrefix ++ part ++ [10]) ++ tail) =
        (ps.flatMap fun part => dataChars ++ utf8Decode part ++ ['\n']) ++ utf8Decode tail := by
    intro ps tail
    induction ps with
    | nil => rfl
    | cons p ps ih =>
      rw [List.flatMap_cons, List.append_assoc, List.append_assoc, List.append_assoc,
        List.singleton_append, ← List.append_assoc, utf8Decode_append_ascii _ (by decide),
        utf8Decode_dataPrefix_append, ih, List.flatMap_cons]
      simp
  rw [encode, List.append_assoc, parts, List.singleton_append, utf8Decode_cons_ascii (by decide),
    eventText, List.append_assoc]
  rfl

theorem utf8Decode_stream (payloads : List (List UInt8)) :
    utf8Decode (payloads.flatMap encode) = payloads.flatMap eventText := by
  induction payloads with
  | nil => rfl
  | cons d ds ih => rw [List.flatMap_cons, utf8Decode_encode_append, ih, List.flatMap_cons]

theorem decode_stream (payloads : List (List UInt8)) :
    decode (payloads.flatMap encode) = payloads.flatMap eventText := by
  rw [decode, if_neg, utf8Decode_stream]
  cases payloads with
  | nil => simp
  | cons d ds =>
    obtain ⟨first, others, split⟩ := List.exists_cons_of_ne_nil (List.splitOn_ne_nil 10 d)
    simp [encode, split, dataPrefix]

/-! ### Lines -/

theorem linesFrom_append_lf {l : List Char} (lf : '\n' ∉ l) (cr : '\r' ∉ l) (rest line : List Char) :
    linesFrom (l ++ '\n' :: rest) line = (line ++ l) :: linesFrom rest [] := by
  induction l generalizing line with
  | nil => simp [linesFrom_lf]
  | cons c cs ih =>
    have notLf : c ≠ '\n' := fun h => lf (h ▸ List.mem_cons_self)
    have notCr : c ≠ '\r' := fun h => cr (h ▸ List.mem_cons_self)
    rw [List.cons_append, linesFrom_other notLf notCr,
      ih (fun h => lf (List.mem_cons_of_mem _ h)) (fun h => cr (List.mem_cons_of_mem _ h))]
    simp

theorem linesFrom_dataLines {parts : List (List UInt8)}
    (clean : ∀ part ∈ parts, '\n' ∉ utf8Decode part ∧ '\r' ∉ utf8Decode part) (rest : List Char) :
    linesFrom ((parts.flatMap fun part => dataChars ++ utf8Decode part ++ ['\n']) ++ '\n' :: rest) [] =
      (parts.map fun part => dataChars ++ utf8Decode part) ++ [] :: linesFrom rest [] := by
  induction parts with
  | nil => simp [linesFrom_lf]
  | cons p ps ih =>
    obtain ⟨lf, cr⟩ := clean p List.mem_cons_self
    have lineLf : '\n' ∉ dataChars ++ utf8Decode p := by simp [dataChars_eq, lf]
    have lineCr : '\r' ∉ dataChars ++ utf8Decode p := by simp [dataChars_eq, cr]
    have first : ((p :: ps).flatMap fun part => dataChars ++ utf8Decode part ++ ['\n']) ++ '\n' :: rest =
        (dataChars ++ utf8Decode p) ++
          '\n' :: ((ps.flatMap fun part => dataChars ++ utf8Decode part ++ ['\n']) ++ '\n' :: rest) := by
      simp
    rw [first, linesFrom_append_lf lineLf lineCr, ih (fun q mem => clean q (List.mem_cons_of_mem _ mem))]
    simp

theorem linesFrom_eventText {payload : List UInt8} (cr : (13 : UInt8) ∉ payload) (rest : List Char) :
    linesFrom (eventText payload ++ rest) [] =
      ((payload.splitOn 10).map fun part => dataChars ++ utf8Decode part) ++ [] :: linesFrom rest [] := by
  have clean : ∀ part ∈ payload.splitOn 10, '\n' ∉ utf8Decode part ∧ '\r' ∉ utf8Decode part :=
    fun part mem => ⟨lf_not_mem_utf8Decode (not_mem_of_mem_splitOn mem),
      fun h => cr (subset_of_mem_splitOn mem ((cr_mem_utf8Decode_iff part).mp h))⟩
  rw [eventText, List.append_assoc, List.singleton_append, linesFrom_dataLines clean]

/-- The lines of the event that carries a payload. -/
def eventLines (payload : List UInt8) : List (List Char) :=
  ((payload.splitOn 10).map fun part => dataChars ++ utf8Decode part) ++ [[]]

theorem lines_stream {payloads : List (List UInt8)} (cr : ∀ d ∈ payloads, (13 : UInt8) ∉ d) :
    linesFrom (payloads.flatMap eventText) [] = payloads.flatMap eventLines := by
  induction payloads with
  | nil => simp
  | cons d ds ih =>
    rw [List.flatMap_cons, linesFrom_eventText (cr d List.mem_cons_self),
      ih (fun e mem => cr e (List.mem_cons_of_mem _ mem)), List.flatMap_cons, eventLines]
    simp

/-! ### The reader -/

namespace Reader

theorem line_data (r : Reader) (value : List Char) :
    r.line (dataChars ++ value) = { r with data := r.data ++ value ++ ['\n'] } := by
  -- the line splits at its colon into the name `data` and the value behind one space
  have split : r.line (dataChars ++ value) = r.field ['d', 'a', 't', 'a'] value := rfl
  have notEvent : ['d', 'a', 't', 'a'] ≠ "event".toList := by decide
  have isData : ['d', 'a', 't', 'a'] = "data".toList := rfl
  rw [split, field, if_neg notEvent, if_pos isData]

theorem foldl_line_data (r : Reader) (values : List (List Char)) :
    (values.map (dataChars ++ ·)).foldl line r =
      { r with data := r.data ++ values.flatMap (· ++ ['\n']) } := by
  induction values generalizing r with
  | nil => simp
  | cons v vs ih => simp [line_data, ih]

theorem dispatch_values (events : List Event) {values : List (List Char)} (nonempty : values ≠ []) :
    ({ data := values.flatMap (· ++ ['\n']), events } : Reader).dispatch =
      { events := events ++ [Event.message (['\n'].intercalate values)] } := by
  obtain ⟨init, last, rfl⟩ := List.eq_nil_or_concat values |>.resolve_left nonempty
  have ended : (init ++ [last]).flatMap (· ++ ['\n']) = (['\n'].intercalate (init ++ [last])) ++ ['\n'] := by
    induction init with
    | nil => simp
    | cons v vs ih =>
      cases vs with
      | nil => simp [List.intercalate_cons_cons]
      | cons v' vs' => simp_all [List.intercalate_cons_cons]
  have lastLf : (['\n'].intercalate (init ++ [last]) ++ ['\n']).getLast? = some '\n' := by simp
  unfold dispatch
  dsimp only
  rw [List.concat_eq_append, ended, if_neg (by simp), if_pos lastLf, List.dropLast_concat]
  rfl

end Reader

theorem foldl_eventLines (events : List Event) (payload : List UInt8) :
    (eventLines payload).foldl Reader.line { events } =
      { events := events ++ [Event.message (utf8Decode payload)] } := by
  have parts : (payload.splitOn 10).map utf8Decode ≠ [] := by simp [List.splitOn_ne_nil]
  have texts : (payload.splitOn 10).map (fun part => dataChars ++ utf8Decode part) =
      ((payload.splitOn 10).map utf8Decode).map (dataChars ++ ·) := by
    simp
  rw [eventLines, List.foldl_append, texts, Reader.foldl_line_data]
  simp only [List.foldl_cons, List.foldl_nil, List.nil_append]
  -- the payload's text is its parts' texts joined by line feeds
  have joined : ['\n'].intercalate ((payload.splitOn 10).map utf8Decode) = utf8Decode payload := by
    have lf : ['\n'] = [Char.ofNat (10 : UInt8).toNat] := rfl
    rw [lf, ← utf8Decode_intercalate (by decide), List.intercalate_splitOn]
  rw [show Reader.line _ [] = Reader.dispatch _ from rfl, Reader.dispatch_values events parts, joined]

theorem foldl_stream (events : List Event) (payloads : List (List UInt8)) :
    (payloads.flatMap eventLines).foldl Reader.line { events } =
      { events := events ++ payloads.map (Event.message ∘ utf8Decode) } := by
  induction payloads generalizing events with
  | nil => simp
  | cons d ds ih => simp [List.foldl_append, foldl_eventLines, ih]

/-! ### No event holds a CR -/

theorem cr_not_mem_of_mem_linesFrom {text line l : List Char} (start : '\r' ∉ line)
    (mem : l ∈ linesFrom text line) : '\r' ∉ l := by
  fun_induction linesFrom text line with
  | case1 => simp at mem
  | case2 rest line ih =>
    rcases List.mem_cons.mp mem with rfl | later
    · exact start
    · exact ih (by simp) later
  | case3 rest line notLf ih =>
    rcases List.mem_cons.mp mem with rfl | later
    · exact start
    · exact ih (by simp) later
  | case4 c rest line lf cr ih => exact ih (by simp [start, Ne.symm cr]) mem

namespace Reader

/-- No CR in the data gathered or in the data of an event dispatched. -/
def CrFree (r : Reader) : Prop := '\r' ∉ r.data ∧ ∀ e ∈ r.events, '\r' ∉ e.data

theorem CrFree.field {r : Reader} (free : r.CrFree) (name : List Char) {value : List Char}
    (clean : '\r' ∉ value) : (r.field name value).CrFree := by
  obtain ⟨data, events⟩ := free
  unfold Reader.field
  split_ifs <;> exact ⟨by simp [data, clean], events⟩

theorem CrFree.dispatch {r : Reader} (free : r.CrFree) : r.dispatch.CrFree := by
  obtain ⟨data, events⟩ := free
  by_cases empty : r.data.isEmpty
  · simp only [Reader.dispatch, if_pos empty]
    exact ⟨data, events⟩
  · simp only [Reader.dispatch, if_neg empty]
    refine ⟨by simp, fun e mem => ?_⟩
    rcases List.mem_append.mp mem with old | new
    · exact events e old
    · -- the event's data is the data gathered, less perhaps its last line feed
      rw [List.mem_singleton] at new
      subst new
      show '\r' ∉ (if r.data.getLast? = some '\n' then r.data.dropLast else r.data)
      split_ifs
      · exact fun h => data (List.dropLast_subset _ h)
      · exact data

theorem CrFree.line {r : Reader} (free : r.CrFree) {l : List Char} (clean : '\r' ∉ l) :
    (r.line l).CrFree := by
  unfold Reader.line
  split
  · exact free.dispatch
  · exact free
  · rw [List.span_eq_takeWhile_dropWhile]
    split
    · exact free.field _ (by simp)
    · next name sep value rest =>
      -- the value is what follows the first colon, a part of the line
      have within : sep :: value ⊆ l := by
        have after : l.dropWhile (· != ':') = sep :: value := congrArg Prod.snd rest
        rw [← after]
        exact (List.dropWhile_suffix _).subset
      apply free.field
      intro h
      apply clean
      unfold fieldValue at h
      split at h <;> exact within (List.mem_cons_of_mem _ (by simp_all))

end Reader

theorem cr_not_mem_read (bytes : List UInt8) : ∀ e ∈ read bytes, '\r' ∉ e.data := by
  have lines : ∀ l ∈ lines (decode bytes), '\r' ∉ l :=
    fun l mem => cr_not_mem_of_mem_linesFrom (by simp) mem
  have free : ∀ (ls : List (List Char)) (r : Reader), r.CrFree → (∀ l ∈ ls, '\r' ∉ l) →
      (ls.foldl Reader.line r).CrFree := by
    intro ls
    induction ls with
    | nil => exact fun r free _ => free
    | cons l ls ih =>
      exact fun r free clean => ih _ (free.line (clean l List.mem_cons_self))
        (fun l' mem => clean l' (List.mem_cons_of_mem _ mem))
  exact (free _ {} ⟨by simp, by simp⟩ lines).2

theorem read_encoded_iff (payloads : List (List UInt8)) :
    read (payloads.flatMap encode) = payloads.map (Event.message ∘ utf8Decode) ↔
      ∀ d ∈ payloads, (13 : UInt8) ∉ d := by
  constructor
  · intro readBack d mem
    have free := cr_not_mem_read (payloads.flatMap encode)
    rw [readBack] at free
    have event : '\r' ∉ utf8Decode d :=
      free _ (List.mem_map_of_mem (f := Event.message ∘ utf8Decode) mem)
    exact fun cr => event ((cr_mem_utf8Decode_iff d).mpr cr)
  · intro cr
    have folded := foldl_stream [] payloads
    rw [read, decode_stream, lines, lines_stream cr]
    exact (congrArg Reader.events folded).trans (List.nil_append _)

end EventStream

end ChannelMux
