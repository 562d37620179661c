import ChannelMux.Socket.Requests
import ChannelMux.Proofs.ServedResponses
import ChannelMux.Proofs.SizeReading
import Mathlib

/-! What a listening channel's handlers hold at every moment, over every run. -/

namespace ChannelMux.Socket

/-! ### The response writer -/

namespace Http.Writer

open ChannelMux.Http

variable (w : Writer) {code : Int}

theorem writeHeader_of_bad (bad : code < 100 ∨ 999 < code) :
    w.writeHeader code = .error (invalidCode code) := by
  have refused : (decide (code < 100) || decide (999 < code)) = true := by simpa using bad
  simp [Writer.writeHeader, refused]

theorem writeHeader_of_good (good : ¬(code < 100 ∨ 999 < code)) :
    ∃ v, w.writeHeader code = .ok v := by
  have accepted : (decide (code < 100) || decide (999 < code)) = false := by simpa using good
  unfold Writer.writeHeader
  simp only [accepted, Bool.false_eq_true, if_false]
  split_ifs <;> exact ⟨_, rfl⟩

/-- The writer an error reply writes its status on: the header with a plain-text type and no
sniffing. -/
def plainError (w : Writer) : Writer :=
  { w with header := ((w.header.set "Content-Type" "text/plain; charset=utf-8").set
      "X-Content-Type-Options" "nosniff") }

theorem error_eq (text : String) :
    w.error text code = (fun v => (v.write (text ++ "\n").toUTF8.toList).1) <$>
      (plainError w).writeHeader code := by
  simp only [Writer.error, plainError, bind, Except.bind, pure, Except.pure, Functor.map,
    Except.map]

theorem error_ok (text : String) (good : ¬(code < 100 ∨ 999 < code)) :
    ∃ v, w.error text code = .ok v := by
  obtain ⟨u, hu⟩ := writeHeader_of_good (plainError w) good
  exact ⟨_, by rw [error_eq, hu]; rfl⟩

theorem error_status (text : String) (unwritten : w.final = none)
    (good : ¬(code < 100 ∨ 999 < code)) (final : isInformational code = false) :
    ∃ v, w.error text code = .ok v ∧ v.status = code := by
  have accepted : (decide (code < 100) || decide (999 < code)) = false := by simpa using good
  have written : (plainError w).writeHeader code = .ok ((plainError w).commit code) := by
    simp [Writer.writeHeader, accepted, final, plainError, unwritten]
  refine ⟨_, by rw [error_eq, written]; rfl, ?_⟩
  simp [Writer.status, Writer.write_final, Writer.finish, Writer.commit]

end Http.Writer

/-! ### Replies and chosen statuses -/

/-- Replies none of which settles an exchange. -/
def Quiet (replies : List Message) : Prop := ∀ m ∈ replies, m.settles = false

/-- A status the response writer refuses. -/
def BadStatus (code : Int) : Prop := code < 100 ∨ 999 < code

instance (code : Int) : Decidable (BadStatus code) := inferInstanceAs (Decidable (_ ∨ _))

theorem chosenStatus_append_connect {l : List Message} {m : Message} {c : Connect}
    (hc : m.asConnect? = some c) (code : Int) :
    chosenStatus code (l ++ [m]) = if c.code = 0 then chosenStatus code l else c.code := by
  by_cases zero : c.code = 0 <;> simp [chosenStatus, hc, zero, List.filter_append]

theorem chosenStatus_append_other {l : List Message} {m : Message} (hc : m.asConnect? = none)
    (code : Int) : chosenStatus code (l ++ [m]) = chosenStatus code l := by
  simp [chosenStatus, hc]

theorem quiet_append {l : List Message} {m : Message} (quiet : Quiet l) (calm : m.settles = false) :
    Quiet (l ++ [m]) := by
  intro x mem
  rcases List.mem_append.1 mem with old | new
  · exact quiet x old
  · rw [List.mem_singleton.1 new]
    exact calm

theorem settles_of_asDisconnect? {m : Message} (hd : m.asDisconnect?.isSome) : m.settles := by
  simp [Message.settles, hd]

theorem calm_of_other {m : Message} (hd : m.asDisconnect?.isSome = false) (hk : m.kind ≠ .data) :
    m.settles = false := by
  simp [Message.settles, hd, hk]

/-! ### Ending an exchange -/

section Ending

variable (w : Http.Writer) {code : Int}

theorem endEmpty_of_bad (bad : BadStatus code) :
    endEmpty w code = .panicked w (Http.invalidCode code) := by
  unfold endEmpty writeEmpty
  by_cases low : code < 400
  · simp [low, Http.Writer.writeHeader_of_bad w bad]
  · have high : 999 < code := by unfold BadStatus at bad; omega
    simp [low, Http.Writer.writeHeader_of_bad _ (Or.inr high), bind, Except.bind]

theorem endEmpty_of_good (good : ¬BadStatus code) : ∃ v, endEmpty w code = .done v {} := by
  unfold endEmpty writeEmpty
  by_cases low : code < 400
  · obtain ⟨v, hv⟩ := Http.Writer.writeHeader_of_good w good
    exact ⟨v, by simp [low, hv]⟩
  · obtain ⟨v, hv⟩ :=
      Http.Writer.writeHeader_of_good { w with header := withPlainText w.header } good
    exact ⟨(v.write (Http.statusText code).toUTF8.toList).1,
      by simp [low, hv, bind, Except.bind, pure, Except.pure]⟩

theorem endWithBody_of_bad (p : List UInt8) (bad : BadStatus code) :
    endWithBody w code p = .panicked w (Http.invalidCode code) := by
  simp [endWithBody, Http.Writer.writeHeader_of_bad w bad]

theorem endWithBody_of_good (p : List UInt8) (good : ¬BadStatus code) :
    ∃ v d, endWithBody w code p = .done v d := by
  obtain ⟨v, hv⟩ := Http.Writer.writeHeader_of_good w good
  unfold endWithBody
  rw [hv]
  dsimp only
  split
  · exact ⟨_, _, rfl⟩
  · exact ⟨_, _, rfl⟩

theorem answerTurn_closing :
    ∃ v, answerTurn w code .closing = .inl (.done v ⟨503, "node closed"⟩) := by
  obtain ⟨v, hv⟩ := Http.Writer.error_ok w "Service closing"
    (show ¬((503 : Int) < 100 ∨ 999 < 503) by decide)
  exact ⟨v, by simp [answerTurn, hv]⟩

end Ending

/-! ### Nodes -/

theorem NodeKind.settings_chunk {k : NodeKind} {o : Options} {st : NodeSettings}
    (h : k.settings o = .ok st) : 0 < st.chunk := by
  unfold NodeKind.settings at h
  split at h
  · -- a socket node keeps the default chunk size
    simp only [bind, Except.bind] at h
    split at h; · cases h
    split at h; · cases h
    split at h; · cases h
    split at h; · cases h
    split at h
    · cases h
    · cases h; show 0 < 64 * 1024; decide
  · simp only [bind, Except.bind] at h
    split at h; · cases h
    split at h
    · cases h
    · rename_i positive; cases h; simp only at positive ⊢; omega

theorem Cycle.opened_state (c : Cycle) : c.beginOpen.1.finishOpen.1.state = .active := by
  simp [Cycle.beginOpen, Cycle.finishOpen, Cycle.moveTo]
  split <;> simp_all

theorem Cycle.refused_state (c : Cycle) : c.beginOpen.1.fail.1.state = .error := by
  simp

/-- What holds of a node at every moment: its chunk size is positive, and it has a session
group only while it is neither closed nor closing. -/
structure Node.Sound (node : Node) : Prop where
  chunk : 0 < node.settings.chunk
  grouped : node.group.isSome → node.cycle.state ≠ .closed ∧ node.cycle.state ≠ .closing

@[simp] theorem Node.enter_kind (node : Node) (a : Int) (i : Nat) :
    (node.enter a i).kind = node.kind := rfl

@[simp] theorem Node.drop_kind (node : Node) (a : Int) : (node.drop a).kind = node.kind := rfl

theorem Node.Sound.enter {node : Node} (h : node.Sound) (a : Int) (i : Nat) : (node.enter a i).Sound :=
  ⟨h.chunk, h.grouped⟩

theorem Node.Sound.drop {node : Node} (h : node.Sound) (a : Int) : (node.drop a).Sound :=
  ⟨h.chunk, h.grouped⟩

/-! ### Handlers -/

namespace Phase

/-- Whether the Connect went out: from the start of the loop on. -/
def greeted : Phase → Bool
  | .feeding .. | .answering _ | .streaming | .reading | .leaving _ | .ending _ | .finished _
  | .panicked _ => true
  | _ => false

/-- Whether a session is live: it joined its group and has not delivered its Disconnect. -/
def live : Phase → Bool
  | .greeting | .feeding .. | .answering _ | .streaming | .reading | .leaving _ | .ending _ => true
  | _ => false

/-- Whether a session's address is in its node's table: from its join until it leaves, and for
good once its exchange panicked. -/
def listed : Phase → Bool
  | .greeting | .feeding .. | .answering _ | .streaming | .reading | .leaving _ | .panicked _ => true
  | _ => false

theorem began_of_live {p : Phase} (live : p.live) : p.listed ∨ p.greeted := by
  cases p <;> simp_all [Phase.live, listed, greeted]

end Phase

namespace Handler

/-- The bytes a handler delivered as Data, in order. -/
def bytesSent (h : Handler) : List UInt8 := (h.sent.map (·.data.toList)).flatten

/-- A handler that has delivered, read and taken nothing, and written no final status. -/
def Fresh (h : Handler) : Prop := h.sent = [] ∧ h.frames = [] ∧ h.taken = [] ∧ h.writer.final = none

/-- A handler with an address, whose session joined a group. -/
def Joined (h : Handler) : Prop := h.serial.isSome ∧ h.group.isSome

/-- Every piece a handler delivered as Data holds a byte. -/
def Pieces (h : Handler) : Prop := ∀ p ∈ h.sent, 0 < p.size

/-- What a handler whose loop started delivered as Data, by the kind of its node. -/
def Fed (h : Handler) : NodeKind → Prop
  | .http => h.bytesSent = h.request.body ∧ (h.request.fault = none → h.sent ≠ []) ∧
      (h.sent = [ByteArray.empty] ∨ h.Pieces)
  | .events | .publish => h.sent = []
  | .socket => h.sent = h.frames

/-- The last reply a plain exchange took settled it, the earlier ones, none settling it, having
chosen status `code`. -/
def SettledAt (h : Handler) (code : Int) : Prop :=
  ∃ pre m, h.taken = pre ++ [m] ∧ m.settles ∧ Quiet pre ∧ code = chosenStatus 200 pre

/-- A plain exchange ended without a panic: before any reply settled it, or settled with a status
the writer takes. -/
def EndedWell (h : Handler) : Prop := Quiet h.taken ∨ ∃ code, h.SettledAt code ∧ ¬BadStatus code

/-- What a handler's own record says at each phase, `k` being the kind of the node it was routed
to. -/
def Shape (h : Handler) (k : Option NodeKind) : Prop :=
  match h.phase with
  | .arrived => k = none ∧ h.serial = none ∧ h.group = none ∧ h.Fresh
  | .routed | .allocating => k.isSome ∧ h.serial = none ∧ h.group = none ∧ h.Fresh
  | .upgrading => k.any NodeKind.socketLike ∧ h.serial = none ∧ h.group = none ∧ h.Fresh
  | .joining => k.isSome ∧ h.serial.isSome ∧ h.group = none ∧ h.Fresh
  | .greeting => k.isSome ∧ h.Joined ∧ h.Fresh
  | .feeding chunk rest sent =>
    k = some .http ∧ h.Joined ∧ h.frames = [] ∧ h.taken = [] ∧ 0 < chunk ∧
      h.bytesSent ++ rest = h.request.body ∧ h.Pieces ∧ sent = !h.sent.isEmpty
  | .answering code =>
    k = some .http ∧ h.Joined ∧ h.Fed .http ∧ h.request.fault = none ∧ Quiet h.taken ∧
      code = chosenStatus 200 h.taken
  | .streaming => k = some .events ∧ h.Joined ∧ h.Fed .events
  | .reading => ∃ kind, k = some kind ∧ kind.socketLike ∧ h.Joined ∧ h.Fed kind
  | .leaving _ | .ending _ | .finished _ =>
    ∃ kind, k = some kind ∧ h.Joined ∧ h.Fed kind ∧ (kind = .http → h.EndedWell)
  | .panicked e =>
    k = some .http ∧ h.Joined ∧ h.Fed .http ∧
      ∃ code, h.SettledAt code ∧ BadStatus code ∧ e = Http.invalidCode code
  | .turnedAway why =>
    h.group = none ∧ h.sent = [] ∧ ∀ c t, why.reply? = some (c, t) → h.writer.status = c

theorem refuse_eq (h : Handler) (why : Refusal) (unwritten : h.writer.final = none) :
    ∃ w, h.refuse why = { h with writer := w, phase := .turnedAway why } ∧
      ∀ c t, why.reply? = some (c, t) → w.status = c := by
  unfold refuse
  cases hr : why.reply? with
  | none => exact ⟨h.writer, rfl, by simp⟩
  | some reply =>
    obtain ⟨code, text⟩ := reply
    have valid : ¬(code < 100 ∨ 999 < code) ∧ Http.isInformational code = false := by
      cases why <;> simp [Refusal.reply?] at hr <;> obtain ⟨rfl, rfl⟩ := hr <;> decide
    obtain ⟨w, hw, status⟩ := Http.Writer.error_status h.writer text unwritten valid.1 valid.2
    refine ⟨w, by simp [hw], ?_⟩
    intro c t same
    cases same
    exact status

theorem refuse_shape {h : Handler} (why : Refusal) (k : Option NodeKind) (group : h.group = none)
    (fresh : h.Fresh) : (h.refuse why).Shape k := by
  obtain ⟨w, eq, status⟩ := refuse_eq h why fresh.2.2.2
  rw [eq]
  exact ⟨group, fresh.1, status⟩

theorem refuse_serial (h : Handler) (why : Refusal) (unwritten : h.writer.final = none) :
    (h.refuse why).serial = h.serial := by
  obtain ⟨w, eq, -⟩ := refuse_eq h why unwritten
  rw [eq]

theorem refuse_phase (h : Handler) (why : Refusal) (unwritten : h.writer.final = none) :
    (h.refuse why).phase = .turnedAway why := by
  obtain ⟨w, eq, -⟩ := refuse_eq h why unwritten
  rw [eq]

/-! #### One step of a handler's own record -/

section Steps

variable {h : Handler} {k : Option NodeKind}

theorem bytesSent_append (p : ByteArray) : ((h.sent ++ [p]).map (·.data.toList)).flatten =
    h.bytesSent ++ p.data.toList := by
  simp [bytesSent]


theorem feed_piece_shape {chunk : Nat} {b : UInt8} {bs : List UInt8} {sent : Bool}
    (hp : h.phase = .feeding chunk (b :: bs) sent) (shape : h.Shape k) :
    ({ h with phase := .feeding chunk ((b :: bs).drop chunk) true,
               sent := h.sent ++ [⟨((b :: bs).take chunk).toArray⟩] } : Handler).Shape k := by
  simp only [Shape, hp] at shape
  obtain ⟨kind, joined, frames, taken, positive, bytes, pieces, -⟩ := shape
  refine ⟨kind, joined, frames, taken, positive, ?_, ?_, by simp⟩
  · show ((h.sent ++ _).map (·.data.toList)).flatten ++ _ = h.request.body
    rw [bytesSent_append, List.append_assoc]
    simpa using bytes
  · -- a piece of a non-empty rest holds at least one byte, the chunk size being positive
    intro p mem
    rcases List.mem_append.mp mem with old | piece
    · exact pieces p old
    · rw [List.mem_singleton.mp piece]
      simp [ByteArray.size, positive]

theorem feed_fault_shape {chunk : Nat} {sent : Bool} (hp : h.phase = .feeding chunk [] sent)
    (shape : h.Shape k) (d : Disconnect) (faulty : h.request.fault.isSome) :
    ({ h with phase := .leaving d } : Handler).Shape k := by
  simp only [Shape, hp] at shape
  obtain ⟨kind, joined, -, taken, -, bytes, pieces, -⟩ := shape
  refine ⟨.http, kind, joined, ⟨by simpa [bytesSent] using bytes, fun clean => ?_, .inr pieces⟩,
    fun _ => .inl ?_⟩
  · change h.request.fault = none at clean
    simp [clean] at faulty
  · simp [taken, Quiet]

theorem feed_done_shape {chunk : Nat} {sent : Bool} (hp : h.phase = .feeding chunk [] sent)
    (shape : h.Shape k) (clean : h.request.fault = none) (fed : h.Fed .http) :
    ({ h with phase := .answering 200 } : Handler).Shape k := by
  simp only [Shape, hp] at shape
  obtain ⟨kind, joined, -, taken, -⟩ := shape
  exact ⟨kind, joined, fed, clean, by simp [taken, Quiet], by simp [taken]⟩

theorem feed_fed {chunk : Nat} (hp : h.phase = .feeding chunk [] true) (shape : h.Shape k) :
    h.Fed .http := by
  simp only [Shape, hp] at shape
  obtain ⟨-, -, -, -, -, bytes, pieces, sent⟩ := shape
  refine ⟨by simpa using bytes, fun _ nil => ?_, .inr pieces⟩
  simp [nil] at sent

theorem answer_connect_shape {code : Int} {m : Message} {c : Connect} {rest : List Message}
    (hp : h.phase = .answering code) (hc : m.asConnect? = some c) (shape : h.Shape k) (w : Http.Writer) :
    ({ h with queue := rest, taken := h.taken ++ [m], writer := w,
               phase := .answering (if c.code = 0 then code else c.code) } : Handler).Shape k := by
  simp only [Shape, hp] at shape
  obtain ⟨kind, joined, fed, clean, quiet, chosen⟩ := shape
  refine ⟨kind, joined, fed, clean, quiet_append quiet (Message.settles_of_asConnect? hc), ?_⟩
  simp [chosenStatus_append_connect hc, chosen]

theorem answer_skip_shape {code : Int} {m : Message} {rest : List Message}
    (hp : h.phase = .answering code) (hc : m.asConnect? = none) (calm : m.settles = false)
    (shape : h.Shape k) :
    ({ h with queue := rest, taken := h.taken ++ [m], phase := .answering code } : Handler).Shape k := by
  simp only [Shape, hp] at shape
  obtain ⟨kind, joined, fed, clean, quiet, chosen⟩ := shape
  exact ⟨kind, joined, fed, clean, quiet_append quiet calm,
    by simp [chosenStatus_append_other hc, chosen]⟩

theorem answer_settle_shape {code : Int} {m : Message} {rest : List Message}
    (hp : h.phase = .answering code) (settles : m.settles) (shape : h.Shape k) (w : Http.Writer)
    (phase : Phase)
    (ends : phase = if BadStatus code then .panicked (Http.invalidCode code) else phase)
    (ends_well : ¬BadStatus code → ∃ d, phase = .leaving d) :
    ({ h with queue := rest, taken := h.taken ++ [m], writer := w, phase } : Handler).Shape k := by
  simp only [Shape, hp] at shape
  obtain ⟨kind, joined, fed, clean, quiet, chosen⟩ := shape
  have settled :
      ({ h with queue := rest, taken := h.taken ++ [m], writer := w, phase } : Handler).SettledAt
        code := ⟨h.taken, m, rfl, settles, quiet, chosen⟩
  by_cases bad : BadStatus code
  · rw [if_pos bad] at ends
    subst ends
    exact ⟨kind, joined, fed, code, settled, bad, rfl⟩
  · obtain ⟨d, rfl⟩ := ends_well bad
    exact ⟨.http, kind, joined, fed, fun _ => .inr ⟨code, settled, bad⟩⟩

section Turns

variable (w : Http.Writer) (code : Int) {m : Message}

theorem answerTurn_connect {c : Connect} (hc : m.asConnect? = some c) :
    answerTurn w code (.reply m) =
      .inr ({ w with header := w.header.apply c.headers }, if c.code = 0 then code else c.code) := by
  simp [answerTurn, hc]

theorem answerTurn_disconnect (hc : m.asConnect? = none) (hd : m.asDisconnect?.isSome) :
    answerTurn w code (.reply m) = .inl (endEmpty w code) := by
  simp [answerTurn, hc, hd]

theorem answerTurn_data (hc : m.asConnect? = none) (hd : m.asDisconnect?.isSome = false)
    (hk : m.kind = .data) :
    answerTurn w code (.reply m) = .inl (endWithBody w code m.payload.toList) := by
  simp [answerTurn, hc, hd, hk]

theorem answerTurn_other (hc : m.asConnect? = none) (hd : m.asDisconnect?.isSome = false)
    (hk : m.kind ≠ .data) : answerTurn w code (.reply m) = .inr (w, code) := by
  simp [answerTurn, hc, hd, hk]

end Turns

theorem answerReply_shape {code : Int} (hp : h.phase = .answering code) (shape : h.Shape k)
    (m : Message) (rest : List Message) :
    ({ h with queue := rest, taken := h.taken ++ [m] }.settle
      (answerTurn h.writer code (.reply m))).Shape k := by
  cases hc : m.asConnect? with
  | some c =>
    rw [answerTurn_connect _ _ hc]
    exact answer_connect_shape hp hc shape _
  | none =>
    by_cases hd : m.asDisconnect?.isSome
    · -- a Disconnect ends the response without a body
      rw [answerTurn_disconnect _ _ hc hd]
      by_cases bad : BadStatus code
      · rw [endEmpty_of_bad _ bad]
        exact answer_settle_shape hp (settles_of_asDisconnect? hd) shape h.writer
          (.panicked (Http.invalidCode code)) (by simp [bad]) (fun good => absurd bad good)
      · obtain ⟨v, hv⟩ := endEmpty_of_good h.writer bad
        rw [hv]
        exact answer_settle_shape hp (settles_of_asDisconnect? hd) shape v (.leaving {})
          (by simp [bad]) (fun _ => ⟨_, rfl⟩)
    · have hd : m.asDisconnect?.isSome = false := by simpa using hd
      by_cases hk : m.kind = .data
      · -- a Data writes the status and the body
        rw [answerTurn_data _ _ hc hd hk]
        have settles : m.settles := by simp [Message.settles, hk]
        by_cases bad : BadStatus code
        · rw [endWithBody_of_bad _ _ bad]
          exact answer_settle_shape hp settles shape h.writer (.panicked (Http.invalidCode code))
            (by simp [bad]) (fun good => absurd bad good)
        · obtain ⟨v, d, hv⟩ := endWithBody_of_good h.writer m.payload.toList bad
          rw [hv]
          exact answer_settle_shape hp settles shape v (.leaving d) (by simp [bad])
            (fun _ => ⟨_, rfl⟩)
      · rw [answerTurn_other _ _ hc hd hk]
        exact answer_skip_shape hp hc (calm_of_other hd hk) shape

theorem streamReply_shape (hp : h.phase = .streaming) (shape : h.Shape k) (m : Message)
    (rest : List Message) :
    ({ h with queue := rest, taken := h.taken ++ [m] }.streamReply m).Shape k := by
  simp only [Shape, hp] at shape
  obtain ⟨kind, joined, fed⟩ := shape
  have notHttp : NodeKind.events ≠ .http := by decide
  unfold streamReply
  split_ifs
  · exact ⟨.events, kind, joined, fed, fun same => absurd same notHttp⟩
  · split
    · simp only [Shape, hp]
      exact ⟨kind, joined, fed⟩
    · exact ⟨.events, kind, joined, fed, fun same => absurd same notHttp⟩
  · simp only [Shape, hp]
    exact ⟨kind, joined, fed⟩

theorem takeReply_shape (shape : h.Shape k) : h.takeReply.Shape k := by
  unfold takeReply
  split
  · next m rest code _ hp => exact answerReply_shape hp shape m rest
  · next m rest _ hp => exact streamReply_shape hp shape m rest
  · exact shape

theorem turned_shape (shape : h.Shape k) (t : Turn) (d : Disconnect)
    (early : t = .clientGone ∨ t = .closing) : (h.turned t d).Shape k := by
  unfold turned
  split
  · rename_i code hp
    simp only [Shape, hp] at shape
    obtain ⟨kind, joined, fed, -, quiet, -⟩ := shape
    have ends : ∃ v d', answerTurn h.writer code t = .inl (.done v d') := by
      rcases early with rfl | rfl
      · exact ⟨_, _, rfl⟩
      · obtain ⟨v, hv⟩ := @answerTurn_closing h.writer code
        exact ⟨v, _, hv⟩
    obtain ⟨v, d', hv⟩ := ends
    rw [hv]
    exact ⟨.http, kind, joined, fed, fun _ => .inl quiet⟩
  · rename_i hp
    simp only [Shape, hp] at shape
    obtain ⟨kind, joined, fed⟩ := shape
    exact ⟨.events, kind, joined, fed, fun same => absurd same (by decide)⟩
  · exact shape

theorem endRead_shape (shape : h.Shape k) (e : ReadEnd) : (h.endRead e).Shape k := by
  unfold endRead
  split
  · rename_i hp
    simp only [Shape, hp] at shape
    obtain ⟨kind, hk, socket, joined, fed⟩ := shape
    refine ⟨kind, hk, joined, fed, fun http => ?_⟩
    subst http
    simp [NodeKind.socketLike] at socket
  · exact shape

theorem routeTo_shape (hp : h.phase = .arrived) (shape : h.Shape k) (n : Nat) (kind : NodeKind)
    (k' : Option NodeKind) (hk : (h.routeTo n kind).node = some n → k' = some kind) :
    (h.routeTo n kind).Shape k' := by
  simp only [Shape, hp] at shape
  obtain ⟨-, serial, group, fresh⟩ := shape
  unfold routeTo at hk ⊢
  split_ifs at hk ⊢
  · exact refuse_shape _ _ group fresh
  · exact refuse_shape _ _ group fresh
  · exact ⟨by simp [hk rfl], serial, group, fresh⟩

theorem check_shape (hp : h.phase = .routed) (shape : h.Shape k) (node : Node)
    (hk : k = some node.kind) : (h.check node).Shape k := by
  simp only [Shape, hp] at shape
  obtain ⟨-, serial, group, fresh⟩ := shape
  unfold check
  split
  · exact refuse_shape _ _ group fresh
  · split_ifs with socket
    · exact ⟨by simp [hk, socket], serial, group, fresh⟩
    · exact ⟨by simp [hk], serial, group, fresh⟩

theorem eventHead_ok (w : Http.Writer) : ∃ v, eventHead w = .ok v :=
  Http.Writer.writeHeader_of_good _ (by decide)

theorem greeted_shape (hp : h.phase = .greeting) (shape : h.Shape k) (node : Node)
    (hk : k = some node.kind) (positive : 0 < node.settings.chunk) : (h.greeted node).Shape k := by
  simp only [Shape, hp] at shape
  obtain ⟨-, joined, sent, frames, taken, -⟩ := shape
  unfold greeted
  split
  · rename_i http
    refine ⟨by rw [hk, http], joined, frames, taken, by omega, ?_, by simp [Pieces, sent],
      by simp [sent]⟩
    simp [bytesSent, sent]
  · rename_i events
    obtain ⟨v, hv⟩ := eventHead_ok h.writer
    rw [hv]
    exact ⟨by rw [hk, events], joined, sent⟩
  · rename_i socket
    exact ⟨.socket, by rw [hk, socket], rfl, joined, by simp [Fed, sent, frames]⟩
  · rename_i publish
    exact ⟨.publish, by rw [hk, publish], rfl, joined, sent⟩

/-- A handler that keeps its node, number and group, and is live only if it was. -/
structure Keeps (h h' : Handler) : Prop where
  node : h'.node = h.node
  serial : h'.serial = h.serial
  group : h'.group = h.group
  live : h'.phase.live → h.phase.live

theorem Keeps.refl (h : Handler) : h.Keeps h := ⟨rfl, rfl, rfl, id⟩

theorem refuse_keeps (why : Refusal) (unwritten : h.writer.final = none) :
    h.Keeps (h.refuse why) := by
  obtain ⟨w, eq, -⟩ := refuse_eq h why unwritten
  rw [eq]
  exact ⟨rfl, rfl, rfl, by simp [Phase.live]⟩

theorem takeReply_keeps (h : Handler) : h.Keeps h.takeReply := by
  unfold takeReply
  split
  · rename_i m rest code hq hp
    have live : h.phase.live := by simp [hp, Phase.live]
    unfold settle
    split <;> exact ⟨rfl, rfl, rfl, fun _ => live⟩
  · rename_i m rest hq hp
    have live : h.phase.live := by simp [hp, Phase.live]
    unfold streamReply
    split_ifs
    · exact ⟨rfl, rfl, rfl, fun _ => live⟩
    · split <;> exact ⟨rfl, rfl, rfl, fun _ => live⟩
    · exact ⟨rfl, rfl, rfl, fun _ => live⟩
  · exact Keeps.refl h

theorem turned_keeps (h : Handler) (t : Turn) (d : Disconnect) : h.Keeps (h.turned t d) := by
  unfold turned
  split
  · rename_i code hp
    have live : h.phase.live := by simp [hp, Phase.live]
    unfold settle
    split <;> exact ⟨rfl, rfl, rfl, fun _ => live⟩
  · rename_i hp
    exact ⟨rfl, rfl, rfl, fun _ => by simp [hp, Phase.live]⟩
  · exact Keeps.refl h

theorem endRead_keeps (h : Handler) (e : ReadEnd) : h.Keeps (h.endRead e) := by
  unfold endRead
  split
  · rename_i hp
    exact ⟨rfl, rfl, rfl, fun _ => by simp [hp, Phase.live]⟩
  · exact Keeps.refl h

theorem check_keeps (unwritten : h.writer.final = none) (node : Node) :
    h.Keeps (h.check node) := by
  unfold check
  split
  · exact refuse_keeps _ unwritten
  · exact ⟨rfl, rfl, rfl, fun live => by split_ifs at live <;> simp [Phase.live] at live⟩

theorem greeted_keeps (hp : h.phase = .greeting) (node : Node) : h.Keeps (h.greeted node) := by
  have live : h.phase.live := by simp [hp, Phase.live]
  unfold greeted
  split <;> (try split) <;> exact ⟨rfl, rfl, rfl, fun _ => live⟩

theorem routeTo_serial (unwritten : h.writer.final = none) (n : Nat) (kind : NodeKind) :
    (h.routeTo n kind).serial = h.serial := by
  unfold routeTo
  split_ifs <;> first | exact refuse_serial h _ unwritten | rfl

theorem routeTo_idle (unwritten : h.writer.final = none) (n : Nat) (kind : NodeKind) :
    (h.routeTo n kind).phase.live = false := by
  unfold routeTo
  split_ifs <;> simp [refuse_phase h _ unwritten, Phase.live]

theorem feed_empty_shape {chunk : Nat} (hp : h.phase = .feeding chunk [] false) (shape : h.Shape k)
    (clean : h.request.fault = none) :
    ({ h with phase := .answering 200, sent := h.sent ++ [ByteArray.empty] } : Handler).Shape k := by
  simp only [Shape, hp] at shape
  obtain ⟨kind, joined, -, taken, -, bytes, -, unsent⟩ := shape
  -- nothing went out: the body was empty and the one piece is the empty Data
  have none : h.sent = [] := by simpa using unsent
  refine ⟨kind, joined, ⟨?_, fun _ => by simp, .inl (by simp [none])⟩, clean, by simp [taken, Quiet],
    by simp [taken]⟩
  simpa [bytesSent, none] using bytes

theorem leave_shape {d : Disconnect} (hp : h.phase = .leaving d) (shape : h.Shape k) :
    ({ h with phase := .ending d } : Handler).Shape k := by
  simp only [Shape, hp] at shape
  exact shape

theorem hangUp_shape {d : Disconnect} (hp : h.phase = .ending d) (shape : h.Shape k) :
    ({ h with phase := .finished d, stopping := true } : Handler).Shape k := by
  simp only [Shape, hp] at shape
  exact shape

theorem frame_noted_shape (hp : h.phase = .reading) (shape : h.Shape k) (hk : k = some .publish)
    (data : ByteArray) : ({ h with frames := h.frames ++ [data] } : Handler).Shape k := by
  simp only [Shape, hp] at shape ⊢
  obtain ⟨kind, hk', socket, joined, fed⟩ := shape
  obtain rfl : kind = .publish := Option.some.inj (hk'.symm.trans hk)
  exact ⟨.publish, hk, socket, joined, fed⟩

theorem frame_sent_shape (hp : h.phase = .reading) (shape : h.Shape k) {kind : NodeKind}
    (hk : k = some kind) (other : kind ≠ .publish) (data : ByteArray) :
    ({ h with frames := h.frames ++ [data], sent := h.sent ++ [data] } : Handler).Shape k := by
  simp only [Shape, hp] at shape ⊢
  obtain ⟨kind', hk', socket, joined, fed⟩ := shape
  obtain rfl : kind' = kind := Option.some.inj (hk'.symm.trans hk)
  cases kind' with
  | socket =>
    refine ⟨.socket, hk', socket, joined, ?_⟩
    show h.sent ++ [data] = h.frames ++ [data]
    rw [show h.sent = h.frames from fed]
  | publish => exact absurd rfl other
  | http | events => simp [NodeKind.socketLike] at socket

theorem Shape.joined (shape : h.Shape k) (began : h.phase.listed ∨ h.phase.greeted) : h.Joined := by
  cases hp : h.phase <;> simp only [Shape, hp] at shape <;>
    simp [hp, Phase.listed, Phase.greeted] at began
  all_goals first
    | exact shape.2.1
    | (obtain ⟨_, _, _, joined, _⟩ := shape; exact joined)
    | (obtain ⟨_, _, joined, _⟩ := shape; exact joined)

theorem returned_of_live (live : h.phase.live) : h.returned = false := by
  unfold returned
  split <;> rename_i hp <;> simp_all [Phase.live]

end Steps

end Handler

/-! ### What each operation of a listening channel changes -/

namespace Server

variable (s : Server)

/-- The kinds of the nodes, in order. -/
def kinds : List NodeKind := s.nodes.map (·.kind)

/-- The kind of the node a handler was routed to. -/
def kindOf (h : Handler) : Option NodeKind := h.node.bind (s.kinds[·]?)

section Fields

variable (i n : Nat) (h : Handler) (m : Message) (f : Node → Node)

@[simp] theorem setHandler_nodes : (s.setHandler i h).nodes = s.nodes := rfl
@[simp] theorem setHandler_log : (s.setHandler i h).log = s.log := rfl
@[simp] theorem setHandler_allocated : (s.setHandler i h).allocated = s.allocated := rfl
@[simp] theorem setHandler_handlers : (s.setHandler i h).handlers = s.handlers.set i h := rfl
@[simp] theorem modifyNode_handlers : (s.modifyNode n f).handlers = s.handlers := rfl
@[simp] theorem modifyNode_log : (s.modifyNode n f).log = s.log := rfl
@[simp] theorem modifyNode_allocated : (s.modifyNode n f).allocated = s.allocated := rfl
@[simp] theorem modifyNode_nodes : (s.modifyNode n f).nodes = s.nodes.modify n f := rfl

@[simp] theorem deliver_handlers : (s.deliver n i m).handlers = s.handlers := by
  unfold deliver; split <;> (try split) <;> rfl

@[simp] theorem deliver_nodes : (s.deliver n i m).nodes = s.nodes := by
  unfold deliver; split <;> (try split) <;> rfl

@[simp] theorem deliver_allocated : (s.deliver n i m).allocated = s.allocated := by
  unfold deliver; split <;> (try split) <;> rfl

@[simp] theorem kinds_setHandler : (s.setHandler i h).kinds = s.kinds := rfl

@[simp] theorem kinds_deliver : (s.deliver n i m).kinds = s.kinds := by
  simp [kinds]

theorem kinds_modifyNode (same : ∀ node, (f node).kind = node.kind) :
    (s.modifyNode n f).kinds = s.kinds := by
  apply List.ext_getElem?
  intro j
  simp only [kinds, modifyNode_nodes, List.getElem?_map, List.getElem?_modify]
  cases s.nodes[j]? with
  | none => rfl
  | some node => by_cases here : n = j <;> simp [here, same]

theorem deliver_log_of_open {n i : Nat} {m : Message} {node : Node} (hn : s.nodes[n]? = some node)
    (up : node.cycle.state ≠ .closed) :
    (s.deliver n i m).log = s.log ++ [⟨n, i, m, node.table.any (·.1 == m.addr)⟩] := by
  simp [deliver, hn, up]

@[simp] theorem kindOf_deliver (x : Handler) : (s.deliver n i m).kindOf x = s.kindOf x := by
  simp [kindOf]

theorem kindOf_of_node {x y : Handler} (same : y.node = x.node) : s.kindOf y = s.kindOf x := by
  simp [kindOf, same]

theorem kindOf_at {x : Handler} {node : Node} (hn : x.node = some n) (at_n : s.nodes[n]? = some node) :
    s.kindOf x = some node.kind := by
  simp [kindOf, kinds, hn, at_n]

theorem kindOf_modifyNode (same : ∀ node, (f node).kind = node.kind) (x : Handler) :
    (s.modifyNode n f).kindOf x = s.kindOf x := by
  simp [kindOf, kinds_modifyNode s n f same]

theorem modifyNode_at {node : Node} (at_n : s.nodes[n]? = some node) :
    (s.modifyNode n f).nodes[n]? = some (f node) := by
  simp [at_n]

end Fields

theorem getElem?_set_cases {α : Type} {l : List α} {i j : Nat} {x y : α}
    (hy : (l.set i x)[j]? = some y) :
    (j = i ∧ y = x) ∨ (j ≠ i ∧ l[j]? = some y) := by
  rw [List.getElem?_set] at hy
  split_ifs at hy with same bound
  · exact .inl ⟨same.symm, (Option.some.inj hy).symm⟩
  · exact .inr ⟨Ne.symm same, hy⟩

/-! ### Every run keeps the shape -/

/-- What holds of a listening channel at every moment. -/
structure Shaped (s : Server) : Prop where
  nodes : ∀ (n : Nat) (node : Node), s.nodes[n]? = some node → node.Sound
  numbered : ∀ h ∈ s.handlers, ∀ k, h.serial = some k → 0 < k ∧ k ≤ s.allocated
  apart : ∀ (i j : Nat) (hi hj : Handler) (k : Nat), s.handlers[i]? = some hi →
    s.handlers[j]? = some hj → hi.serial = some k → hj.serial = some k → i = j
  shape : ∀ h ∈ s.handlers, h.Shape (s.kindOf h)
  live : ∀ h ∈ s.handlers, h.phase.live → ∀ (n : Nat) (node : Node), h.node = some n →
    s.nodes[n]? = some node → node.cycle.state ≠ .closed

variable {s : Server}

theorem shaped_start (logger : Logger) (nodes : List (NodeKind × String)) :
    (start logger nodes).Shaped where
  nodes := by
    intro n node hn
    simp only [start, List.getElem?_map, Option.map_eq_some_iff] at hn
    obtain ⟨-, -, rfl⟩ := hn
    -- a node starts with the default settings and no group
    exact ⟨show (0 : Int) < 64 * 1024 by decide, by simp⟩
  numbered := by simp [start]
  apart := by simp [start]
  shape := by simp [start]
  live := by simp [start]

theorem Shaped.congr {s' : Server} (hs : s.Shaped) (nodes : s'.nodes = s.nodes)
    (handlers : s'.handlers = s.handlers) (allocated : s'.allocated = s.allocated) : s'.Shaped := by
  have kinds : s'.kindOf = s.kindOf := by
    funext x
    simp [kindOf, Server.kinds, nodes]
  refine ⟨?_, ?_, ?_, ?_, ?_⟩ <;> simp only [nodes, handlers, allocated, kinds]
  exacts [hs.nodes, hs.numbered, hs.apart, hs.shape, hs.live]

theorem Shaped.deliver (hs : s.Shaped) (n i : Nat) (m : Message) : (s.deliver n i m).Shaped :=
  hs.congr (by simp) (by simp) (by simp)

theorem Shaped.update (hs : s.Shaped) {i : Nat} {h h' : Handler} (at_i : s.handlers[i]? = some h)
    (serial : h'.serial = h.serial) (shape : h'.Shape (s.kindOf h'))
    (live : h'.phase.live → ∀ n node, h'.node = some n → s.nodes[n]? = some node →
      node.cycle.state ≠ .closed) :
    (s.setHandler i h').Shaped where
  nodes := hs.nodes
  numbered := by
    intro x mem k hk
    rcases List.mem_or_eq_of_mem_set mem with old | rfl
    · exact hs.numbered x old k hk
    · exact hs.numbered h (List.mem_of_getElem? at_i) k (serial ▸ hk)
  apart := by
    intro a b ha hb k at_a at_b ka kb
    rcases getElem?_set_cases at_a with ⟨rfl, rfl⟩ | ⟨-, old_a⟩ <;>
      rcases getElem?_set_cases at_b with ⟨rfl, rfl⟩ | ⟨-, old_b⟩
    · rfl
    · exact hs.apart _ _ _ _ k at_i old_b (serial ▸ ka) kb
    · exact hs.apart _ _ _ _ k old_a at_i ka (serial ▸ kb)
    · exact hs.apart _ _ _ _ k old_a old_b ka kb
  shape := by
    intro x mem
    rcases List.mem_or_eq_of_mem_set mem with old | rfl
    · exact hs.shape x old
    · exact shape
  live := by
    intro x mem
    rcases List.mem_or_eq_of_mem_set mem with old | rfl
    · exact hs.live x old
    · exact live

theorem Shaped.keep (hs : s.Shaped) {i : Nat} {h h' : Handler} (at_i : s.handlers[i]? = some h)
    (shape : h'.Shape (s.kindOf h)) (keeps : h.Keeps h') : (s.setHandler i h').Shaped := by
  refine hs.update at_i keeps.serial (by rwa [kindOf_of_node s keeps.node]) ?_
  intro live n node hn hnode
  exact hs.live h (List.mem_of_getElem? at_i) (keeps.live live) n node (keeps.node ▸ hn) hnode

theorem Shaped.shape_at (hs : s.Shaped) {i : Nat} {h : Handler} (at_i : s.handlers[i]? = some h) :
    h.Shape (s.kindOf h) :=
  hs.shape h (List.mem_of_getElem? at_i)

theorem modify_eq_set_of {α : Type} {l : List α} {n : Nat} {x : α} (f : α → α)
    (hx : l[n]? = some x) :
    l.modify n f = l.set n (f x) := by
  apply List.ext_getElem?
  intro j
  obtain ⟨bound, rfl⟩ := List.getElem?_eq_some_iff.mp hx
  rw [List.getElem?_modify, List.getElem?_set]
  by_cases here : n = j
  · subst here
    simp [bound]
  · simp [here]

theorem Shaped.setNode {s' : Server} (hs : s.Shaped) {n : Nat} {node node' : Node}
    (nodes : s'.nodes = s.nodes.set n node') (handlers : s'.handlers = s.handlers)
    (allocated : s'.allocated = s.allocated) (at_n : s.nodes[n]? = some node)
    (kind : node'.kind = node.kind) (sound : node'.Sound)
    (idle : node'.cycle.state = .closed → ∀ h ∈ s.handlers, h.phase.live → h.node ≠ some n) :
    s'.Shaped := by
  have kinds : s'.kindOf = s.kindOf := by
    have same : s'.kinds = s.kinds := by
      apply List.ext_getElem?
      intro j
      simp only [Server.kinds, nodes, List.getElem?_map, List.getElem?_set]
      by_cases here : n = j
      · subst here
        rw [at_n]
        simp [(List.getElem?_eq_some_iff.mp at_n).1, kind]
      · simp [here]
    funext x
    simp [kindOf, same]
  refine ⟨?_, ?_, ?_, ?_, ?_⟩ <;> simp only [nodes, handlers, allocated, kinds]
  · intro j x hx
    rcases getElem?_set_cases hx with ⟨-, rfl⟩ | ⟨-, old⟩
    · exact sound
    · exact hs.nodes j x old
  · exact hs.numbered
  · exact hs.apart
  · exact hs.shape
  · intro x mem live j y hx hy
    rcases getElem?_set_cases hy with ⟨rfl, rfl⟩ | ⟨-, old⟩
    · exact fun closed => idle closed x mem live hx
    · exact hs.live x mem live j y hx old

theorem Shaped.modifyNode (hs : s.Shaped) {n : Nat} {node : Node} (at_n : s.nodes[n]? = some node)
    (f : Node → Node) (kind : (f node).kind = node.kind) (cycle : (f node).cycle = node.cycle)
    (sound : (f node).Sound) : (s.modifyNode n f).Shaped := by
  refine hs.setNode (modify_eq_set_of f at_n) rfl rfl at_n kind sound ?_
  intro closed x mem live hx
  exact hs.live x mem live n node hx at_n (cycle ▸ closed)

/-! ### One step keeps the shape -/

section Actions

variable {i : Nat} {h : Handler}

theorem onNode_cases {P : Server → Prop} (here : P s) {f : Nat → Node → Server}
    (hf : ∀ n node, h.node = some n → s.nodes[n]? = some node → P (f n node)) :
    P (s.onNode h f) := by
  unfold Server.onNode
  split
  · next n hn =>
    split
    · next node at_n => exact hf n node hn at_n
    · exact here
  · exact here

theorem onHandler_cases {P : Server → Prop} (here : P s) {f : Handler → Server}
    (hf : ∀ h, s.handlers[i]? = some h → P (f h)) : P (s.onHandler i f) := by
  unfold Server.onHandler
  split
  · next h at_i => exact hf h at_i
  · exact here

theorem Shaped.turnAway (hs : s.Shaped) (at_i : s.handlers[i]? = some h) (why : Refusal)
    (group : h.group = none) (fresh : h.Fresh) : (s.turnAway i h why).Shaped :=
  hs.keep at_i (Handler.refuse_shape why _ group fresh) (Handler.refuse_keeps why fresh.2.2.2)

theorem Shaped.route (hs : s.Shaped) (at_i : s.handlers[i]? = some h) (hp : h.phase = .arrived) :
    (s.route i h).Shaped := by
  have shape := hs.shape_at at_i
  have facts := shape
  simp only [Handler.Shape, hp] at facts
  obtain ⟨-, -, group, fresh⟩ := facts
  unfold Server.route
  split
  · exact hs.turnAway at_i _ group fresh
  · next m _ =>
    split
    · next node at_n =>
      refine hs.update at_i (Handler.routeTo_serial fresh.2.2.2 m.handler node.kind) ?_ ?_
      · exact Handler.routeTo_shape hp shape _ _ _ fun hn => kindOf_at s _ hn at_n
      · intro live
        rw [Handler.routeTo_idle fresh.2.2.2] at live
        cases live
    · exact hs

theorem Shaped.allocate (hs : s.Shaped) (at_i : s.handlers[i]? = some h)
    (hp : h.phase = .allocating) : (s.allocate i h).Shaped := by
  have facts := hs.shape_at at_i
  simp only [Handler.Shape, hp] at facts
  obtain ⟨kind, serial, group, fresh⟩ := facts
  have unheld : ∀ (j : Nat) (x : Handler), s.handlers[j]? = some x →
      x.serial ≠ some (s.allocated + 1) := by
    intro j x hx held
    have := hs.numbered x (List.mem_of_getElem? hx) _ held
    omega
  refine ⟨hs.nodes, ?_, ?_, ?_, ?_⟩
  · intro x mem k hk
    rcases List.mem_or_eq_of_mem_set mem with old | rfl
    · have := hs.numbered x old k hk
      exact ⟨this.1, Nat.le_succ_of_le this.2⟩
    · cases hk
      exact ⟨by omega, le_rfl⟩
  · intro a b ha hb k at_a at_b ka kb
    rcases getElem?_set_cases at_a with ⟨rfl, rfl⟩ | ⟨-, old_a⟩ <;>
      rcases getElem?_set_cases at_b with ⟨rfl, rfl⟩ | ⟨-, old_b⟩
    · rfl
    · cases ka
      exact absurd kb (unheld b hb old_b)
    · cases kb
      exact absurd ka (unheld a ha old_a)
    · exact hs.apart _ _ _ _ k old_a old_b ka kb
  · intro x mem
    rcases List.mem_or_eq_of_mem_set mem with old | rfl
    · exact hs.shape x old
    · exact ⟨kind, rfl, group, fresh⟩
  · intro x mem
    rcases List.mem_or_eq_of_mem_set mem with old | rfl
    · exact hs.live x old
    · simp [Phase.live]

theorem Shaped.join (hs : s.Shaped) (at_i : s.handlers[i]? = some h) (hp : h.phase = .joining)
    {n : Nat} {node : Node} (hn : h.node = some n) (at_n : s.nodes[n]? = some node) :
    (s.join i h n node).Shaped := by
  have facts := hs.shape_at at_i
  simp only [Handler.Shape, hp] at facts
  obtain ⟨kind, serial, group, fresh⟩ := facts
  unfold Server.join
  split
  · exact hs.turnAway at_i _ group fresh
  · next g grouped =>
    have sound := hs.nodes n node at_n
    have hs' := hs.modifyNode at_n (·.enter h.addr i) rfl rfl (sound.enter _ _)
    refine hs'.update at_i rfl ?_ ?_
    · rw [kindOf_modifyNode s n (·.enter h.addr i) (fun _ => rfl)]
      exact ⟨kind, ⟨serial, by simp⟩, fresh⟩
    · intro _ n' node' hn' at_n'
      rw [show n' = n from Option.some.inj (hn'.symm.trans hn), modifyNode_at s n _ at_n] at at_n'
      rw [← Option.some.inj at_n']
      exact (sound.grouped (by simp [grouped])).1

theorem Shaped.greet (hs : s.Shaped) (at_i : s.handlers[i]? = some h) (hp : h.phase = .greeting)
    {n : Nat} {node : Node} (hn : h.node = some n) (at_n : s.nodes[n]? = some node) :
    (s.greet i h n node).Shaped := by
  have shape := Handler.greeted_shape hp (hs.shape_at at_i) node (kindOf_at s n hn at_n)
    (hs.nodes n node at_n).chunk
  exact (hs.deliver n i _).keep (by simpa using at_i) (by simpa using shape)
    (Handler.greeted_keeps hp node)

theorem Shaped.send (hs : s.Shaped) (at_i : s.handlers[i]? = some h) {h' : Handler}
    (shape : h'.Shape (s.kindOf h)) (keeps : h.Keeps h') (n : Nat) (m : Message) :
    ((s.deliver n i m).setHandler i h').Shaped :=
  (hs.deliver n i m).keep (by simpa using at_i) (by simpa using shape) keeps

theorem Shaped.feed (hs : s.Shaped) (at_i : s.handlers[i]? = some h) {chunk : Nat}
    {rest : List UInt8} {sent : Bool} (hp : h.phase = .feeding chunk rest sent) (n : Nat) :
    (s.feed i h n chunk rest sent).Shaped := by
  have shape := hs.shape_at at_i
  have live : h.phase.live := by simp [hp, Phase.live]
  unfold Server.feed
  split
  · next =>
    split
    · next e faulty =>
      exact hs.keep at_i (Handler.feed_fault_shape hp shape _ (by simp [faulty]))
        ⟨rfl, rfl, rfl, fun _ => live⟩
    · next clean =>
      split_ifs with done
      · subst done
        exact hs.keep at_i (Handler.feed_done_shape hp shape clean (Handler.feed_fed hp shape))
          ⟨rfl, rfl, rfl, fun _ => live⟩
      · simp only [Bool.not_eq_true] at done
        subst done
        exact hs.send at_i (Handler.feed_empty_shape hp shape clean)
          ⟨rfl, rfl, rfl, fun _ => live⟩ n _
  · next b bs =>
    exact hs.send at_i (Handler.feed_piece_shape hp shape) ⟨rfl, rfl, rfl, fun _ => live⟩ n _

theorem Shaped.leave (hs : s.Shaped) (at_i : s.handlers[i]? = some h) {d : Disconnect}
    (hp : h.phase = .leaving d) {n : Nat} {node : Node} (at_n : s.nodes[n]? = some node) :
    (s.leave i h n d).Shaped := by
  have hs' := hs.modifyNode at_n (·.drop h.addr) rfl rfl ((hs.nodes n node at_n).drop _)
  refine hs'.keep at_i ?_ ⟨rfl, rfl, rfl, fun _ => by simp [hp, Phase.live]⟩
  rw [kindOf_modifyNode s n (·.drop h.addr) (fun _ => rfl)]
  exact Handler.leave_shape hp (hs.shape_at at_i)

theorem Shaped.hangUp (hs : s.Shaped) (at_i : s.handlers[i]? = some h) {d : Disconnect}
    (hp : h.phase = .ending d) (n : Nat) : (s.hangUp i h n d).Shaped :=
  hs.send at_i (Handler.hangUp_shape hp (hs.shape_at at_i))
    ⟨rfl, rfl, rfl, fun _ => by simp [hp, Phase.live]⟩ n _

theorem Shaped.advance (hs : s.Shaped) (at_i : s.handlers[i]? = some h) :
    (s.advance i h).Shaped := by
  unfold Server.advance
  split
  · next hp => exact hs.route at_i hp
  · next hp =>
    refine onNode_cases hs fun n node hn at_n => ?_
    have shape := hs.shape_at at_i
    have fresh : h.Fresh := by
      simp only [Handler.Shape, hp] at shape
      exact shape.2.2.2
    exact hs.keep at_i (Handler.check_shape hp shape node (kindOf_at s n hn at_n))
      (Handler.check_keeps fresh.2.2.2 node)
  · next hp => exact hs.allocate at_i hp
  · next hp => exact onNode_cases hs fun n node hn at_n => hs.join at_i hp hn at_n
  · next hp => exact onNode_cases hs fun n node hn at_n => hs.greet at_i hp hn at_n
  · next chunk rest sent hp => exact onNode_cases hs fun n _ _ _ => hs.feed at_i hp n
  · next d hp => exact onNode_cases hs fun n _ _ at_n => hs.leave at_i hp at_n
  · next d hp => exact onNode_cases hs fun n _ _ _ => hs.hangUp at_i hp n
  · exact hs

theorem Shaped.readFrame (hs : s.Shaped) (at_i : s.handlers[i]? = some h) (data : ByteArray) :
    (s.readFrame i h data).Shaped := by
  unfold Server.readFrame
  split
  · next hp =>
    have live : h.phase.live := by simp [hp, Phase.live]
    refine onNode_cases hs fun n node hn at_n => ?_
    have hk := kindOf_at s n hn at_n
    split_ifs with publish
    · exact hs.keep at_i (Handler.frame_noted_shape hp (hs.shape_at at_i) (publish ▸ hk) data)
        ⟨rfl, rfl, rfl, fun _ => live⟩
    · exact hs.send at_i (Handler.frame_sent_shape hp (hs.shape_at at_i) hk publish data)
        ⟨rfl, rfl, rfl, fun _ => live⟩ n _
  · exact hs

theorem Shaped.stopSession (hs : s.Shaped) (at_i : s.handlers[i]? = some h) :
    (s.stopSession i h).Shaped := by
  refine onNode_cases hs fun _ _ _ _ => ?_
  split_ifs
  · exact hs.keep at_i (show h.Shape (s.kindOf h) from hs.shape_at at_i)
      (⟨rfl, rfl, rfl, id⟩ : h.Keeps { h with stopping := true })
  · exact hs

theorem Shaped.post (hs : s.Shaped) (n : Nat) (m : Message) : (s.post n m).Shaped := by
  unfold Server.post
  split
  · split_ifs
    · split
      · next j _ =>
        split
        · next x at_j =>
          split_ifs
          · exact hs.keep at_j (show x.Shape (s.kindOf x) from hs.shape_at at_j)
              (⟨rfl, rfl, rfl, id⟩ : x.Keeps { x with queue := x.queue ++ [m] })
          · exact hs
        · exact hs
      · exact hs
    · exact hs
  · exact hs

theorem Shaped.openNode (hs : s.Shaped) (n : Nat) (o : Options) : (s.openNode n o).Shaped := by
  unfold Server.openNode
  split
  · next node at_n =>
    have sound := hs.nodes n node at_n
    split_ifs with closed
    · -- a closed node has no group
      have ungrouped : node.group = none := by
        cases hg : node.group with
        | none => rfl
        | some g => exact absurd closed (sound.grouped (by simp [hg])).1
      have refused : ∀ c : Cycle, c.beginOpen.1.fail.1.state ≠ .closed := by
        intro c
        simp
      split
      · exact hs.setNode rfl rfl rfl at_n rfl ⟨sound.chunk, by simp [ungrouped]⟩
          fun c => absurd c (refused _)
      · next settings ok =>
        have fresh : ∀ c : Cycle, c.state = .active ∨ c.state = .error →
            ({ node with settings, required := (o.sub "require").entries,
                         group := some node.groups, groups := node.groups + 1,
                         cycle := c } : Node).Sound := by
          intro c hc
          refine ⟨NodeKind.settings_chunk ok, fun _ => ?_⟩
          rcases hc with hc | hc <;> simp [hc]
        dsimp only
        split
        · exact hs.setNode rfl rfl rfl at_n rfl (fresh _ (.inr (Cycle.refused_state _)))
            fun c => absurd c (refused _)
        · exact hs.setNode rfl rfl rfl at_n rfl (fresh _ (.inl (Cycle.opened_state _)))
            fun c => by
              dsimp only at c
              rw [Cycle.opened_state] at c
              cases c
    · exact hs
  · exact hs

theorem Shaped.closeNode (hs : s.Shaped) (n : Nat) : (s.closeNode n).Shaped := by
  unfold Server.closeNode
  split
  · next node at_n =>
    split_ifs
    · exact hs
    · exact hs.setNode rfl rfl rfl at_n rfl ⟨(hs.nodes n node at_n).chunk, by simp⟩
        fun c => by simp at c
  · exact hs

theorem Shaped.finishClose (hs : s.Shaped) (n : Nat) : (s.finishClose n).Shaped := by
  unfold Server.finishClose
  split
  · next node at_n =>
    have sound := hs.nodes n node at_n
    split_ifs with ready
    · simp only [Bool.and_eq_true, decide_eq_true_eq, List.all_eq_true] at ready
      obtain ⟨closing, returned⟩ := ready
      have ungrouped : node.group = none := by
        cases hg : node.group with
        | none => rfl
        | some g => exact absurd closing (sound.grouped (by simp [hg])).2
      refine hs.setNode rfl rfl rfl at_n rfl ⟨sound.chunk, by simp [ungrouped]⟩ ?_
      intro _ x mem live hx
      have joined := (hs.shape x mem).joined (Phase.began_of_live live)
      have back := returned x mem
      simp only [hx, bne_self_eq_false, Bool.false_or, Bool.or_eq_true, Option.isNone_iff_eq_none,
        Handler.returned_of_live live] at back
      rcases back with ungrouped' | never
      · simp [Handler.Joined, ungrouped'] at joined
      · exact Bool.false_ne_true never
    · exact hs
  · exact hs

theorem getElem?_concat_cases {α : Type} {l : List α} {j : Nat} {x y : α}
    (hy : (l ++ [x])[j]? = some y) : l[j]? = some y ∨ j = l.length ∧ y = x := by
  rw [List.getElem?_append] at hy
  split_ifs at hy with short
  · exact .inl hy
  · right
    rw [List.getElem?_singleton] at hy
    split_ifs at hy with last
    exact ⟨by omega, (Option.some.inj hy).symm⟩

theorem getElem?_concat_of {α : Type} {l : List α} {j : Nat} {x : α} (hx : l[j]? = some x)
    (y : α) : (l ++ [y])[j]? = some x := by
  rw [List.getElem?_append_left (List.getElem?_eq_some_iff.mp hx).1, hx]

theorem Shaped.arrive (hs : s.Shaped) (r : Inbound) : (s.step (.arrive r)).Shaped := by
  have unnumbered :
      ∀ k, ({ request := r, writer := { isHead := r.method == "HEAD" } } : Handler).serial ≠ some k := by
    simp
  refine ⟨hs.nodes, ?_, ?_, ?_, ?_⟩
  · intro x mem k hk
    rcases List.mem_append.mp mem with old | fresh
    · exact hs.numbered x old k hk
    · rw [List.mem_singleton.mp fresh] at hk
      exact absurd hk (unnumbered k)
  · intro a b ha hb k at_a at_b ka kb
    rcases getElem?_concat_cases at_a with old_a | ⟨-, rfl⟩
    · rcases getElem?_concat_cases at_b with old_b | ⟨-, rfl⟩
      · exact hs.apart _ _ _ _ k old_a old_b ka kb
      · exact absurd kb (unnumbered k)
    · exact absurd ka (unnumbered k)
  · intro x mem
    rcases List.mem_append.mp mem with old | fresh
    · exact hs.shape x old
    · rw [List.mem_singleton.mp fresh]
      exact ⟨rfl, rfl, rfl, rfl, rfl, rfl, rfl⟩
  · intro x mem
    rcases List.mem_append.mp mem with old | fresh
    · exact hs.live x old
    · rw [List.mem_singleton.mp fresh]
      simp [Phase.live]

end Actions

theorem Shaped.step (hs : s.Shaped) (e : ServerEvent) : (s.step e).Shaped := by
  cases e with
  | arrive r => exact hs.arrive r
  | step i => exact onHandler_cases hs fun h at_i => hs.advance at_i
  | upgrade i ok =>
    refine onHandler_cases hs fun h at_i => ?_
    split
    · next hp =>
      have facts := hs.shape_at at_i
      simp only [Handler.Shape, hp] at facts
      obtain ⟨socket, serial, group, fresh⟩ := facts
      split_ifs
      · exact hs.keep at_i ⟨Option.isSome_of_any socket, serial, group, fresh⟩
          ⟨rfl, rfl, rfl, by simp [Phase.live]⟩
      · exact hs.turnAway at_i _ group fresh
    · exact hs
  | take i =>
    exact onHandler_cases hs fun h at_i =>
      hs.keep at_i (Handler.takeReply_shape (hs.shape_at at_i)) (Handler.takeReply_keeps h)
  | gone i =>
    exact onHandler_cases hs fun h at_i =>
      hs.keep at_i (Handler.turned_shape (hs.shape_at at_i) _ _ (.inl rfl)) (Handler.turned_keeps h _ _)
  | notice i =>
    refine onHandler_cases hs fun h at_i => ?_
    split_ifs
    · exact hs.keep at_i (Handler.turned_shape (hs.shape_at at_i) _ _ (.inr rfl))
        (Handler.turned_keeps h _ _)
    · exact hs
  | frame i data => exact onHandler_cases hs fun h at_i => hs.readFrame at_i data
  | hangUp i e =>
    exact onHandler_cases hs fun h at_i =>
      hs.keep at_i (Handler.endRead_shape (hs.shape_at at_i) e) (Handler.endRead_keeps h e)
  | stop i => exact onHandler_cases hs fun h at_i => hs.stopSession at_i
  | post n m => exact hs.post n m
  | «open» n o => exact hs.openNode n o
  | close n => exact hs.closeNode n
  | closed n => exact hs.finishClose n

theorem Shaped.run (hs : s.Shaped) (es : List ServerEvent) : (s.run es).Shaped := by
  induction es generalizing s with
  | nil => exact hs
  | cons e es ih => exact ih (hs.step e)

theorem shaped_run (logger : Logger) (nodes : List (NodeKind × String)) (es : List ServerEvent) :
    ((start logger nodes).run es).Shaped :=
  (shaped_start logger nodes).run es

end Server

end ChannelMux.Socket
