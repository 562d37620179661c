import ChannelMux.Socket.Serving
import ChannelMux.Proofs.IssuedRequest
import ChannelMux.Proofs.EventStreamReading
import Mathlib

/-! What the client of an HTTP node receives. -/

namespace ChannelMux.Http

/-- The body a single write of `p` leaves on a response with header `h`: none to a HEAD request
or past the declared length. -/
def keptBody (isHead : Bool) (h : HeaderMap) (p : List UInt8) : List UInt8 :=
  if isHead || (declaredLength h).any (· < p.length) then [] else p

/-- What a client receives from a handler that, with header `h`, writes status `c`, then the
bytes `p`, and returns. -/
def sent (isHead : Bool) (c : Int) (h : HeaderMap) (p : List UInt8) : Response :=
  if c < 100 ∨ 999 < c then {}
  else if isInformational c then ⟨[⟨c, withoutFraming h⟩], some (⟨200, h⟩, keptBody isHead h p)⟩
  else ⟨[], some (⟨c, h⟩, if bodyAllowed c then keptBody isHead h p else [])⟩

@[simp] theorem keptBody_nil (isHead : Bool) (h : HeaderMap) : keptBody isHead h [] = [] := by
  simp [keptBody]

namespace Writer

/-- Writes a status and then body bytes, and returns. -/
def statusThenBody (w : Writer) (c : Int) (p : List UInt8) : Response :=
  match w.writeHeader c with
  | .error _ => ⟨w.informational, none⟩
  | .ok w => (w.write p).1.finish.response

variable (w : Writer) (c : Int) (p : List UInt8)

theorem write_final : (w.write p).1.final = w.finish.final := by
  unfold write finish
  dsimp only
  split_ifs <;> rfl

theorem write_informational : (w.write p).1.informational = w.informational := by
  unfold write
  dsimp only
  split_ifs <;> simp_all [commit]

theorem finish_final_isSome : w.finish.final.isSome := by
  unfold finish commit
  split_ifs with unfinal
  · rfl
  · exact Option.isSome_iff_ne_none.mpr (by simpa using unfinal)

theorem finish_of_final_isSome (committed : w.final.isSome) : w.finish = w := by
  unfold finish
  rw [if_neg]
  rw [Option.isNone_iff_eq_none, ← ne_eq, ← Option.isSome_iff_ne_none]
  exact committed

@[simp] theorem finish_write : (w.write p).1.finish = (w.write p).1 := by
  apply finish_of_final_isSome
  rw [write_final]
  exact finish_final_isSome w

theorem write_nil : (w.write []).1 = w.finish := by
  simp [write, finish]

@[simp] theorem finish_finish : w.finish.finish = w.finish :=
  finish_of_final_isSome _ (finish_final_isSome w)

theorem write_of_final_none (unfinal : w.final = none) : w.write p = (w.commit 200).write p := by
  simp [write, commit, unfinal]

theorem commit_write_body (unwritten : w.written = 0) :
    ((w.commit c).write p).1.body =
      w.body ++ if bodyAllowed c then keptBody w.isHead w.header p else [] := by
  unfold write
  dsimp only
  split_ifs <;> simp_all [commit, keptBody, status]

theorem commit_write_response (unwritten : w.written = 0) :
    ((w.commit c).write p).1.response =
      ⟨w.informational, some (⟨c, w.header⟩,
        w.body ++ if bodyAllowed c then keptBody w.isHead w.header p else [])⟩ := by
  have committed : (w.commit c).finish = w.commit c := by simp [finish, commit]
  simp only [response, write_final, write_informational, commit_write_body _ _ _ unwritten,
    committed]
  rfl

end Writer

theorem statusThenBody_fresh (isHead : Bool) (h : HeaderMap) (c : Int) (p : List UInt8) :
    ({ isHead, header := h } : Writer).statusThenBody c p = sent isHead c h p := by
  unfold Writer.statusThenBody Writer.writeHeader sent
  by_cases invalid : c < 100 ∨ 999 < c
  · have refused : (decide (c < 100) || decide (999 < c)) = true := by simpa using invalid
    simp [refused, invalid]
  · have accepted : (decide (c < 100) || decide (999 < c)) = false := by simpa using invalid
    by_cases info : isInformational c
    · -- the informational head is sent, and the write then makes status 200 the final one
      have allowed : bodyAllowed 200 = true := by decide
      simp only [accepted, info, invalid, Bool.false_eq_true, if_true, if_false,
        Writer.finish_write]
      rw [Writer.write_of_final_none, Writer.commit_write_response]
      · simp [allowed]
      all_goals rfl
    · simp only [accepted, info, invalid, Bool.false_eq_true, if_false, Option.isSome_none,
        Writer.finish_write]
      rw [Writer.commit_write_response]
      · simp
      · rfl

end ChannelMux.Http

namespace ChannelMux

/-- Whether a reply settles an exchange: a Data or a Disconnect. -/
def Message.settles (m : Message) : Bool := m.kind = .data || m.asDisconnect?.isSome

theorem Message.settles_of_asConnect? {m : Message} {c : Connect} (hc : m.asConnect? = some c) :
    m.settles = false := by
  unfold asConnect? at hc
  unfold settles asDisconnect?
  split_ifs at hc with control
  simp at control
  simp [control, connectId, disconnectId]

theorem Message.kind_of_asDisconnect? {m : Message} (hd : m.asDisconnect?.isSome) :
    m.kind = .control := by
  unfold asDisconnect? at hd
  split_ifs at hd with control
  · simp at control
    exact control.1
  · cases hd

namespace Socket

/-- The replies before the one that settles an exchange. -/
def lead (replies : List Message) : List Message := replies.takeWhile (!·.settles)

/-- The status Connect replies choose: the last nonzero code among them, `code` when there is
none. -/
def chosenStatus (code : Int) (replies : List Message) : Int :=
  (((replies.filterMap Message.asConnect?).map Connect.code).filter (· ≠ 0)).getLast?.getD code

/-- The header Connect replies make of `h`: their header lines applied in order. -/
def chosenHeader (h : HeaderMap) (replies : List Message) : HeaderMap :=
  h.apply ((replies.filterMap Message.asConnect?).flatMap Connect.headers)

/-- What the client receives for the reply that settles an exchange, with the status and header
chosen before it. -/
def settledResponse (isHead : Bool) (code : Int) (h : HeaderMap) (m : Message) : Http.Response :=
  if m.kind = .data then Http.sent isHead code h m.payload.toList
  else if code < 400 then Http.sent isHead code h []
  else Http.sent isHead code (withPlainText h) (Http.statusText code).toUTF8.toList

section Choices

variable (code : Int) (h : HeaderMap) (l : List Message) {m : Message}

@[simp] theorem chosenStatus_nil : chosenStatus code [] = code := rfl

@[simp] theorem chosenHeader_nil : chosenHeader h [] = h := rfl

theorem chosenStatus_cons_connect {c : Connect} (hc : m.asConnect? = some c) :
    chosenStatus code (m :: l) = chosenStatus (if c.code = 0 then code else c.code) l := by
  by_cases zero : c.code = 0
  · simp [chosenStatus, hc, zero]
  · simp only [chosenStatus, List.filterMap_cons, hc, List.map_cons, List.filter_cons, zero,
      if_false, ne_eq, not_false_eq_true, decide_true, if_true, List.getLast?_cons,
      Option.getD_some]

theorem chosenStatus_cons_other (hc : m.asConnect? = none) :
    chosenStatus code (m :: l) = chosenStatus code l := by
  simp [chosenStatus, hc]

theorem chosenHeader_cons_connect {c : Connect} (hc : m.asConnect? = some c) :
    chosenHeader h (m :: l) = chosenHeader (h.apply c.headers) l := by
  simp only [chosenHeader, List.filterMap_cons, hc, List.flatMap_cons, HeaderMap.apply_append]

theorem chosenHeader_cons_other (hc : m.asConnect? = none) :
    chosenHeader h (m :: l) = chosenHeader h l := by
  simp [chosenHeader, hc]

end Choices

section Branches

variable (w : Http.Writer) (code : Int)

theorem endWithBody_response (p : List UInt8) :
    (endWithBody w code p).response = some (w.statusThenBody code p) := by
  unfold endWithBody Http.Writer.statusThenBody
  cases hw : w.writeHeader code with
  | error e => rfl
  | ok v =>
    have committed := Http.Writer.finish_write v p
    dsimp only
    split <;> simp_all [Outcome.response]

theorem endEmpty_response :
    (endEmpty w code).response =
      some (if code < 400 then w.statusThenBody code []
        else { w with header := withPlainText w.header }.statusThenBody code
          (Http.statusText code).toUTF8.toList) := by
  unfold endEmpty writeEmpty Http.Writer.statusThenBody
  by_cases low : code < 400
  · simp only [low, if_true]
    cases hw : w.writeHeader code with
    | error e => rfl
    | ok v => simp [Outcome.response, Http.Writer.write_nil]
  · simp only [low, if_false]
    cases ({ w with header := withPlainText w.header } : Http.Writer).writeHeader code with
    | error e => simp [Outcome.response, bind, Except.bind]
    | ok v => simp [Outcome.response, bind, Except.bind, pure, Except.pure]

end Branches

theorem lead_cons_settled {m : Message} (rest : List Message) (settled : m.settles) :
    lead (m :: rest) = [] := by
  simp [lead, settled]

theorem lead_cons_skipped {m : Message} (rest : List Message) (skipped : m.settles = false) :
    lead (m :: rest) = m :: lead rest := by
  simp [lead, skipped]

theorem answer_response (isHead : Bool) (h : HeaderMap) (code : Int) (replies : List Message) :
    (answer { isHead, header := h } code (replies.map .reply)).response =
      (replies.find? Message.settles).map
        (settledResponse isHead (chosenStatus code (lead replies)) (chosenHeader h (lead replies))) := by
  induction replies generalizing h code with
  | nil => rfl
  | cons m rest ih =>
    cases hc : m.asConnect? with
    | some c =>
      have skipped := Message.settles_of_asConnect? hc
      rw [List.find?_cons_of_neg (by simp [skipped]), lead_cons_skipped rest skipped,
        chosenStatus_cons_connect _ _ hc, chosenHeader_cons_connect _ _ hc, ← ih]
      simp [answer, hc]
    | none =>
      by_cases hd : m.asDisconnect?.isSome
      · -- a Disconnect settles the exchange with the status and header chosen so far
        have settled : m.settles = true := by simp [Message.settles, hd]
        have notData : m.kind ≠ .data := by simp [Message.kind_of_asDisconnect? hd]
        have ends : answer { isHead, header := h } code ((m :: rest).map .reply) =
            endEmpty { isHead, header := h } code := by
          simp [answer, hc, hd]
        rw [ends, endEmpty_response, List.find?_cons_of_pos settled, lead_cons_settled rest settled]
        simp only [Option.map_some, chosenStatus_nil, chosenHeader_nil, settledResponse, notData,
          if_false]
        split_ifs
        · exact congrArg some (Http.statusThenBody_fresh isHead h code [])
        · exact congrArg some (Http.statusThenBody_fresh isHead (withPlainText h) code _)
      · by_cases hk : m.kind = .data
        · have settled : m.settles = true := by simp [Message.settles, hk]
          have ends : answer { isHead, header := h } code ((m :: rest).map .reply) =
              endWithBody { isHead, header := h } code m.payload.toList := by
            simp [answer, hc, hd, hk]
          rw [ends, endWithBody_response, List.find?_cons_of_pos settled,
            lead_cons_settled rest settled]
          simp only [Option.map_some, chosenStatus_nil, chosenHeader_nil, settledResponse, hk,
            if_true]
          exact congrArg some (Http.statusThenBody_fresh isHead h code _)
        · have skipped : m.settles = false := by simp [Message.settles, hd, hk]
          rw [List.find?_cons_of_neg (by simp [skipped]), lead_cons_skipped rest skipped,
            chosenStatus_cons_other _ _ hc, chosenHeader_cons_other _ _ hc, ← ih]
          simp [answer, hc, hd, hk]

/-- A plain exchange's response is settled by the first Data or Disconnect reply, with the last
nonzero Connect code and the Connect headers. -/
theorem exchange_response (isHead : Bool) (replies : List Message) :
    (exchange isHead none (replies.map .reply)).response =
      (replies.find? Message.settles).map
        (settledResponse isHead (chosenStatus 200 (lead replies))
          (chosenHeader ⟨[]⟩ (lead replies))) :=
  answer_response isHead ⟨[]⟩ 200 replies

/-- A sub that chooses status 102 and then sends a body: 102 goes out as an informational
response, and the body comes with status 200. -/
theorem processing_status_answers_ok :
    (exchange false none [.reply (Message.connect 1 { code := 102 }),
      .reply (Message.data 1 "ok".toUTF8)]).response =
      some ⟨[⟨102, ⟨[]⟩⟩], some (⟨200, ⟨[]⟩⟩, "ok".toUTF8.toList)⟩ := by
  decide +kernel

/-- The payloads an event stream writes: those of the Data replies before the first
Disconnect. -/
def streamedPayloads (replies : List Message) : List (List UInt8) :=
  ((replies.takeWhile fun m => !m.asDisconnect?.isSome).filter (·.kind = .data)).map
    (·.payload.toList)

theorem streamedPayloads_cons (m : Message) (rest : List Message) :
    streamedPayloads (m :: rest) =
      if m.asDisconnect?.isSome then []
      else if m.kind = .data then m.payload.toList :: streamedPayloads rest
      else streamedPayloads rest := by
  unfold streamedPayloads
  rw [List.takeWhile_cons]
  by_cases hd : m.asDisconnect?.isSome
  · rw [if_neg (by simp [hd]), if_pos hd]
    rfl
  · rw [if_pos (by simpa using hd), if_neg hd, List.filter_cons]
    by_cases hk : m.kind = .data
    · rw [if_pos (by simpa using hk), if_pos hk]
      rfl
    · rw [if_neg (by simpa using hk), if_neg hk]

theorem stream_replies (replies : List Message) :
    (stream (replies.map .reply)).1 = (streamedPayloads replies).flatMap EventStream.encode := by
  induction replies with
  | nil => rfl
  | cons m rest ih =>
    rw [streamedPayloads_cons]
    by_cases hd : m.asDisconnect?.isSome
    · simp [stream, hd]
    · by_cases hk : m.kind = .data <;> simp [stream, hd, hk, ih]

/-- An event stream reads back as one message event per Data payload exactly when no payload holds a
carriage return. -/
theorem streamed_events_read_back (replies : List Message) :
    (stream (replies.map .reply)).1 = (streamedPayloads replies).flatMap EventStream.encode ∧
      (EventStream.read (stream (replies.map .reply)).1 =
          (streamedPayloads replies).map (EventStream.Event.message ∘ Text.utf8Decode) ↔
        ∀ d ∈ streamedPayloads replies, (13 : UInt8) ∉ d) := by
  refine ⟨stream_replies replies, ?_⟩
  rw [stream_replies]
  exact EventStream.read_encoded_iff _

/-- A payload `a` CR `b` reaches the client as a message `a`: the carriage return ends the data
line, and `b` is read as a field of that name, which no event keeps. -/
theorem carriage_return_cuts_streamed_payload :
    EventStream.read (stream [.reply (Message.data 1 ⟨#[97, 13, 98]⟩)]).1 =
      [EventStream.Event.message ['a']] := by
  decide +kernel

end Socket

end ChannelMux
