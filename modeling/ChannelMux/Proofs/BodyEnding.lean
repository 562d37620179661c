import ChannelMux.Proofs.RequestGuarantees

/-! What the code of an exchange's terminal Disconnect says about its response body. -/

namespace ChannelMux.Http

theorem Ending.disconnect_code_eq_zero_iff (e : Ending) :
    e.disconnect.code = 0 ↔ e = .eof ∨ e = .truncated := by
  cases e with
  | eof => simp [Ending.disconnect]
  | truncated => simp [Ending.disconnect]
  | failed e => simpa [Ending.disconnect, TransferError.disconnect] using e.code_ne_zero

theorem Body.chunks_final (b : Body) (addr : Int) (chunk : Nat) :
    (b.chunks addr chunk).2 = b.ending.disconnect := by
  fun_induction Body.chunks b addr chunk with
  | case1 b fits more final split rest => simpa [split] using rest
  | case2 b short => rfl

theorem Body.chunks_kind (b : Body) (addr : Int) (chunk : Nat) :
    ∀ m ∈ (b.chunks addr chunk).1, m.kind = .data := by
  fun_induction Body.chunks b addr chunk with
  | case1 b fits more final split rest =>
    rw [split] at rest
    simpa [Message.data] using rest
  | case2 b short =>
    split <;> simp [Message.data]

theorem Reply.plan_lead_asDisconnect (reply : Reply) (addr : Int) (target : String) (chunk : Nat) :
    ∀ m ∈ (reply.plan addr target chunk).1, m.asDisconnect? = none := by
  cases reply with
  | failed e => simp [Reply.plan]
  | answered status length header body =>
    intro m hm
    simp only [Reply.plan, List.mem_cons] at hm
    rcases hm with rfl | chunked
    · simp [Message.asDisconnect?, Message.connect, Message.control, ControlRecord.msgId,
        connectId, disconnectId]
    · simp [Message.asDisconnect?, body.chunks_kind addr chunk m chunked]

theorem Reply.plan_code_eq_zero_iff (reply : Reply) (addr : Int) (target : String) (chunk : Nat) :
    (reply.plan addr target chunk).2.code = 0 ↔
      ∃ (status length : Int) (header : HeaderMap) (body : Body), reply = .answered status length header body ∧
        (body.ending = .eof ∨ body.ending = .truncated) := by
  cases reply with
  | failed e => simpa [Reply.plan, TransferError.disconnect] using e.code_ne_zero
  | answered status length header body =>
    simp [Reply.plan, body.chunks_final, body.ending.disconnect_code_eq_zero_iff]

namespace Sound

variable {o : RequestOptions} {t : Traffic}

theorem terminal_of_sent (h : Sound o t) {r : Run} (hr : r ∈ t.runs) {m : Message}
    (sent : m ∈ t.sentBy r.serial) {d : Disconnect} (hd : m.asDisconnect? = some d) :
    d = r.plan.2 := by
  obtain ⟨reply, target, origin⟩ := h.origin r hr
  rw [h.sentBy r hr] at sent
  rcases List.mem_append.mp ((Run.transcript_prefix (h.wf r hr)).subset sent) with lead | last
  · rw [origin] at lead
    rw [reply.plan_lead_asDisconnect r.addr target o.chunk.toNat m lead] at hd
    cases hd
  · rw [List.mem_singleton.mp last] at hd
    simpa [Message.asDisconnect?, Message.disconnect, Message.control, ControlRecord.msgId,
      disconnectId] using hd.symm

end Sound

/-- Each Disconnect an exchange dispatches has code 0 exactly when the client reported a response
whose body ended, at its end or cut short. -/
theorem terminal_disconnect_code_zero_iff_body_ended (o : RequestOptions) (e : Engine) (p : Bool)
    (es : List Event) :
    let t := (Traffic.opened o e p).run es
    ∀ r ∈ t.runs, ∀ m ∈ t.sentBy r.serial, ∀ d, m.asDisconnect? = some d →
      ∃ (reply : Reply) (target : String), r.plan = reply.plan r.addr target o.chunk.toNat ∧
        (d.code = 0 ↔ ∃ (status length : Int) (header : HeaderMap) (body : Body),
          reply = .answered status length header body ∧
          (body.ending = .eof ∨ body.ending = .truncated)) := by
  intro t r hr m sent d hd
  have h : Sound o t := (sound_opened o e p).run es
  obtain ⟨reply, target, origin⟩ := h.origin r hr
  have terminal : d = r.plan.2 := h.terminal_of_sent hr sent hd
  refine ⟨reply, target, origin, ?_⟩
  rw [terminal, origin]
  exact reply.plan_code_eq_zero_iff r.addr target o.chunk.toNat

/-- A response that announces ten bytes and is cut short after three ends with a Disconnect of code
0. -/
theorem truncated_response_ends_normally :
    let t := (Traffic.opened ⟨"http://h", .get, false, false, [], 0, 65536⟩ {} false).run
      [.start 0 {} (.answered 200 10 ⟨[]⟩ ⟨[97, 98, 99], .truncated⟩), .step 0, .step 0, .step 0,
        .step 0]
    ∃ r ∈ t.runs, ((t.sentBy r.serial).map fun m =>
        (m.asConnect?.map (·.size), m.payload.size, m.asDisconnect?.map (·.code))) =
          [(some 10, 0, none), (none, 3, none), (none, 0, some 0)] ∧
      ∃ m ∈ t.sentBy r.serial, m.asDisconnect? = some {} ∧
        ∃ (reply : Reply) (target : String), r.plan = reply.plan r.addr target 65536 ∧
          ∃ (status length : Int) (header : HeaderMap) (body : Body), reply = .answered status length header body ∧
            (body.ending = .eof ∨ body.ending = .truncated) := by
  intro t
  have shape : (t.runs.map fun r => ((t.sentBy r.serial).map fun m =>
      (m.asConnect?.map (·.size), m.payload.size, m.asDisconnect?.map (·.code)))) =
        [[(some 10, 0, none), (none, 3, none), (none, 0, some 0)]] := by
    decide +kernel
  have last : (t.runs.map fun r => ((t.sentBy r.serial).getLast?.map Message.asDisconnect?)) =
      [some (some {})] := by
    decide +kernel
  cases runs : t.runs with
  | nil => simp [runs] at shape
  | cons r rest =>
    simp only [runs, List.map_cons, List.cons.injEq] at shape last
    obtain ⟨m, hm, closing⟩ : ∃ m ∈ t.sentBy r.serial, m.asDisconnect? = some {} := by
      cases final : (t.sentBy r.serial).getLast? with
      | none => simp [final] at last
      | some m =>
        simp only [final, Option.map_some, Option.some.injEq] at last
        exact ⟨m, List.mem_of_getLast? final, last.1⟩
    have hr : r ∈ t.runs := by simp [runs]
    obtain ⟨reply, target, origin, code⟩ :=
      terminal_disconnect_code_zero_iff_body_ended _ {} false _ r hr m hm {} closing
    exact ⟨r, List.mem_cons_self .., shape.1, m, hm, closing, reply, target, origin, code.mp rfl⟩

end ChannelMux.Http
