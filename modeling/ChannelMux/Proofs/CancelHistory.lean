import ChannelMux.Proofs.TrafficSound

/-! What a Disconnect post guarantees about the exchanges already on its address: each is silenced
unless it had retired, and then adds only its terminal Disconnect. -/

namespace ChannelMux.Http

namespace Run

/-- How a goroutine can be later on: the same exchange, a silenced one stays silenced and sends
nothing more, one past exchanging keeps its counts and flags, and one done stays done. -/
structure Later (r r' : Run) : Prop where
  serial : r'.serial = r.serial
  addr : r'.addr = r.addr
  plan : r'.plan = r.plan
  silenced : r.silenced = true → r'.silenced = true ∧ r'.sent = r.sent
  settled : r.stage ≠ .exchanging →
    r'.stage ≠ .exchanging ∧ r'.sent = r.sent ∧ r'.withdrawn = r.withdrawn ∧
      r'.silenced = r.silenced
  done : r.stage = .done → r'.stage = .done

theorem Later.refl (r : Run) : r.Later r :=
  ⟨rfl, rfl, rfl, fun s => ⟨s, rfl⟩, fun ne => ⟨ne, rfl, rfl, rfl⟩, id⟩

theorem Later.trans {r r' r'' : Run} (h : r.Later r') (h' : r'.Later r'') : r.Later r'' := by
  refine ⟨h'.serial.trans h.serial, h'.addr.trans h.addr, h'.plan.trans h.plan, ?_, ?_,
    fun d => h'.done (h.done d)⟩
  · intro s
    obtain ⟨s', sent'⟩ := h.silenced s
    obtain ⟨s'', sent''⟩ := h'.silenced s'
    exact ⟨s'', sent''.trans sent'⟩
  · intro ne
    obtain ⟨ne', sent', w', s'⟩ := h.settled ne
    obtain ⟨ne'', sent'', w'', s''⟩ := h'.settled ne'
    exact ⟨ne'', sent''.trans sent', w''.trans w', s''.trans s'⟩

theorem Later.transcript {r r' : Run} (h : r.Later r')
    (quiet : r.silenced = true ∨ r.stage ≠ .exchanging) :
    ∃ extra, r'.transcript = r.transcript ++ extra ∧
      (extra = [] ∨ r.stage = .retired ∧ extra = [Message.disconnect r.addr r.plan.2]) := by
  rcases quiet with sil | settled
  · obtain ⟨sil', sent⟩ := h.silenced sil
    refine ⟨[], ?_, Or.inl rfl⟩
    rw [transcript_of_silenced sil', transcript_of_silenced sil, sent, h.plan, List.append_nil]
  · obtain ⟨ne', sent, w, s⟩ := h.settled settled
    cases stage : r.stage with
    | exchanging => exact absurd stage settled
    | done =>
      refine ⟨[], ?_, Or.inl rfl⟩
      simp [Run.transcript, sent, stage, h.done stage, w, s, h.addr, h.plan]
    | retired =>
      cases stage' : r'.stage with
      | exchanging => exact absurd stage' ne'
      | retired =>
        refine ⟨[], ?_, Or.inl rfl⟩
        simp [Run.transcript, sent, h.plan, stage, stage']
      | done =>
        by_cases free : r.withdrawn = false ∧ r.silenced = false
        · refine ⟨[Message.disconnect r.addr r.plan.2], ?_, Or.inr ⟨rfl, rfl⟩⟩
          simp [Run.transcript, sent, stage, stage', w, s, free, h.addr, h.plan]
        · refine ⟨[], ?_, Or.inl rfl⟩
          have : ¬(r'.withdrawn = false ∧ r'.silenced = false) := by rwa [w, s]
          simp only [Run.transcript, sent, h.plan, stage, stage', reduceCtorEq, false_and,
            if_false, true_and, this, List.append_nil]

end Run

namespace Traffic

variable (t : Traffic)

end Traffic

namespace Sound

variable {o : RequestOptions} {t : Traffic}

end Sound

end ChannelMux.Http
