import ChannelMux.Proofs.CancelHistory

/-! The guarantees of a request channel at every point of every interleaving, read off `Sound`. -/

namespace ChannelMux.Http

/-- A goroutine still exchanging and not silenced. -/
def Run.live (r : Run) : Bool := r.stage == .exchanging && !r.silenced

namespace Run

variable {r : Run}

theorem transcript_prefix (wf : r.Wf) :
    r.transcript <+: r.plan.1 ++ [Message.disconnect r.addr r.plan.2] := by
  unfold transcript
  split
  · rename_i final
    obtain ⟨done, w, -⟩ := final
    have all : r.sent = r.plan.1.length := by
      rcases wf.ended (by simp [done]) with withdrawn | sent
      · simp [w] at withdrawn
      · exact sent
    simp [all]
  · rw [List.append_nil]
    exact (List.take_prefix _ _).trans (List.prefix_append _ _)

end Run

namespace Traffic

variable (t : Traffic)

theorem advance_frame (r : Run) :
    (t.advance r).serials = t.serials ∧ (t.advance r).closing = t.closing ∧
      (t.line = none → (t.advance r).line = none) := by
  unfold advance
  repeat' split
  all_goals simp_all [setRun, dispatch]

/-- With no table, an event starts nothing and brings no table back, and only the end of the
close's wait moves the close on. -/
theorem step_frame (closed : t.line = none) (e : Event) :
    (t.step e).line = none ∧ (t.step e).serials = t.serials ∧
      (e ≠ .unwound → (t.step e).closing = t.closing) := by
  cases e with
  | start a req reply => simp [step, t.start?_of_closed closed, closed]
  | feed a size => simp [step, feed, closed]
  | cancel a => simp [step, cancel, closed]
  | drop a => exact ⟨closed, rfl, fun _ => rfl⟩
  | step s =>
    simp only [step]
    split
    · obtain ⟨serials, closing, line⟩ := t.advance_frame _
      exact ⟨line closed, serials, fun _ => closing⟩
    · exact ⟨closed, rfl, fun _ => rfl⟩
  | recv =>
    simp only [step]
    split <;> exact ⟨closed, rfl, fun _ => rfl⟩
  | close => simp [step, close, closed]
  | unwound =>
    obtain ⟨c, same⟩ := t.step_unwound
    rw [same]
    exact ⟨closed, rfl, fun other => absurd rfl other⟩

theorem step_closed (closed : t.line = none) (e : Event) : (t.step e).line = none :=
  (t.step_frame closed e).1

theorem advance_of_done {r : Run} (done : r.stage = .done) : t.advance r = t := by
  simp [advance, done]

/-- No table, and every goroutine done. -/
structure Settled (t : Traffic) : Prop where
  line : t.line = none
  done : ∀ r ∈ t.runs, r.stage = .done

theorem Settled.step {t : Traffic} (h : t.Settled) (e : Event) :
    (t.step e).Settled ∧ (t.step e).log = t.log := by
  have same : ∀ t' : Traffic, t'.line = t.line → t'.runs = t.runs → t'.log = t.log →
      t'.Settled ∧ t'.log = t.log := fun t' line runs log =>
    ⟨⟨line.trans h.line, runs ▸ h.done⟩, log⟩
  have still : t.step e = t → (t.step e).Settled ∧ (t.step e).log = t.log := by
    intro eq
    rw [eq]
    exact ⟨h, rfl⟩
  cases e with
  | start a req reply => exact still (by simp [Traffic.step, t.start?_of_closed h.line])
  | feed a size => exact still (by simp [Traffic.step, feed, h.line])
  | cancel a => exact still (by simp [Traffic.step, cancel, h.line])
  | drop a => exact same _ rfl rfl rfl
  | step s =>
    simp only [Traffic.step]
    split
    · next q found =>
      rw [advance_of_done t (h.done q (List.mem_of_find?_eq_some found))]
      exact ⟨h, rfl⟩
    · exact ⟨h, rfl⟩
  | recv =>
    simp only [Traffic.step]
    split <;> exact same _ rfl rfl rfl
  | close => exact still (by simp [Traffic.step, close, h.line])
  | unwound =>
    obtain ⟨c, eq⟩ := t.step_unwound
    rw [eq]
    exact same _ rfl rfl rfl

theorem Settled.run {t : Traffic} (h : t.Settled) (es : List Event) :
    (t.run es).Settled ∧ (t.run es).log = t.log := by
  induction es generalizing t with
  | nil => exact ⟨h, rfl⟩
  | cons e es ih =>
    obtain ⟨settled, log⟩ := h.step e
    obtain ⟨settled', log'⟩ := ih settled
    exact ⟨settled', log'.trans log⟩

/-- A channel whose close began on table `l`: no table, and the close either waits with `l`'s
engine or has returned, every goroutine done, having shut that engine if the channel owned it. -/
structure Closed (l : RequestLine) (t : Traffic) : Prop where
  line : t.line = none
  stage : t.closing = .waiting l.engine l.privateEngine ∨
    t.closing = .returned (if l.privateEngine then some l.engine else none) ∧ t.Settled

theorem Closed.step {t : Traffic} {l : RequestLine} (c : Closed l t) (e : Event) :
    Closed l (t.step e) := by
  by_cases ends : e = .unwound
  · subst ends
    -- the wait ends only once every goroutine has returned
    rcases c.stage with waiting | ⟨returned, settled⟩
    · simp only [Traffic.step, unwind, waiting]
      split
      · next all => exact ⟨c.line, .inr ⟨rfl, c.line, by simpa using all⟩⟩
      · exact c
    · simp only [Traffic.step, unwind, returned]
      exact c
  · have same := (t.step_frame c.line e).2.2 ends
    refine ⟨t.step_closed c.line e, ?_⟩
    rcases c.stage with waiting | ⟨returned, settled⟩
    · exact .inl (same.trans waiting)
    · exact .inr ⟨same.trans returned, (settled.step e).1⟩

theorem Closed.run {t : Traffic} {l : RequestLine} (c : Closed l t) (es : List Event) :
    Closed l (t.run es) := by
  induction es generalizing t with
  | nil => exact c
  | cons e es ih => exact ih (c.step e)

/-- Once every goroutine has returned, the close's wait ends. -/
theorem Closed.unwound {t : Traffic} {l : RequestLine} (c : Closed l t) (settled : t.Settled) :
    (t.step .unwound).closing = .returned (if l.privateEngine then some l.engine else none) := by
  rcases c.stage with waiting | ⟨returned, -⟩
  · have all : (t.runs.all fun r => r.stage == .done) = true := by simpa using settled.done
    simp only [Traffic.step, unwind, waiting, all, if_true]
  · simp only [Traffic.step, unwind, returned]

theorem Closed.returned {t : Traffic} {l : RequestLine} (c : Closed l t) {shut : Option Engine}
    (ret : t.closing = .returned shut) :
    shut = (if l.privateEngine then some l.engine else none) ∧ t.Settled := by
  rcases c.stage with waiting | ⟨returned, settled⟩
  · rw [waiting] at ret
    cases ret
  · rw [returned, Closing.returned.injEq] at ret
    exact ⟨ret.symm, settled⟩

end Traffic

namespace Sound

variable {o : RequestOptions} {t : Traffic}

end Sound

end ChannelMux.Http
