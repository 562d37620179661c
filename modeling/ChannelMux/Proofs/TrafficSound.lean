import ChannelMux.Proofs.RequestTable
import ChannelMux.Proofs.ExchangeShape

/-! What holds at every point of a request channel's traffic, over every interleaving of posts,
goroutine steps, reads and the close. -/

namespace ChannelMux.Http

namespace Run

/-- What a goroutine has dispatched by the time it is where `r` says: the leading messages it
sent, then its terminal Disconnect once it is done, unless it was withdrawn or silenced. -/
def transcript (r : Run) : List Message :=
  r.plan.1.take r.sent ++
    if r.stage = .done ∧ r.withdrawn = false ∧ r.silenced = false then
      [Message.disconnect r.addr r.plan.2]
    else []

/-- What holds of a goroutine at every point. -/
structure Wf (r : Run) : Prop where
  sent_le : r.sent ≤ r.plan.1.length
  withdrawn : r.withdrawn = true → r.silenced = true
  ended : r.stage ≠ .exchanging → r.withdrawn = true ∨ r.sent = r.plan.1.length

theorem transcript_of_exchanging {r : Run} (h : r.stage = .exchanging) :
    r.transcript = r.plan.1.take r.sent := by
  simp [transcript, h]

theorem transcript_of_silenced {r : Run} (h : r.silenced = true) :
    r.transcript = r.plan.1.take r.sent := by
  simp [transcript, h]

theorem transcript_silence {r : Run} (h : r.stage = .exchanging) :
    { r with silenced := true }.transcript = r.transcript := by
  simp [transcript, h]

theorem wf_silence {r : Run} (wf : r.Wf) : ({ r with silenced := true } : Run).Wf :=
  ⟨wf.sent_le, fun _ => rfl, wf.ended⟩

end Run

namespace Traffic

variable (t : Traffic)

theorem sentBy_dispatch (s : Nat) (m : Message) (s' : Nat) :
    (t.dispatch s m).sentBy s' = t.sentBy s' ++ if s = s' then [m] else [] := by
  by_cases same : s = s' <;> simp [sentBy, dispatch, same]

theorem serials_setRun (r : Run) :
    (t.setRun r).runs.map (·.serial) = t.runs.map (·.serial) := by
  simp only [setRun, List.map_map]
  apply List.map_congr_left
  intro q _
  by_cases same : q.serial = r.serial <;> simp [same]

theorem serials_silence (hit : Nat → Bool) :
    (t.silence hit).runs.map (·.serial) = t.runs.map (·.serial) := by
  simp only [silence, List.map_map]
  apply List.map_congr_left
  intro q _
  by_cases h : hit q.serial <;> simp [h]

theorem run_cons (e : Event) (es : List Event) : t.run (e :: es) = (t.step e).run es := rfl

theorem step_unwound : ∃ c, t.step .unwound = { t with closing := c } := by
  simp only [step, unwind]
  split
  · split
    · exact ⟨_, rfl⟩
    · exact ⟨t.closing, rfl⟩
  · exact ⟨t.closing, rfl⟩

theorem sentBy_setRun (r : Run) : (t.setRun r).sentBy = t.sentBy := rfl

theorem mem_setRun {r r' : Run} (hr : r ∈ t.runs) (hs : r'.serial = r.serial) :
    r' ∈ (t.setRun r').runs :=
  List.mem_map.mpr ⟨r, hr, by simp [hs]⟩

theorem forall_setRun {r' : Run} {P : Run → Prop}
    (old : ∀ q ∈ t.runs, q.serial ≠ r'.serial → P q)
    (new : P r') : ∀ q ∈ (t.setRun r').runs, P q := by
  simp only [setRun, List.forall_mem_map]
  intro q hq
  by_cases same : q.serial = r'.serial
  · simpa [same] using new
  · simpa [same] using old q hq same

theorem start?_of_closed {a : Int} {req : Outgoing} {reply : Reply} (closed : t.line = none) :
    t.start? a req reply = .error (Failure.invalidState "channel is closed") := by
  simp [start?, closed, throw, throwThe, MonadExceptOf.throw]

theorem start?_ok {a : Int} {req : Outgoing} {reply : Reply} {t' : Traffic}
    (h : t.start? a req reply = .ok t') :
    ∃ l x, t.line = some l ∧ l.find? a = none ∧ l.prepare t.serials a req = .ok x ∧
      t' = { t with line := some { l with pending := l.pending ++ [x] }, serials := t.serials + 1,
                    runs := t.runs ++ [Run.start x reply l.options.chunk.toNat] } := by
  cases hl : t.line with
  | none => simp [t.start?_of_closed hl] at h
  | some l =>
    simp only [start?, hl, bind, Except.bind] at h
    cases started : l.start t.serials a req with
    | error f => simp [started] at h
    | ok l' =>
      obtain ⟨idle, x, prepared, rfl⟩ := l.start_ok started
      simp only [started, prepared, pure, Except.pure, Except.ok.injEq] at h
      exact ⟨l, x, rfl, idle, prepared, h.symm⟩

end Traffic

/-- The address table agrees with the goroutines. -/
structure Table (runs : List Run) (l : RequestLine) : Prop where
  nodup : (l.pending.map (·.addr)).Nodup
  entry : ∀ x ∈ l.pending, x.silenced = false ∧
    ∃ r ∈ runs, r.serial = x.serial ∧ r.addr = x.addr ∧ r.stage = .exchanging ∧
      r.silenced = false
  live : ∀ r ∈ runs, r.stage = .exchanging → r.silenced = false →
    ∃ x ∈ l.pending, x.serial = r.serial

/-- What holds at every point of a request channel opened with options `o`. -/
structure Sound (o : RequestOptions) (t : Traffic) : Prop where
  serials : t.runs.map (·.serial) = List.range t.serials
  logged : ∀ q ∈ t.log, q.1 < t.serials
  wf : ∀ r ∈ t.runs, r.Wf
  sentBy : ∀ r ∈ t.runs, t.sentBy r.serial = r.transcript
  origin : ∀ r ∈ t.runs, ∃ (reply : Reply) (target : String),
    r.plan = reply.plan r.addr target o.chunk.toNat
  options : ∀ l, t.line = some l → l.options = o
  table : ∀ l, t.line = some l → Table t.runs l
  closed : t.line = none → ∀ r ∈ t.runs, r.stage = .exchanging → r.silenced = true
  reader : (t.received ++ t.queue).Sublist t.log

theorem sound_opened (o : RequestOptions) (e : Engine) (privateEngine : Bool) :
    Sound o (Traffic.opened o e privateEngine) := by
  refine ⟨rfl, by simp [Traffic.opened], by simp [Traffic.opened], by simp [Traffic.opened],
    by simp [Traffic.opened], ?_, ?_, by simp [Traffic.opened], by simp [Traffic.opened]⟩
  · intro l h
    cases h
    rfl
  · intro l h
    cases h
    exact ⟨List.nodup_nil, by simp, by simp [Traffic.opened]⟩

theorem Table.congr_tags {runs : List Run} {l l' : RequestLine} (tab : Table runs l)
    (tags : l'.pending.map Exchange.tag = l.pending.map Exchange.tag) : Table runs l' := by
  have addrs : l'.pending.map (·.addr) = l.pending.map (·.addr) := by
    have := congrArg (List.map fun g : Nat × Int × Bool => g.2.1) tags
    simpa [List.map_map, Function.comp_def, Exchange.tag] using this
  have back : ∀ y ∈ l'.pending, ∃ x ∈ l.pending, x.tag = y.tag := by
    intro y hy
    have : y.tag ∈ l.pending.map Exchange.tag := tags ▸ List.mem_map_of_mem hy
    exact List.mem_map.mp this
  refine ⟨addrs ▸ tab.nodup, ?_, ?_⟩
  · intro y hy
    obtain ⟨x, hx, same⟩ := back y hy
    simp only [Exchange.tag, Prod.mk.injEq] at same
    obtain ⟨s, a, f⟩ := same
    rw [← s, ← a, ← f]
    exact tab.entry x hx
  · intro r hr exch quiet
    obtain ⟨x, hx, same⟩ := tab.live r hr exch quiet
    have : x.tag ∈ l'.pending.map Exchange.tag := tags ▸ List.mem_map_of_mem hx
    obtain ⟨y, hy, tag⟩ := List.mem_map.mp this
    exact ⟨y, hy, by simp only [Exchange.tag, Prod.mk.injEq] at tag; rw [tag.1, same]⟩

theorem Table.retire {t : Traffic} {r : Run} {l : RequestLine} (tab : Table t.runs l) :
    Table (t.setRun { r with stage := .retired }).runs (l.retire r.serial).1 := by
  refine ⟨tab.nodup.sublist (List.filter_sublist.map _), ?_, ?_⟩
  · intro x hx
    simp only [RequestLine.retire_pending, List.mem_filter, bne_iff_ne, ne_eq] at hx
    obtain ⟨xsil, q, hq, qs, qa, qe, qsil⟩ := tab.entry x hx.1
    have other : q.serial ≠ r.serial := qs ▸ hx.2
    exact ⟨xsil, q, List.mem_map.mpr ⟨q, hq, by simp [other]⟩, qs, qa, qe, qsil⟩
  · refine Traffic.forall_setRun _ (fun q hq other exch quiet => ?_) (by simp)
    obtain ⟨x, hx, same⟩ := tab.live q hq exch quiet
    refine ⟨x, ?_, same⟩
    simp only [RequestLine.retire_pending, List.mem_filter, bne_iff_ne, ne_eq]
    exact ⟨hx, same ▸ other⟩

theorem Table.append {runs : List Run} {l : RequestLine} (tab : Table runs l) {x : Exchange}
    {r : Run} (absent : x.addr ∉ l.pending.map (·.addr)) (xsil : x.silenced = false)
    (rs : r.serial = x.serial) (ra : r.addr = x.addr) (re : r.stage = .exchanging)
    (rsil : r.silenced = false) : Table (runs ++ [r]) { l with pending := l.pending ++ [x] } := by
  have mem : r ∈ runs ++ [r] := List.mem_append_right _ (List.mem_singleton_self _)
  refine ⟨?_, ?_, ?_⟩
  · simpa [List.nodup_append] using
      ⟨tab.nodup, fun y hy same => absent (same ▸ List.mem_map_of_mem hy)⟩
  · intro y hy
    rcases List.mem_append.mp hy with old | new
    · obtain ⟨ysil, q, hq, rest⟩ := tab.entry y old
      exact ⟨ysil, q, List.mem_append_left _ hq, rest⟩
    · rw [List.mem_singleton.mp new]
      exact ⟨xsil, r, mem, rs, ra, re, rsil⟩
  · intro q hq exch quiet
    rcases List.mem_append.mp hq with old | new
    · obtain ⟨y, hy, same⟩ := tab.live q old exch quiet
      exact ⟨y, List.mem_append_left _ hy, same⟩
    · rw [List.mem_singleton.mp new]
      exact ⟨x, List.mem_append_right _ (List.mem_singleton_self _), rs.symm⟩

namespace Sound

variable {o : RequestOptions} {t : Traffic}

theorem serial_lt (h : Sound o t) {r : Run} (hr : r ∈ t.runs) : r.serial < t.serials := by
  have : r.serial ∈ List.range t.serials := h.serials ▸ List.mem_map_of_mem hr
  simpa using this

theorem serial_inj (h : Sound o t) {r q : Run} (hr : r ∈ t.runs) (hq : q ∈ t.runs)
    (same : r.serial = q.serial) : r = q :=
  List.inj_on_of_nodup_map (h.serials ▸ List.nodup_range) hr hq same

theorem entry_inj (h : Sound o t) {l : RequestLine} (hl : t.line = some l) {x y : Exchange}
    (hx : x ∈ l.pending) (hy : y ∈ l.pending) (same : x.serial = y.serial) : x = y := by
  obtain ⟨-, r, hr, rs, ra, -⟩ := (h.table l hl).entry x hx
  obtain ⟨-, q, hq, qs, qa, -⟩ := (h.table l hl).entry y hy
  have : r = q := h.serial_inj hr hq (by rw [rs, qs, same])
  subst this
  exact l.eq_of_addr_eq (h.table l hl).nodup hx hy (by rw [← ra, ← qa])

theorem exchanging_of_entry (h : Sound o t) {l : RequestLine} (hl : t.line = some l)
    {x : Exchange} (hx : x ∈ l.pending) {r : Run} (hr : r ∈ t.runs)
    (same : r.serial = x.serial) :
    r.stage = .exchanging ∧ r.silenced = false := by
  obtain ⟨-, q, hq, qs, -, qe, qsil⟩ := (h.table l hl).entry x hx
  have : r = q := h.serial_inj hr hq (by rw [same, qs])
  subst this
  exact ⟨qe, qsil⟩

theorem sentBy_unstarted (h : Sound o t) : t.sentBy t.serials = [] := by
  simp only [Traffic.sentBy, List.map_eq_nil_iff, List.filter_eq_nil_iff, decide_eq_true_eq]
  exact fun q hq => Nat.ne_of_lt (h.logged q hq)

theorem start (h : Sound o t) (a : Int) (req : Outgoing) (reply : Reply) :
    Sound o (t.step (.start a req reply)) := by
  cases started : t.start? a req reply with
  | error f => simpa [Traffic.step, started] using h
  | ok t' =>
    simp only [Traffic.step, started]
    obtain ⟨l, x, hl, idle, prepared, rfl⟩ := t.start?_ok started
    obtain ⟨xs, xa, xsil⟩ := l.prepare_fields prepared
    have opts := h.options l hl
    have fresh : (Run.start x reply l.options.chunk.toNat).serial = t.serials := xs
    have absent : x.addr ∉ l.pending.map (·.addr) := by
      simpa [xa] using (l.find?_eq_none).mp idle
    refine ⟨?_, ?_, ?_, ?_, ?_, ?_, ?_, by simp, h.reader⟩
    · simp [List.range_succ, h.serials, fresh]
    · exact fun q hq => Nat.lt_succ_of_lt (h.logged q hq)
    · refine List.forall_mem_append.mpr ⟨h.wf, List.forall_mem_singleton.mpr ?_⟩
      exact ⟨by simp [Run.start], by simp [Run.start], by simp [Run.start]⟩
    · -- the new goroutine has sent nothing, and nothing is logged under its serial
      refine List.forall_mem_append.mpr ⟨h.sentBy, List.forall_mem_singleton.mpr ?_⟩
      change t.sentBy _ = _
      rw [fresh, h.sentBy_unstarted]
      simp [Run.transcript, Run.start]
    · refine List.forall_mem_append.mpr ⟨h.origin, List.forall_mem_singleton.mpr ?_⟩
      exact ⟨reply, x.target.render, by simp [Run.start, opts]⟩
    · intro l' hl'
      cases hl'
      exact opts
    · intro l' hl'
      cases hl'
      exact (h.table l hl).append absent xsil rfl rfl rfl rfl

theorem feed (h : Sound o t) (a : Int) (size : Nat) : Sound o (t.step (.feed a size)) := by
  simp only [Traffic.step, Traffic.feed]
  split
  · rename_i l hl
    split
    · rename_i x found
      split
      · rename_i l' fed
        obtain ⟨tags, opts⟩ := l.feed_tags (h.table l hl).nodup (l.find?_spec found).1 fed
        refine { h with options := ?_, table := ?_, closed := by simp }
        · intro l'' hl''
          cases hl''
          rw [opts, h.options l hl]
        · intro l'' hl''
          cases hl''
          exact Table.congr_tags (h.table l hl) tags
      · exact h
    · exact h
  · exact h

theorem drop (h : Sound o t) (a : Int) : Sound o (t.step (.drop a)) :=
  { h with reader := (List.Sublist.append_left (List.filter_sublist) _).trans h.reader }

theorem recv (h : Sound o t) : Sound o (t.step .recv) := by
  simp only [Traffic.step]
  split
  · rename_i q rest queue
    refine { h with reader := ?_ }
    have := h.reader
    rw [queue] at this
    simpa using this
  · exact h

section Silence

variable (h : Sound o t) {hit : Nat → Bool}
  (quiet : ∀ r ∈ t.runs, hit r.serial = true → r.stage = .exchanging)
include h quiet

theorem silence_runs :
    (∀ r ∈ (t.silence hit).runs, r.Wf) ∧
    (∀ r ∈ (t.silence hit).runs, t.sentBy r.serial = r.transcript) ∧
    (∀ r ∈ (t.silence hit).runs,
      ∃ (reply : Reply) (target : String), r.plan = reply.plan r.addr target o.chunk.toNat) := by
  simp only [Traffic.silence, List.forall_mem_map]
  refine ⟨fun r hr => ?_, fun r hr => ?_, fun r hr => ?_⟩ <;> by_cases hs : hit r.serial
  · simpa [hs] using Run.wf_silence (h.wf r hr)
  · simpa [hs] using h.wf r hr
  · simpa [hs, Run.transcript_silence (quiet r hr hs)] using h.sentBy r hr
  · simpa [hs] using h.sentBy r hr
  · simpa [hs] using h.origin r hr
  · simpa [hs] using h.origin r hr

end Silence

section SetRun

variable (h : Sound o t) {r : Run} (hr : r ∈ t.runs)
include h hr

theorem table_setRun (r' : Run) (hs : r'.serial = r.serial) {l : RequestLine}
    (tab : Table t.runs l) (ha : r'.addr = r.addr)
    (live : (r'.stage = .exchanging ∧ r'.silenced = false) ↔
      (r.stage = .exchanging ∧ r.silenced = false)) :
    Table (t.setRun r').runs l := by
  refine ⟨tab.nodup, ?_, ?_⟩
  · intro x hx
    obtain ⟨xsil, q, hq, qs, qa, qe, qsil⟩ := tab.entry x hx
    refine ⟨xsil, ?_⟩
    by_cases same : q.serial = r.serial
    · have := h.serial_inj hq hr same
      subst this
      obtain ⟨e', sil'⟩ := live.mpr ⟨qe, qsil⟩
      exact ⟨r', t.mem_setRun hr hs, hs.trans qs, ha.trans qa, e', sil'⟩
    · exact ⟨q, List.mem_map.mpr ⟨q, hq, by simp [hs, same]⟩, qs, qa, qe, qsil⟩
  · refine t.forall_setRun (fun q hq _ => tab.live q hq) ?_
    intro exch quiet
    obtain ⟨exch', quiet'⟩ := live.mp ⟨exch, quiet⟩
    obtain ⟨x, hx, same⟩ := tab.live r hr exch' quiet'
    exact ⟨x, hx, same.trans hs.symm⟩

end SetRun

section Advance

variable (h : Sound o t) {r : Run} (hr : r ∈ t.runs)
include h hr

theorem logged_dispatch (m : Message) : ∀ q ∈ (t.dispatch r.serial m).log, q.1 < t.serials := by
  intro q hq
  rcases List.mem_append.mp hq with old | new
  · exact h.logged q old
  · rw [List.mem_singleton.mp new]
    exact h.serial_lt hr

omit hr in
theorem reader_dispatch (s : Nat) (m : Message) :
    ((t.dispatch s m).received ++ (t.dispatch s m).queue).Sublist (t.dispatch s m).log := by
  simpa [Traffic.dispatch] using h.reader.append_right [(s, m)]

theorem withdraw (exch : r.stage = .exchanging) (sil : r.silenced = true) :
    Sound o (t.setRun { r with withdrawn := true }) := by
  have wf := h.wf r hr
  refine ⟨(t.serials_setRun _).trans h.serials, h.logged, ?_, ?_, ?_, h.options, ?_, ?_,
    h.reader⟩
  · exact t.forall_setRun (fun q hq _ => h.wf q hq)
      ⟨wf.sent_le, fun _ => sil, fun _ => Or.inl rfl⟩
  · refine t.forall_setRun (fun q hq _ => h.sentBy q hq) ?_
    rw [Traffic.sentBy_setRun, h.sentBy r hr]
    simp [Run.transcript, exch]
  · exact t.forall_setRun (fun q hq _ => h.origin q hq) (h.origin r hr)
  · intro l hl
    exact h.table_setRun hr { r with withdrawn := true } rfl (h.table l hl) rfl (by simp [sil])
  · intro closed
    exact t.forall_setRun (fun q hq _ => h.closed closed q hq) (fun _ => sil)

theorem send (exch : r.stage = .exchanging) {m : Message} (next : r.plan.1[r.sent]? = some m) :
    Sound o ((t.dispatch r.serial m).setRun { r with sent := r.sent + 1 }) := by
  have wf := h.wf r hr
  have fits : r.sent < r.plan.1.length := (List.getElem?_eq_some_iff.mp next).1
  refine ⟨((t.dispatch r.serial m).serials_setRun _).trans h.serials, h.logged_dispatch hr m,
    ?_, ?_, ?_, h.options, ?_, ?_, h.reader_dispatch r.serial m⟩
  · exact Traffic.forall_setRun _ (fun q hq _ => h.wf q hq)
      ⟨fits, wf.withdrawn, fun ne => absurd exch ne⟩
  · refine Traffic.forall_setRun _ (fun q hq other => ?_) ?_
    · rw [Traffic.sentBy_setRun, Traffic.sentBy_dispatch, if_neg (Ne.symm other), List.append_nil]
      exact h.sentBy q hq
    · rw [Traffic.sentBy_setRun, Traffic.sentBy_dispatch, if_pos rfl, h.sentBy r hr]
      -- the next transcript takes one more leading message, the one just sent
      simp [Run.transcript, exch, List.take_add_one, next]
  · exact Traffic.forall_setRun _ (fun q hq _ => h.origin q hq) (h.origin r hr)
  · intro l hl
    exact h.table_setRun hr { r with sent := r.sent + 1 } rfl (h.table l hl) rfl Iff.rfl
  · intro closed
    exact Traffic.forall_setRun _ (fun q hq _ => h.closed closed q hq) (h.closed closed r hr)

theorem retire (exch : r.stage = .exchanging)
    (stop : r.withdrawn = true ∨ r.plan.1.length ≤ r.sent) :
    Sound o ({ t with line := t.line.map fun (l : RequestLine) => (l.retire r.serial).1 }.setRun
      { r with stage := .retired }) := by
  have wf := h.wf r hr
  -- the table after the step, if any, is the one before with the goroutine retired
  have line : ∀ l',
      ({ t with line := t.line.map fun (l : RequestLine) => (l.retire r.serial).1 }.setRun
        { r with stage := .retired }).line = some l' →
      ∃ l, t.line = some l ∧ l' = (l.retire r.serial).1 := by
    intro l' hl'
    cases hl : t.line with
    | none => simp [Traffic.setRun, hl] at hl'
    | some l => exact ⟨l, rfl, by simpa [Traffic.setRun, hl] using hl'.symm⟩
  refine ⟨(Traffic.serials_setRun _ _).trans h.serials, h.logged, ?_, ?_, ?_, ?_, ?_, ?_,
    h.reader⟩
  · refine Traffic.forall_setRun _ (fun q hq _ => h.wf q hq) ⟨wf.sent_le, wf.withdrawn, ?_⟩
    intro _
    rcases stop with w | le
    · exact Or.inl w
    · exact Or.inr (Nat.le_antisymm wf.sent_le le)
  · refine Traffic.forall_setRun _ (fun q hq _ => h.sentBy q hq) ?_
    show t.sentBy r.serial = _
    rw [h.sentBy r hr, Run.transcript_of_exchanging exch]
    simp [Run.transcript]
  · exact Traffic.forall_setRun _ (fun q hq _ => h.origin q hq) (h.origin r hr)
  · intro l' hl'
    obtain ⟨l, hl, rfl⟩ := line l' hl'
    exact h.options l hl
  · intro l' hl'
    obtain ⟨l, hl, rfl⟩ := line l' hl'
    exact (h.table l hl).retire
  · intro closed
    have closed' : t.line = none := by simpa [Traffic.setRun] using closed
    exact Traffic.forall_setRun _ (fun q hq _ => h.closed closed' q hq) (by simp)

theorem finish (ret : r.stage = .retired) :
    Sound o (let t' := t.setRun { r with stage := .done }
      if (r.withdrawn || r.silenced) = true then t'
      else t'.dispatch r.serial (Message.disconnect r.addr r.plan.2)) := by
  have wf := h.wf r hr
  have wf' : ({ r with stage := .done } : Run).Wf :=
    ⟨wf.sent_le, wf.withdrawn, fun _ => wf.ended (by simp [ret])⟩
  have table : ∀ l, t.line = some l → Table (t.setRun { r with stage := .done }).runs l :=
    fun l hl => h.table_setRun hr { r with stage := .done } rfl (h.table l hl) rfl (by simp [ret])
  have closed : t.line = none → ∀ q ∈ (t.setRun { r with stage := .done }).runs,
      q.stage = .exchanging → q.silenced = true :=
    fun hn => Traffic.forall_setRun _ (fun q hq _ => h.closed hn q hq) (by simp)
  have origin : ∀ q ∈ (t.setRun { r with stage := .done }).runs,
      ∃ (reply : Reply) (target : String), q.plan = reply.plan q.addr target o.chunk.toNat :=
    Traffic.forall_setRun t (fun q hq _ => h.origin q hq) (h.origin r hr)
  have wfs := Traffic.forall_setRun t (fun q hq _ => h.wf q hq) wf'
  dsimp only
  split
  · rename_i held
    refine ⟨(t.serials_setRun _).trans h.serials, h.logged, wfs, ?_, origin, h.options, table,
      closed, h.reader⟩
    refine Traffic.forall_setRun _ (fun q hq _ => h.sentBy q hq) ?_
    rw [Traffic.sentBy_setRun, h.sentBy r hr]
    simp only [Bool.or_eq_true] at held
    rcases held with w | s
    · simp [Run.transcript, ret, w]
    · simp [Run.transcript, ret, s]
  · rename_i free
    simp only [Bool.or_eq_true, not_or, Bool.not_eq_true] at free
    refine ⟨(t.serials_setRun _).trans h.serials, h.logged_dispatch hr _, wfs, ?_, origin,
      h.options, table, closed, h.reader_dispatch r.serial _⟩
    refine Traffic.forall_setRun _ (fun q hq other => ?_) ?_
    · rw [Traffic.sentBy_dispatch, if_neg (Ne.symm other), List.append_nil]
      exact h.sentBy q hq
    · rw [Traffic.sentBy_dispatch, if_pos rfl, Traffic.sentBy_setRun, h.sentBy r hr]
      simp [Run.transcript, ret, free]

end Advance

theorem advance (h : Sound o t) {r : Run} (hr : r ∈ t.runs) : Sound o (t.advance r) := by
  unfold Traffic.advance
  split
  · rename_i exch
    split
    · rename_i m next _
      split
      · rename_i sil
        exact h.withdraw hr exch sil
      · exact h.send hr exch next
    · rename_i stop
      refine h.retire hr exch ?_
      -- the match fell through: withdrawn, or no leading message left
      cases withdrawn : r.withdrawn
      · cases lead : r.plan.1[r.sent]? with
        | none => exact Or.inr (List.getElem?_eq_none_iff.mp lead)
        | some m => exact absurd (stop m lead withdrawn) id
      · exact Or.inl rfl
  · rename_i ret
    exact h.finish hr ret
  · exact h

theorem cancel (h : Sound o t) (a : Int) : Sound o (t.step (.cancel a)) := by
  simp only [Traffic.step, Traffic.cancel]
  split
  · rename_i l hl
    have tab := h.table l hl
    -- the one goroutine silenced is the entry's, which is exchanging
    have hit : ∀ s, ((l.find? a).any fun (x : Exchange) => x.serial == s) = true ↔
        ∃ x, l.find? a = some x ∧ x.serial = s := by
      intro s
      simp [Option.any_eq_true]
    have quiet : ∀ r ∈ t.runs,
        ((l.find? a).any fun (x : Exchange) => x.serial == r.serial) = true →
          r.stage = .exchanging := by
      intro r hr hs
      obtain ⟨x, found, same⟩ := (hit r.serial).mp hs
      exact (h.exchanging_of_entry hl (l.find?_spec found).1 hr same.symm).1
    obtain ⟨wf, sentBy, origin⟩ :=
      @silence_runs o t h (fun s => (l.find? a).any fun (x : Exchange) => x.serial == s) quiet
    refine ⟨(Traffic.serials_silence _ _).trans h.serials, h.logged, wf, sentBy, origin, ?_, ?_,
      by simp [Traffic.silence], h.reader⟩
    · intro l' hl'
      cases hl'
      rw [l.cancel_options, h.options l hl]
    · intro l' hl'
      cases hl'
      refine ⟨?_, ?_, ?_⟩
      · rw [l.cancel_pending]
        exact tab.nodup.sublist (List.filter_sublist.map _)
      · intro y hy
        rw [l.cancel_pending, List.mem_filter] at hy
        obtain ⟨ysil, r, hr, rs, ra, re, rsil⟩ := tab.entry y hy.1
        have untouched : ¬((l.find? a).any fun (x : Exchange) => x.serial == r.serial) = true := by
          intro hs
          obtain ⟨x, found, same⟩ := (hit r.serial).mp hs
          have := h.entry_inj hl (l.find?_spec found).1 hy.1 (same.trans rs)
          subst this
          simp [(l.find?_spec found).2] at hy
        refine ⟨ysil, r, ?_, rs, ra, re, rsil⟩
        exact List.mem_map.mpr ⟨r, hr, by simp [untouched]⟩
      · simp only [Traffic.silence, List.forall_mem_map]
        intro r hr
        by_cases hs : ((l.find? a).any fun (x : Exchange) => x.serial == r.serial) = true
        · simp [hs]
        · simp only [hs, if_false, Bool.false_eq_true]
          intro exch quiet
          obtain ⟨y, hy, same⟩ := tab.live r hr exch quiet
          refine ⟨y, ?_, same⟩
          rw [l.cancel_pending, List.mem_filter]
          refine ⟨hy, ?_⟩
          by_cases ya : y.addr = a
          · have found : l.find? a = some y := ya ▸ l.find?_of_mem tab.nodup hy
            exact absurd ((hit r.serial).mpr ⟨y, found, same⟩) hs
          · simpa using ya
  · exact h

theorem close (h : Sound o t) : Sound o (t.step .close) := by
  simp only [Traffic.step, Traffic.close]
  split
  · rename_i l hl
    have tab := h.table l hl
    have hit : ∀ s, (l.pending.any fun (x : Exchange) => x.serial == s) = true ↔
        ∃ x ∈ l.pending, x.serial = s := by
      intro s
      simp
    have quiet : ∀ r ∈ t.runs,
        (l.pending.any fun (x : Exchange) => x.serial == r.serial) = true →
          r.stage = .exchanging := by
      intro r hr hs
      obtain ⟨x, hx, same⟩ := (hit r.serial).mp hs
      exact (h.exchanging_of_entry hl hx hr same.symm).1
    obtain ⟨wf, sentBy, origin⟩ :=
      @silence_runs o t h (fun s => l.pending.any fun (x : Exchange) => x.serial == s) quiet
    refine ⟨(Traffic.serials_silence _ _).trans h.serials, h.logged, wf, sentBy, origin,
      by simp [Traffic.silence], by simp [Traffic.silence], ?_, h.reader⟩
    -- every goroutine still exchanging unsilenced had an entry, and every entry is silenced
    intro _
    simp only [Traffic.silence, List.forall_mem_map]
    intro r hr
    by_cases hs : (l.pending.any fun (x : Exchange) => x.serial == r.serial) = true
    · simp [hs]
    · simp only [hs, if_false, Bool.false_eq_true]
      intro exch
      by_contra loud
      obtain ⟨y, hy, same⟩ := tab.live r hr exch (by simpa using loud)
      exact hs ((hit r.serial).mpr ⟨y, hy, same⟩)
  · exact h

theorem unwind (h : Sound o t) : Sound o (t.step .unwound) := by
  obtain ⟨c, same⟩ := t.step_unwound
  rw [same]
  exact { h with }

theorem step (h : Sound o t) : ∀ e, Sound o (t.step e)
  | .start a req reply => h.start a req reply
  | .feed a size => h.feed a size
  | .cancel a => h.cancel a
  | .drop a => h.drop a
  | .step s => by
    simp only [Traffic.step]
    split
    · rename_i r found
      exact h.advance (List.mem_of_find?_eq_some found)
    · exact h
  | .recv => h.recv
  | .close => h.close
  | .unwound => h.unwind

theorem run (h : Sound o t) (es : List Event) : Sound o (t.run es) := by
  induction es generalizing t with
  | nil => exact h
  | cons e es ih => exact ih (h.step e)

end Sound

end ChannelMux.Http
