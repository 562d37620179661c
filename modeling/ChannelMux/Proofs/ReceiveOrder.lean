import ChannelMux.Mailbox.Readers

/-! What readers of a mailbox receive, under any interleaving with the dispatches and the drops. -/

namespace ChannelMux

/-- The settled state a State message reports, if it reports one. -/
def Message.settledState? (m : Message) : Option LifeState :=
  if m.kind = .state then m.state?.filter LifeState.settled else none

namespace Mailbox

theorem messages_accept_of_state (b : Mailbox) {m : Message} (h : m.kind = .state) :
    (b.accept m).messages = b.messages := by
  unfold accept
  split
  · split
    · split <;> rfl
    · rfl
  · simp_all

theorem states_accept (b : Mailbox) (m : Message) :
    (b.accept m).states = b.states ++ m.settledState?.toList := by
  unfold accept Message.settledState?
  split
  case h_1 h =>
    split
    case h_1 s hs => by_cases settled : s.settled <;> simp [h, hs, settled, Option.filter]
    case h_2 hs => simp [h, hs]
  case h_2 h => simp [show ¬m.kind = .state from h]

end Mailbox

end ChannelMux

namespace ChannelMux.Mailbox

/-- What became of a dispatched message. -/
inductive Fate where
  | queued
  | received
  | dropped
  deriving DecidableEq, Repr

namespace Ledger

/-- The messages of the entries with a fate, in order. -/
def withFate (l : List (Message × Fate)) (f : Fate) : List Message :=
  (l.filter (·.2 = f)).map (·.1)

/-- Marks the oldest queued entry received. -/
def receive : List (Message × Fate) → List (Message × Fate)
  | [] => []
  | (m, .queued) :: rest => (m, .received) :: rest
  | e :: rest => e :: receive rest

/-- Marks dropped the queued entries of an address. -/
def drop (a : Int) (l : List (Message × Fate)) : List (Message × Fate) :=
  l.map fun e => (e.1, if e.2 = .queued ∧ e.1.addr = a then .dropped else e.2)

/-- No entry is received after an entry still queued. -/
def Ordered : List (Message × Fate) → Prop
  | [] => True
  | e :: rest => (e.2 = .queued → ∀ x ∈ rest, x.2 ≠ .received) ∧ Ordered rest

@[simp] theorem withFate_nil (f : Fate) : withFate [] f = [] := rfl

@[simp] theorem withFate_cons (m : Message) (g : Fate) (l : List (Message × Fate)) (f : Fate) :
    withFate ((m, g) :: l) f = if g = f then m :: withFate l f else withFate l f := by
  by_cases h : g = f <;> simp [withFate, h]

@[simp] theorem withFate_append (l l' : List (Message × Fate)) (f : Fate) :
    withFate (l ++ l') f = withFate l f ++ withFate l' f := by
  simp [withFate]

theorem withFate_eq_nil {l : List (Message × Fate)} {f : Fate} (h : ∀ x ∈ l, x.2 ≠ f) :
    withFate l f = [] := by
  simpa [withFate, List.filter_eq_nil_iff] using h

@[simp] theorem receive_fst (l : List (Message × Fate)) : (receive l).map (·.1) = l.map (·.1) := by
  induction l with
  | nil => rfl
  | cons e rest ih =>
    obtain ⟨m, _ | _ | _⟩ := e <;> simp [receive, ih]

@[simp] theorem drop_fst (a : Int) (l : List (Message × Fate)) : (drop a l).map (·.1) = l.map (·.1) := by
  simp [drop]

theorem withFate_receive {l : List (Message × Fate)} {m : Message} {rest : List Message}
    (ordered : Ordered l) (queued : withFate l .queued = m :: rest) :
    withFate (receive l) .queued = rest ∧
      withFate (receive l) .received = withFate l .received ++ [m] ∧
      withFate (receive l) .dropped = withFate l .dropped := by
  induction l with
  | nil => simp at queued
  | cons e l ih =>
    obtain ⟨m', g⟩ := e
    cases g with
    | queued =>
      simp only [withFate_cons, if_true, List.cons.injEq] at queued
      obtain ⟨rfl, rfl⟩ := queued
      have none : withFate l .received = [] := withFate_eq_nil (ordered.1 rfl)
      simp [receive, none]
    | received =>
      obtain ⟨q, r, d⟩ := ih ordered.2 (by simpa using queued)
      simp [receive, q, r, d]
    | dropped =>
      obtain ⟨q, r, d⟩ := ih ordered.2 (by simpa using queued)
      simp [receive, q, r, d]

theorem ordered_append_queued {l : List (Message × Fate)} (ordered : Ordered l) (m : Message) :
    Ordered (l ++ [(m, .queued)]) := by
  induction l with
  | nil => simp [Ordered]
  | cons e l ih =>
    refine ⟨fun h x hx => ?_, ih ordered.2⟩
    rcases List.mem_append.1 hx with hx | hx
    · exact ordered.1 h x hx
    · simp_all

theorem ordered_receive {l : List (Message × Fate)} (ordered : Ordered l) : Ordered (receive l) := by
  induction l with
  | nil => trivial
  | cons e l ih =>
    obtain ⟨m, _ | _ | _⟩ := e
    · exact ⟨by simp, ordered.2⟩
    · exact ⟨by simp, ih ordered.2⟩
    · exact ⟨by simp, ih ordered.2⟩

theorem ordered_drop {l : List (Message × Fate)} (ordered : Ordered l) (a : Int) :
    Ordered (drop a l) := by
  induction l with
  | nil => trivial
  | cons e l ih =>
    -- an entry queued after the drop was queued before it, and received entries stay received
    refine ⟨fun h x hx => ?_, ih ordered.2⟩
    simp only [List.mem_map] at h hx
    obtain ⟨y, hy, rfl⟩ := hx
    have was : e.2 = .queued := by
      by_contra other
      simp [other] at h
    have kept := ordered.1 was y hy
    dsimp only
    split <;> simp_all

theorem withFate_drop_queued (a : Int) (l : List (Message × Fate)) :
    withFate (drop a l) .queued = (withFate l .queued).filter (·.addr != a) := by
  induction l with
  | nil => rfl
  | cons e l ih =>
    obtain ⟨m, _ | _ | _⟩ := e <;> by_cases h : m.addr = a <;>
      simp_all [drop]

theorem withFate_drop_received (a : Int) (l : List (Message × Fate)) :
    withFate (drop a l) .received = withFate l .received := by
  induction l with
  | nil => rfl
  | cons e l ih =>
    obtain ⟨m, _ | _ | _⟩ := e <;> by_cases h : m.addr = a <;> simp_all [drop]

theorem kept_of_ordered {l : List (Message × Fate)} (ordered : Ordered l) :
    ((l.filter (·.2 != .dropped)).map (·.1)) = withFate l .received ++ withFate l .queued := by
  induction l with
  | nil => rfl
  | cons e l ih =>
    obtain ⟨m, _ | _ | _⟩ := e
    · have none : withFate l .received = [] := withFate_eq_nil (ordered.1 rfl)
      simp [ih ordered.2, none]
    · simp [ih ordered.2]
    · simp [ih ordered.2]

theorem length_eq_fates (l : List (Message × Fate)) :
    l.length = (withFate l .queued).length + (withFate l .received).length +
      (withFate l .dropped).length := by
  induction l with
  | nil => rfl
  | cons e l ih =>
    obtain ⟨m, _ | _ | _⟩ := e <;> simp [ih] <;> omega

/-- The ledger after an event, given what the event returned: a dispatched Data or Control
message is queued, a drop drops, and a receive that returns a message receives. -/
def record (l : List (Message × Fate)) : Event → Option (Nat × Outcome) → List (Message × Fate)
  | .dispatch m, _ => if m.kind = .state then l else l ++ [(m, .queued)]
  | .drop a, _ => drop a l
  | _, some (_, .message _) => receive l
  | _, _ => l

end Ledger

/-- The message an event dispatches, if it is a dispatch. -/
def Event.dispatched? : Event → Option Message
  | .dispatch m => some m
  | _ => none

/-- The messages a run dispatched, in order. -/
def dispatched (es : List Event) : List Message := es.filterMap Event.dispatched?

@[simp] theorem dispatched_nil : dispatched [] = [] := rfl

@[simp] theorem dispatched_cons (e : Event) (es : List Event) :
    dispatched (e :: es) = e.dispatched?.toList ++ dispatched es := by
  cases h : e.dispatched? <;> simp [dispatched, h]

namespace Readers

open Ledger

variable {r : Readers} {e : Event}

theorem step_of_byReader (he : e.byReader = true) :
    ((r.step e).1.box = r.box ∧ ∀ p ∈ (r.step e).2, p.2.took = false) ∨
    (∃ i m rest, r.box.messages = m :: rest ∧ (r.step e).2 = some (i, .message m) ∧
      (r.step e).1.box = { r.box with messages := rest }) ∨
    (∃ i s rest, r.box.states = s :: rest ∧ (r.step e).2 = some (i, .state s) ∧
      (r.step e).1.box = { r.box with states := rest }) := by
  cases e with
  | dispatch m => simp [Event.byReader] at he
  | drop a => simp [Event.byReader] at he
  | call i want =>
    left
    simp only [step]
    split <;> simp [setReader]
  | wake i =>
    left
    simp only [step]
    split
    · split <;> simp [setReader]
    · simp
  | giveUp i cancelled =>
    left
    simp only [step]
    split <;> simp [setReader, Outcome.took]
  | look i =>
    simp only [step]
    split
    case h_1 want _ =>
      -- the reader looks for what it wants: the oldest one, if any, is taken and returned
      cases want with
      | message =>
        cases hm : r.box.messages with
        | nil => simp [take?, Mailbox.take?, hm, setReader]
        | cons m rest =>
          right; left
          exact ⟨i, m, rest, rfl, by simp [take?, Mailbox.take?, hm], by simp [take?, Mailbox.take?, hm, setReader]⟩
      | state =>
        cases hs : r.box.states with
        | nil => simp [take?, Mailbox.takeState?, hs, setReader]
        | cons s rest =>
          right; right
          exact ⟨i, s, rest, rfl, by simp [take?, Mailbox.takeState?, hs], by simp [take?, Mailbox.takeState?, hs, setReader]⟩
    case h_2 => simp

theorem box_of_byReader (he : e.byReader = true) (nothing : ∀ p ∈ (r.step e).2, p.2.took = false) :
    (r.step e).1.box = r.box := by
  rcases step_of_byReader (r := r) he with ⟨same, -⟩ | ⟨i, m, -, -, answered, -⟩ |
    ⟨i, s, -, -, answered, -⟩
  · exact same
  · simp [answered, Outcome.took] at nothing
  · simp [answered, Outcome.took] at nothing

@[simp] theorem run_nil : r.run [] = r := rfl

@[simp] theorem run_cons (es : List Event) : r.run (e :: es) = (r.step e).1.run es := rfl

@[simp] theorem received_nil : r.received [] = [] := rfl

@[simp] theorem received_cons (es : List Event) :
    r.received (e :: es) = (r.step e).2.toList.filterMap (·.2.message?) ++ (r.step e).1.received es := by
  simp [received, answers, List.filterMap_append]

@[simp] theorem receivedStates_nil : r.receivedStates [] = [] := rfl

@[simp] theorem receivedStates_cons (es : List Event) :
    r.receivedStates (e :: es) =
      (r.step e).2.toList.filterMap (·.2.state?) ++ (r.step e).1.receivedStates es := by
  simp [receivedStates, answers, List.filterMap_append]

@[simp] theorem step_dispatch (m : Message) :
    r.step (.dispatch m) = ({ r with box := r.box.accept m, wakes := r.wakes + 1 }, none) := rfl

@[simp] theorem step_drop (a : Int) : r.step (.drop a) = ({ r with box := r.box.dropAddress a }, none) :=
  rfl

/-- The ledger along a run, from a ledger of what was dispatched before it. -/
def ledger (r : Readers) (l : List (Message × Fate)) : List Event → List (Message × Fate)
  | [] => l
  | e :: es => (r.step e).1.ledger (record l e (r.step e).2) es

/-- The mailbox holds exactly the ledger's queued entries, in order, and the ledger is ordered. -/
structure Tracks (r : Readers) (l : List (Message × Fate)) : Prop where
  queued : r.box.messages = withFate l .queued
  ordered : Ordered l

variable {l : List (Message × Fate)}

theorem dispatched?_of_byReader (he : e.byReader = true) : e.dispatched? = none := by
  cases e <;> simp_all [Event.byReader, Event.dispatched?]

theorem record_of_byReader (he : e.byReader = true) {ans : Option (Nat × Outcome)}
    (hm : ∀ p ∈ ans, p.2.message? = none) : record l e ans = l := by
  cases e <;> simp [Event.byReader] at he <;> rcases ans with _ | ⟨i, _ | _ | _⟩ <;>
    simp_all [record, Outcome.message?]

theorem Tracks.step (h : Tracks r l) (e : Event) :
    Tracks (r.step e).1 (record l e (r.step e).2) ∧
      withFate (record l e (r.step e).2) .received =
        withFate l .received ++ ((r.step e).2.toList.filterMap (·.2.message?)) ∧
      (record l e (r.step e).2).map (·.1) =
        l.map (·.1) ++ (e.dispatched?.toList.filter (·.kind != .state)) := by
  cases he : e.byReader
  case true =>
    -- a reader's event keeps the ledger's entries and receives at most the oldest queued one
    have notDispatch := dispatched?_of_byReader he
    rcases step_of_byReader (r := r) he with ⟨same, nothing⟩ | ⟨i, m, rest, hm, answered, box⟩ |
      ⟨i, s, rest, hs, answered, box⟩
    · have none : ∀ p ∈ (r.step e).2, p.2.message? = none := by
        intro p hp
        have := nothing p hp
        cases hpo : p.2 <;> simp_all [Outcome.took, Outcome.message?]
      rw [record_of_byReader he none, notDispatch]
      refine ⟨⟨by rw [same]; exact h.queued, h.ordered⟩, ?_, by simp⟩
      rcases hans : (r.step e).2 with _ | p
      · simp
      · simp [none p (by simp [hans])]
    · have receives : record l e (r.step e).2 = receive l := by
        rw [answered]
        cases e <;> simp_all [Event.byReader, record]
      obtain ⟨q, got, -⟩ := withFate_receive h.ordered (h.queued.symm.trans hm)
      rw [receives, answered, notDispatch]
      refine ⟨⟨by rw [box, q], ordered_receive h.ordered⟩, by simp [got, Outcome.message?], by simp⟩
    · rw [record_of_byReader he (by simp [answered, Outcome.message?]), answered, notDispatch]
      refine ⟨⟨by rw [box, h.queued], h.ordered⟩, by simp [Outcome.message?], by simp⟩
  case false =>
    cases e with
    | dispatch m =>
      by_cases hk : m.kind = .state
      · have same := r.box.messages_accept_of_state hk
        simp only [step_dispatch, record, hk, if_true]
        exact ⟨⟨by rw [same, h.queued], h.ordered⟩, by simp, by simp [Event.dispatched?, hk]⟩
      · have grown := r.box.messages_accept m hk
        simp only [step_dispatch, record, hk, if_false]
        exact ⟨⟨by simp [grown, h.queued], ordered_append_queued h.ordered m⟩, by simp,
          by simp [Event.dispatched?, hk]⟩
    | drop a =>
      simp only [step_drop, record]
      exact ⟨⟨by rw [Mailbox.messages_dropAddress, h.queued, withFate_drop_queued],
        ordered_drop h.ordered a⟩, by simp [withFate_drop_received], by simp [Event.dispatched?]⟩
    | _ => simp [Event.byReader] at he

theorem Tracks.run (h : Tracks r l) (es : List Event) :
    Tracks (r.run es) (r.ledger l es) ∧
      withFate (r.ledger l es) .received = withFate l .received ++ r.received es ∧
      (r.ledger l es).map (·.1) = l.map (·.1) ++ (dispatched es).filter (·.kind != .state) := by
  induction es generalizing r l with
  | nil => simp [ledger, h]
  | cons e es ih =>
    obtain ⟨tracks, got, listed⟩ := h.step e
    obtain ⟨tracks', got', listed'⟩ := ih tracks
    refine ⟨tracks', ?_, ?_⟩
    · rw [ledger, got', got, received_cons, List.append_assoc]
    · rw [ledger, listed', listed, dispatched_cons, List.filter_append, List.append_assoc]

theorem states_step (e : Event) :
    (r.step e).2.toList.filterMap (·.2.state?) ++ (r.step e).1.box.states =
      r.box.states ++ e.dispatched?.toList.filterMap Message.settledState? := by
  cases he : e.byReader
  case true =>
    have notDispatch : e.dispatched? = none := by cases e <;> simp_all [Event.byReader, Event.dispatched?]
    rw [notDispatch]
    rcases step_of_byReader (r := r) he with ⟨same, nothing⟩ | ⟨i, m, rest, -, answered, box⟩ |
      ⟨i, s, rest, hs, answered, box⟩
    · rw [same]
      rcases hans : (r.step e).2 with _ | ⟨i, o⟩
      · simp
      · have := nothing (i, o) (by simp [hans])
        cases o <;> simp_all [Outcome.took, Outcome.state?]
    · simp [answered, box, Outcome.state?]
    · simp [answered, box, hs, Outcome.state?]
  case false =>
    cases e with
    | dispatch m =>
      cases hs : m.settledState? <;> simp [Mailbox.states_accept, Event.dispatched?, hs]
    | drop a => simp [Mailbox.dropAddress, Event.dispatched?]
    | _ => simp [Event.byReader] at he

theorem states_run (es : List Event) :
    r.receivedStates es ++ (r.run es).box.states =
      r.box.states ++ (dispatched es).filterMap Message.settledState? := by
  induction es generalizing r with
  | nil => simp
  | cons e es ih =>
    rw [receivedStates_cons, run_cons, List.append_assoc, ih, ← List.append_assoc, states_step,
      dispatched_cons, List.filterMap_append, List.append_assoc]

end Readers

end ChannelMux.Mailbox

namespace ChannelMux.Mailbox

open Readers Ledger

/-- A mailbox read by any number of readers returns each dispatched message at most once and in
dispatch order, and a drop removes exactly its address's messages. -/
theorem readers_receive_in_dispatch_order (pre : String) (es : List Event) :
    let r₀ : Readers := { prefixText := pre }
    let l := r₀.ledger [] es
    (l.map (·.1) = (dispatched es).filter (·.kind != .state) ∧
      r₀.received es = withFate l .received ∧
      r₀.received es ++ (r₀.run es).box.messages = (l.filter (·.2 != .dropped)).map (·.1)) ∧
    (∀ (r : Readers) (a : Int), r.step (.drop a) =
      ({ r with box := { r.box with messages := r.box.messages.filter (·.addr != a) } }, none)) ∧
    (∀ (r : Readers) (e : Event), e.byReader = true → (∀ p ∈ (r.step e).2, p.2.took = false) →
      (r.step e).1.box = r.box) ∧
    r₀.receivedStates es ++ (r₀.run es).box.states =
      (dispatched es).filterMap Message.settledState? ∧
    (r₀.run es).box.pending + (r₀.received es).length + (withFate l .dropped).length =
      ((dispatched es).filter (·.kind != .state)).length := by
  intro r₀ l
  have start : Tracks r₀ [] := ⟨rfl, trivial⟩
  obtain ⟨tracks, got, listed⟩ := start.run es
  simp only [withFate_nil, List.nil_append, List.map_nil] at got listed
  have kept := kept_of_ordered tracks.ordered
  refine ⟨⟨listed, got.symm, ?_⟩, fun _ _ => rfl, fun _ _ => box_of_byReader, ?_, ?_⟩
  · rw [kept, got, tracks.queued]
  · have empty : r₀.box.states = [] := rfl
    simpa [empty] using @states_run r₀ es
  · -- every entry of the ledger has one fate, and the mailbox holds the queued ones
    have fates := length_eq_fates (r₀.ledger [] es)
    have total : (r₀.ledger [] es).length = ((dispatched es).filter (·.kind != .state)).length := by
      rw [← listed, List.length_map]
    show (r₀.run es).box.pending + (r₀.received es).length +
      (withFate (r₀.ledger [] es) .dropped).length = _
    rw [Mailbox.pending, tracks.queued, ← got]
    omega

/-- A reader waiting for a message while only a settled state is queued gives up at its deadline:
it returns a timeout and the state stays queued. -/
theorem timed_out_receive_keeps_queued_state :
    let r : Readers := ({ prefixText := "loop" } : Readers).run
      [.dispatch (Message.ofState .active), .call 1 .message, .look 1]
    (Event.giveUp 1 false).byReader = true ∧
      (∀ p ∈ (r.step (.giveUp 1 false)).2, p.2.took = false) ∧
      (r.step (.giveUp 1 false)).1.box = r.box := by
  intro r
  have answer : (r.step (.giveUp 1 false)).2 =
      some (1, .failed (giveUpFailure "loop" .message false)) := rfl
  have nothing : ∀ p ∈ (r.step (.giveUp 1 false)).2, p.2.took = false := by
    rw [answer]
    intro p hp
    rw [← Option.mem_some_iff.1 hp]
    rfl
  exact ⟨rfl, nothing, (readers_receive_in_dispatch_order "loop" []).2.2.1 r _ rfl nothing⟩

end ChannelMux.Mailbox
