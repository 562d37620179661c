import ChannelMux.Proofs.RequestShapes
import Mathlib

/-! What the sub of a node hears from the requests of a listening channel, at every point of every
run in which fewer than 2^63 addresses were taken. -/

namespace ChannelMux.Socket

theorem address_of_lt {k : Nat} (small : k < 2 ^ 63) : address k = k := by
  unfold address
  exact (Options.wrap64_eq_self_iff (Int.natCast_nonneg k)).mpr (by exact_mod_cast small)

namespace Phase

/-- The Disconnect a finished session delivered. -/
def farewell : Phase → Option Disconnect
  | .finished d => some d
  | _ => none

/-- The phases before a session joined, or of a request turned away. -/
def unborn : Phase → Bool
  | .arrived | .routed | .upgrading | .allocating | .joining | .turnedAway _ => true
  | _ => false

/-- The phases between the Connect and the session's leave, and a panic. -/
def talking : Phase → Bool
  | .feeding .. | .answering _ | .streaming | .reading | .leaving _ | .panicked _ => true
  | _ => false

theorem unborn_facts {p : Phase} (unborn : p.unborn) : p.listed = false ∧ p.greeted = false := by
  cases p <;> simp_all [Phase.unborn, listed, greeted]

theorem talking_facts {p : Phase} (talking : p.talking) :
    p.greeted ∧ p.listed ∧ p.farewell = none := by
  cases p <;> simp_all [Phase.talking, listed, greeted, farewell]

end Phase

@[simp] theorem Message.isDisconnect_connect (a : Int) (c : Connect) :
    (Message.connect a c).isDisconnect = false := by
  simp [Message.isDisconnect, Message.connect, Message.control, ControlRecord.msgId, connectId,
    disconnectId]

@[simp] theorem Message.isDisconnect_data (a : Int) (p : ByteArray) :
    (Message.data a p).isDisconnect = false := by
  simp [Message.isDisconnect, Message.data]

@[simp] theorem Message.isDisconnect_disconnect (a : Int) (d : Disconnect) :
    (Message.disconnect a d).isDisconnect = true := by
  simp [Message.isDisconnect, Message.disconnect, Message.control, ControlRecord.msgId]

@[simp] theorem Message.addr_connect (a : Int) (c : Connect) : (Message.connect a c).addr = a := rfl
@[simp] theorem Message.addr_data (a : Int) (p : ByteArray) : (Message.data a p).addr = a := rfl
@[simp] theorem Message.addr_disconnect (a : Int) (d : Disconnect) :
    (Message.disconnect a d).addr = a := rfl

namespace Handler

/-- What the sub of a session's node hears from it, in order: nothing before its loop starts;
then its Connect, a Data for each piece it sent and, once it finished, its Disconnect. -/
def told (h : Handler) : List Message :=
  if h.phase.greeted then
    Message.connect h.addr h.request.connect :: h.sent.map (Message.data h.addr) ++
      (h.phase.farewell.map (Message.disconnect h.addr)).toList
  else []

variable {h h' : Handler}

theorem told_of_unseen (unseen : h.phase.greeted = false) : h.told = [] := by
  simp [told, unseen]

theorem greeted_of_told (said : h.told ≠ []) : h.phase.greeted := by
  by_contra unseen
  exact said (told_of_unseen (by simpa using unseen))

/-- The handler is listed on node `n` with address `a`. -/
def HoldsAt (h : Handler) (n : Nat) (a : Int) : Prop := h.node = some n ∧ h.phase.listed ∧ h.addr = a

theorem holdsAt_iff (node : h'.node = h.node) (serial : h'.serial = h.serial)
    (listed : h'.phase.listed = h.phase.listed) (n : Nat) (a : Int) :
    h'.HoldsAt n a ↔ h.HoldsAt n a := by
  simp only [HoldsAt, Handler.addr, node, serial, listed]

theorem holdsAt_of_unlisted (unlisted : h.phase.listed = false) (n : Nat) (a : Int) :
    ¬h.HoldsAt n a := by
  simp [HoldsAt, unlisted]

/-- A step of a handler that delivers nothing and leaves its node's table alone. -/
structure Mute (h h' : Handler) : Prop where
  told : h'.told = h.told
  holds : ∀ n a, h'.HoldsAt n a ↔ h.HoldsAt n a
  placed : h.phase.greeted → h'.node = h.node ∧ h'.addr = h.addr

theorem Mute.unborn (before : h.phase.listed = false ∧ h.phase.greeted = false)
    (after : h'.phase.listed = false ∧ h'.phase.greeted = false) : h.Mute h' where
  told := by rw [told_of_unseen before.2, told_of_unseen after.2]
  holds n a := iff_of_false (holdsAt_of_unlisted after.1 n a) (holdsAt_of_unlisted before.1 n a)
  placed := by simp [before.2]

theorem Mute.of_same (node : h'.node = h.node) (serial : h'.serial = h.serial)
    (request : h'.request = h.request) (sent : h'.sent = h.sent)
    (greeted : h'.phase.greeted = h.phase.greeted) (listed : h'.phase.listed = h.phase.listed)
    (farewell : h'.phase.farewell = h.phase.farewell) : h.Mute h' where
  told := by simp only [Handler.told, Handler.addr, greeted, serial, request, sent, farewell]
  holds := holdsAt_iff node serial listed
  placed := fun _ => ⟨node, by simp only [Handler.addr, serial]⟩

/-- A step that keeps what the log reads of a handler and moves it between talking phases, if it
moves it at all. -/
structure Talks (h h' : Handler) : Prop where
  node : h'.node = h.node
  serial : h'.serial = h.serial
  request : h'.request = h.request
  sent : h'.sent = h.sent
  phase : h'.phase = h.phase ∨ h.phase.talking ∧ h'.phase.talking

theorem Talks.mute (talks : h.Talks h') : h.Mute h' := by
  rcases talks.phase with same | ⟨before, after⟩
  · exact Mute.of_same talks.node talks.serial talks.request talks.sent (by rw [same])
      (by rw [same]) (by rw [same])
  · have b := Phase.talking_facts before
    have a := Phase.talking_facts after
    exact Mute.of_same talks.node talks.serial talks.request talks.sent (by rw [a.1, b.1])
      (by rw [a.2.1, b.2.1]) (by rw [a.2.2, b.2.2])

theorem settle_talks (talking : h.phase.talking) (queue taken : List Message)
    (o : Outcome ⊕ (Http.Writer × Int)) : h.Talks ({ h with queue, taken }.settle o) := by
  unfold settle
  split
  · exact ⟨rfl, rfl, rfl, rfl, .inr ⟨talking, rfl⟩⟩
  · exact ⟨rfl, rfl, rfl, rfl, .inr ⟨talking, rfl⟩⟩
  · exact ⟨rfl, rfl, rfl, rfl, .inl rfl⟩
  · exact ⟨rfl, rfl, rfl, rfl, .inr ⟨talking, rfl⟩⟩

theorem takeReply_talks (h : Handler) : h.Talks h.takeReply := by
  unfold takeReply
  split
  · next m rest code hq hp =>
    exact settle_talks (by simp [hp, Phase.talking]) rest (h.taken ++ [m]) _
  · next m rest hq hp =>
    have talking : h.phase.talking := by simp [hp, Phase.talking]
    unfold streamReply
    split_ifs
    · exact ⟨rfl, rfl, rfl, rfl, .inr ⟨talking, rfl⟩⟩
    · split <;> exact ⟨rfl, rfl, rfl, rfl, by simp [hp, Phase.talking]⟩
    · exact ⟨rfl, rfl, rfl, rfl, .inl rfl⟩
  · exact ⟨rfl, rfl, rfl, rfl, .inl rfl⟩

theorem turned_talks (h : Handler) (t : Turn) (d : Disconnect) : h.Talks (h.turned t d) := by
  unfold turned
  split
  · next code hp => exact settle_talks (by simp [hp, Phase.talking]) h.queue h.taken _
  · next hp => exact ⟨rfl, rfl, rfl, rfl, .inr ⟨by simp [hp, Phase.talking], rfl⟩⟩
  · exact ⟨rfl, rfl, rfl, rfl, .inl rfl⟩

theorem endRead_talks (h : Handler) (e : ReadEnd) : h.Talks (h.endRead e) := by
  unfold endRead
  split
  · next hp => exact ⟨rfl, rfl, rfl, rfl, .inr ⟨by simp [hp, Phase.talking], rfl⟩⟩
  · exact ⟨rfl, rfl, rfl, rfl, .inl rfl⟩

/-- What becomes of a handler that returned: at most its stop flag and its reply queue change. -/
def Rests (h x : Handler) : Prop := ∃ stopping queue, x = { h with stopping, queue }

theorem Rests.refl (h : Handler) : h.Rests h := ⟨h.stopping, h.queue, rfl⟩

theorem Rests.trans {y : Handler} (first : h.Rests h') (next : h'.Rests y) : h.Rests y := by
  obtain ⟨_, _, rfl⟩ := first
  obtain ⟨stopping, queue, rfl⟩ := next
  exact ⟨stopping, queue, rfl⟩

theorem Rests.returned (r : h.Rests h') : h'.returned = h.returned := by
  obtain ⟨_, _, rfl⟩ := r
  rfl

theorem Rests.told (r : h.Rests h') : h'.told = h.told := by
  obtain ⟨_, _, rfl⟩ := r
  rfl

theorem takeReply_of_returned (back : h.returned) : h.takeReply = h := by
  unfold takeReply
  split
  · next hp => simp [returned, hp] at back
  · next hp => simp [returned, hp] at back
  · rfl

theorem turned_of_returned (back : h.returned) (t : Turn) (d : Disconnect) : h.turned t d = h := by
  unfold turned
  split
  · next hp => simp [returned, hp] at back
  · next hp => simp [returned, hp] at back
  · rfl

theorem endRead_of_returned (back : h.returned) (e : ReadEnd) : h.endRead e = h := by
  unfold endRead
  split
  · next hp => simp [returned, hp] at back
  · rfl

theorem refuse_unborn (why : Refusal) (unwritten : h.writer.final = none) :
    (h.refuse why).phase.unborn := by
  rw [refuse_phase h why unwritten]
  rfl

theorem routeTo_unborn (unwritten : h.writer.final = none) (n : Nat) (kind : NodeKind) :
    (h.routeTo n kind).phase.unborn := by
  unfold routeTo
  split_ifs <;> first | exact refuse_unborn _ unwritten | rfl

theorem check_unborn (unwritten : h.writer.final = none) (node : Node) :
    (h.check node).phase.unborn := by
  unfold check
  split
  · exact refuse_unborn _ unwritten
  · split_ifs <;> rfl

theorem told_sent (hg : h.phase.greeted) (hg' : h'.phase.greeted) (far : h.phase.farewell = none)
    (far' : h'.phase.farewell = none) (serial : h'.serial = h.serial)
    (request : h'.request = h.request) {p : ByteArray} (sent : h'.sent = h.sent ++ [p]) :
    h'.told = h.told ++ [Message.data h.addr p] := by
  simp [told, hg, hg', far, far', addr, serial, request, sent]

theorem told_finished {d : Disconnect} (hp : h.phase = .ending d) :
    ({ h with phase := .finished d, stopping := true } : Handler).told =
      h.told ++ [Message.disconnect h.addr d] := by
  simp [told, hp, Phase.greeted, Phase.farewell, addr]

theorem greeted_told (hp : h.phase = .greeting) (unsent : h.sent = []) (node : Node) :
    (h.greeted node).told = h.told ++ [Message.connect h.addr h.request.connect] := by
  have before : h.told = [] := told_of_unseen (by simp [hp, Phase.greeted])
  rw [before]
  unfold greeted
  split
  · simp [told, Phase.greeted, Phase.farewell, unsent, addr]
  · obtain ⟨v, hv⟩ := eventHead_ok h.writer
    rw [hv]
    simp [told, Phase.greeted, Phase.farewell, unsent, addr]
  · simp [told, Phase.greeted, Phase.farewell, unsent, addr]
  · simp [told, Phase.greeted, Phase.farewell, unsent, addr]

theorem greeted_talks (node : Node) :
    (h.greeted node).node = h.node ∧ (h.greeted node).serial = h.serial ∧
      (h.greeted node).phase.listed := by
  unfold greeted
  split
  · simp [Phase.listed]
  · obtain ⟨v, hv⟩ := eventHead_ok h.writer
    rw [hv]
    simp [Phase.listed]
  · simp [Phase.listed]
  · simp [Phase.listed]

end Handler

/-! ### The log and the tables -/

namespace Server

variable {s : Server}

/-- Handler `j` is listed on node `n` with address `a`. -/
def Holds (s : Server) (n : Nat) (a : Int) (j : Nat) : Prop :=
  ∃ h, s.handlers[j]? = some h ∧ h.HoldsAt n a

/-- Each table holds exactly the sessions listed on its node, by address and handler. -/
def Tabled (s : Server) : Prop :=
  ∀ (n : Nat) (node : Node), s.nodes[n]? = some node → ∀ a j, (a, j) ∈ node.table ↔ s.Holds n a j

/-- The log and the tables of a listening channel. -/
structure Logged (s : Server) : Prop where
  tables : s.Tabled
  told : ∀ (i : Nat) (h : Handler), s.handlers[i]? = some h →
    (s.log.filter (·.handler == i)).map (·.message) = h.told
  placed : ∀ d ∈ s.log, ∃ h, s.handlers[d.handler]? = some h ∧ h.node = some d.node ∧
    d.message.addr = h.addr ∧ d.listed = !d.message.isDisconnect

theorem logged_start (logger : Logger) (nodes : List (NodeKind × String)) :
    (start logger nodes).Logged where
  tables := by
    intro n node hn a j
    simp only [start, List.getElem?_map, Option.map_eq_some_iff] at hn
    obtain ⟨-, -, rfl⟩ := hn
    simp [Holds, start]
  told := by simp [start]
  placed := by simp [start]

/-! #### Addresses under the bound -/

theorem Shaped.addr_apart (hs : s.Shaped) (bound : s.allocated < 2 ^ 63) {i j : Nat}
    {x y : Handler} (at_i : s.handlers[i]? = some x) (at_j : s.handlers[j]? = some y)
    (xs : x.serial.isSome) (ys : y.serial.isSome) (same : x.addr = y.addr) : i = j := by
  obtain ⟨k, hk⟩ := Option.isSome_iff_exists.mp xs
  obtain ⟨l, hl⟩ := Option.isSome_iff_exists.mp ys
  have kb := hs.numbered x (List.mem_of_getElem? at_i) k hk
  have lb := hs.numbered y (List.mem_of_getElem? at_j) l hl
  have : (k : Int) = l := by
    rw [Handler.addr, Handler.addr, hk, hl, Option.getD_some, Option.getD_some,
      address_of_lt (by omega), address_of_lt (by omega)] at same
    exact same
  exact hs.apart i j x y k at_i at_j hk (by rw [hl]; exact congrArg some (by exact_mod_cast this.symm))

theorem Shaped.serial_of_began (hs : s.Shaped) {i : Nat} {x : Handler}
    (at_i : s.handlers[i]? = some x) (began : x.phase.listed ∨ x.phase.greeted) :
    x.serial.isSome :=
  ((hs.shape_at at_i).joined began).1

theorem Logged.holds_addr (hl : s.Logged) (hs : s.Shaped) (bound : s.allocated < 2 ^ 63)
    {i n : Nat} {h : Handler} {node : Node} (at_i : s.handlers[i]? = some h)
    (hn : h.node = some n) (at_n : s.nodes[n]? = some node) (numbered : h.serial.isSome) :
    node.table.any (·.1 == h.addr) = h.phase.listed := by
  apply Bool.eq_iff_iff.mpr
  constructor
  · intro found
    obtain ⟨⟨a, j⟩, mem, same⟩ := List.any_eq_true.mp found
    obtain ⟨x, at_j, -, listed, ha⟩ := (hl.tables n node at_n a j).mp mem
    have a_eq : a = h.addr := by simpa using same
    have : j = i := hs.addr_apart bound at_j at_i (hs.serial_of_began at_j (.inl listed))
      numbered (ha.trans a_eq)
    subst this
    rw [at_i] at at_j
    cases at_j
    exact listed
  · intro listed
    exact List.any_eq_true.mpr ⟨(h.addr, i),
      (hl.tables n node at_n _ _).mpr ⟨h, at_i, hn, listed, rfl⟩, by simp⟩

/-! #### What each step does to the log and the tables -/

section Steps

variable {i : Nat} {h : Handler}

theorem Logged.greeted_of_mem (hl : s.Logged) (at_i : s.handlers[i]? = some h) {d : Delivery}
    (mem : d ∈ s.log) (by_i : d.handler = i) : h.phase.greeted := by
  apply Handler.greeted_of_told
  rw [← hl.told i h at_i]
  intro empty
  have kept : d ∈ s.log.filter (·.handler == i) := List.mem_filter.mpr ⟨mem, by simp [by_i]⟩
  rw [List.map_eq_nil_iff.mp empty] at kept
  exact List.not_mem_nil kept

theorem getElem?_set_at {α : Type} {l : List α} {i : Nat} {x : α} (at_i : l[i]? = some x) (y : α) :
    (l.set i y)[i]? = some y :=
  List.getElem?_set_self (List.getElem?_eq_some_iff.mp at_i).1

theorem holds_update {s' : Server} (at_i : s.handlers[i]? = some h) {h' : Handler}
    (handlers : s'.handlers = s.handlers.set i h') (same : ∀ n a, h'.HoldsAt n a ↔ h.HoldsAt n a) :
    s'.Holds = s.Holds := by
  funext n a j
  apply propext
  simp only [Holds, handlers]
  by_cases here : j = i
  · subst here
    simp [getElem?_set_at at_i, at_i, same]
  · simp [List.getElem?_set_ne (Ne.symm here)]

theorem Tabled.congr {s' : Server} (ht : s.Tabled) (nodes : s'.nodes = s.nodes)
    (holds : s'.Holds = s.Holds) : s'.Tabled := by
  intro n node at_n
  rw [holds]
  exact ht n node (nodes ▸ at_n)

theorem Logged.record {s' : Server} (hl : s.Logged) (at_i : s.handlers[i]? = some h)
    {h' : Handler} {new : List Delivery} (tables : s'.Tabled)
    (handlers : s'.handlers = s.handlers.set i h') (log : s'.log = s.log ++ new)
    (placed : h.phase.greeted → h'.node = h.node ∧ h'.addr = h.addr)
    (told : h'.told = h.told ++ new.map (·.message))
    (mine : ∀ d ∈ new, d.handler = i ∧ h'.node = some d.node ∧ d.message.addr = h'.addr ∧
      d.listed = !d.message.isDisconnect) : s'.Logged where
  tables := tables
  told := by
    intro j x at_j
    rw [handlers] at at_j
    rw [log, List.filter_append, List.map_append]
    rcases getElem?_set_cases at_j with ⟨rfl, rfl⟩ | ⟨other, old⟩
    · have all : new.filter (·.handler == j) = new :=
        List.filter_eq_self.mpr fun d mem => by simp [(mine d mem).1]
      rw [all, hl.told j h at_i, told]
    · have none : new.filter (·.handler == j) = [] :=
        List.filter_eq_nil_iff.mpr fun d mem => by simp [(mine d mem).1, Ne.symm other]
      rw [none, hl.told j x old, List.map_nil, List.append_nil]
  placed := by
    intro d mem
    rw [log] at mem
    rw [handlers]
    rcases List.mem_append.mp mem with old | fresh
    · obtain ⟨x, at_d, hn, ha, flag⟩ := hl.placed d old
      by_cases here : d.handler = i
      · rw [here, at_i] at at_d
        cases at_d
        -- a request that delivered had begun, so it kept its node and address
        obtain ⟨same_n, same_a⟩ := placed (hl.greeted_of_mem at_i old here)
        exact ⟨h', by rw [here, getElem?_set_at at_i], same_n.trans hn, ha.trans same_a.symm, flag⟩
      · exact ⟨x, by rw [List.getElem?_set_ne (Ne.symm here)]; exact at_d, hn, ha, flag⟩
    · obtain ⟨by_i, hn, ha, flag⟩ := mine d fresh
      exact ⟨h', by rw [by_i, getElem?_set_at at_i], hn, ha, flag⟩

theorem Logged.shift {s' : Server} (hl : s.Logged) (at_i : s.handlers[i]? = some h)
    {h' : Handler} (tables : s'.Tabled) (handlers : s'.handlers = s.handlers.set i h')
    (log : s'.log = s.log) (told : h'.told = h.told)
    (placed : h.phase.greeted → h'.node = h.node ∧ h'.addr = h.addr) : s'.Logged :=
  hl.record at_i tables handlers (by rw [log, List.append_nil]) placed
    (by rw [told, List.map_nil, List.append_nil]) (by simp)

theorem Logged.mute {s' : Server} (hl : s.Logged) (at_i : s.handlers[i]? = some h)
    {h' : Handler} (mute : h.Mute h') (nodes : s'.nodes = s.nodes)
    (handlers : s'.handlers = s.handlers.set i h') (log : s'.log = s.log) : s'.Logged :=
  hl.shift at_i (hl.tables.congr nodes (holds_update at_i handlers mute.holds)) handlers log
    mute.told mute.placed

theorem Logged.unborn (hl : s.Logged) (at_i : s.handlers[i]? = some h) {h' : Handler}
    (before : h.phase.unborn) (after : h'.phase.unborn) : (s.setHandler i h').Logged :=
  hl.mute at_i (Handler.Mute.unborn (Phase.unborn_facts before) (Phase.unborn_facts after))
    rfl rfl rfl

theorem Logged.say (hl : s.Logged) (hs : s.Shaped) (bound : s.allocated < 2 ^ 63)
    (at_i : s.handlers[i]? = some h) (live : h.phase.live) {n : Nat} {node : Node}
    (hn : h.node = some n) (at_n : s.nodes[n]? = some node) {h' : Handler} {m : Message}
    (node_same : h'.node = h.node) (serial : h'.serial = h.serial)
    (listed : h'.phase.listed = h.phase.listed) (told : h'.told = h.told ++ [m])
    (addr : m.addr = h.addr) (flag : h.phase.listed = !m.isDisconnect) :
    ((s.deliver n i m).setHandler i h').Logged := by
  have numbered := hs.serial_of_began at_i (Phase.began_of_live live)
  have up := hs.live h (List.mem_of_getElem? at_i) live n node hn at_n
  have any := hl.holds_addr hs bound at_i hn at_n numbered
  have addr_same : h'.addr = h.addr := by simp only [Handler.addr, serial]
  refine hl.record at_i ?_ (by simp) (deliver_log_of_open s at_n up)
    (fun _ => ⟨node_same, addr_same⟩)
    (by simp [told]) ?_
  · exact hl.tables.congr (by simp)
      (holds_update at_i (by simp) (Handler.holdsAt_iff node_same serial listed))
  · intro d mem
    rw [List.mem_singleton.mp mem]
    exact ⟨rfl, node_same.trans hn, addr.trans addr_same.symm, by rw [addr, any, flag]⟩

theorem Tabled.move {s' : Server} {n : Nat} {node node' : Node} {h' : Handler}
    (nodes : s'.nodes = s.nodes.set n node') (handlers : s'.handlers = s.handlers.set i h')
    (hl : s.Logged) (hs : s.Shaped) (bound : s.allocated < 2 ^ 63)
    (at_i : s.handlers[i]? = some h) (hn : h.node = some n) (at_n : s.nodes[n]? = some node)
    (numbered : h.serial.isSome) (node_same : h'.node = h.node) (serial : h'.serial = h.serial)
    (table : ∀ a j, (a, j) ∈ node'.table ↔
      (a, j) ∈ node.table ∧ a ≠ h.addr ∨ a = h.addr ∧ j = i ∧ h'.phase.listed) :
    s'.Tabled := by
  have addr_same : h'.addr = h.addr := by simp only [Handler.addr, serial]
  -- another handler holds where it held; handler `i` holds as `h'`
  have holds :
      ∀ m a j, s'.Holds m a j ↔ j ≠ i ∧ s.Holds m a j ∨ j = i ∧ h'.HoldsAt m a := by
    intro m a j
    simp only [Holds, handlers]
    by_cases here : j = i
    · subst here
      simp [getElem?_set_at at_i]
    · simp [List.getElem?_set_ne (Ne.symm here), here]
  intro m nd at_m a j
  rw [holds]
  rw [nodes] at at_m
  rcases getElem?_set_cases at_m with ⟨same, rfl⟩ | ⟨other, old⟩
  · subst same
    rw [table, hl.tables m node at_n a j]
    constructor
    · rintro (⟨held, fresh⟩ | ⟨ha, hj, listed⟩)
      · -- an entry that stays is not handler `i`'s, whose address it does not carry
        refine .inl ⟨fun same => ?_, held⟩
        obtain ⟨x, at_x, -, -, hx⟩ := held
        rw [same, at_i] at at_x
        exact fresh (hx.symm.trans (by rw [Option.some.inj at_x]))
      · exact .inr ⟨hj, node_same.trans hn, listed, addr_same.trans ha.symm⟩
    · rintro (⟨other, held⟩ | ⟨rfl, -, listed, ha⟩)
      · refine .inl ⟨held, fun same => other ?_⟩
        obtain ⟨x, at_x, -, listed_x, ha⟩ := held
        exact hs.addr_apart bound at_x at_i (hs.serial_of_began at_x (.inl listed_x)) numbered
          (ha.trans same)
      · exact .inr ⟨by rw [← ha, addr_same], rfl, listed⟩
  · rw [hl.tables m nd old a j]
    -- elsewhere handler `i` held nothing and holds nothing
    have away : ∀ x : Handler, x.node = h.node → ¬x.HoldsAt m a := by
      intro x hx holds
      exact other (Option.some.inj (holds.1.symm.trans (hx.trans hn)))
    constructor
    · intro held
      by_cases here : j = i
      · obtain ⟨x, at_x, holds⟩ := held
        rw [here, at_i] at at_x
        exact absurd holds (away x (by rw [← Option.some.inj at_x]))
      · exact .inl ⟨here, held⟩
    · rintro (⟨-, held⟩ | ⟨-, holds⟩)
      · exact held
      · exact absurd holds (away h' node_same)

theorem Logged.setNode {s' : Server} (hl : s.Logged) {n : Nat} {node node' : Node}
    (nodes : s'.nodes = s.nodes.set n node') (handlers : s'.handlers = s.handlers)
    (log : s'.log = s.log) (at_n : s.nodes[n]? = some node) (table : node'.table = node.table) :
    s'.Logged where
  tables := by
    intro m nd at_m a j
    have holds : s'.Holds = s.Holds := by
      funext m a j
      simp [Holds, handlers]
    rw [holds]
    rw [nodes] at at_m
    rcases getElem?_set_cases at_m with ⟨same, rfl⟩ | ⟨-, old⟩
    · rw [table, same]
      exact hl.tables n node at_n a j
    · exact hl.tables m nd old a j
  told := by simpa only [handlers, log] using hl.told
  placed := by simpa only [handlers, log] using hl.placed

end Steps

/-! #### Every step keeps the log -/

section Actions

variable {i : Nat} {h : Handler}

theorem Shaped.unwritten (hs : s.Shaped) (at_i : s.handlers[i]? = some h)
    (early : h.phase = .arrived ∨ h.phase = .routed ∨ h.phase = .upgrading ∨
      h.phase = .allocating ∨ h.phase = .joining) : h.writer.final = none := by
  have shape := hs.shape_at at_i
  rcases early with hp | hp | hp | hp | hp <;> simp only [Handler.Shape, hp] at shape <;>
    exact shape.2.2.2.2.2.2

theorem Logged.route (hl : s.Logged) (hs : s.Shaped) (at_i : s.handlers[i]? = some h)
    (hp : h.phase = .arrived) : (s.route i h).Logged := by
  have unwritten := hs.unwritten at_i (.inl hp)
  have before : h.phase.unborn := by simp [hp, Phase.unborn]
  unfold Server.route
  split
  · exact hl.unborn at_i before (Handler.refuse_unborn _ unwritten)
  · split
    · exact hl.unborn at_i before (Handler.routeTo_unborn unwritten _ _)
    · exact hl

theorem Logged.allocate (hl : s.Logged) (at_i : s.handlers[i]? = some h)
    (hp : h.phase = .allocating) : (s.allocate i h).Logged :=
  hl.mute at_i (Handler.Mute.unborn (Phase.unborn_facts (by simp [hp, Phase.unborn]))
    (Phase.unborn_facts rfl)) rfl rfl rfl

theorem Logged.join (hl : s.Logged) (hs : s.Shaped) (bound : s.allocated < 2 ^ 63)
    (at_i : s.handlers[i]? = some h) (hp : h.phase = .joining) {n : Nat} {node : Node}
    (hn : h.node = some n) (at_n : s.nodes[n]? = some node) : (s.join i h n node).Logged := by
  have unwritten := hs.unwritten at_i (.inr (.inr (.inr (.inr hp))))
  have before : h.phase.unborn := by simp [hp, Phase.unborn]
  unfold Server.join
  split
  · exact hl.unborn at_i before (Handler.refuse_unborn _ unwritten)
  · next g grouped =>
    have numbered : h.serial.isSome := by
      have shape := hs.shape_at at_i
      simp only [Handler.Shape, hp] at shape
      exact shape.2.1
    refine hl.shift at_i ?_ rfl rfl ?_ (by simp [hp, Phase.greeted])
    · refine Tabled.move (modify_eq_set_of _ at_n) rfl hl hs bound at_i hn at_n numbered rfl rfl ?_
      intro a j
      simp [Node.enter, Phase.listed]
    · rw [Handler.told_of_unseen rfl, Handler.told_of_unseen (by simp [hp, Phase.greeted])]

theorem Logged.greet (hl : s.Logged) (hs : s.Shaped) (bound : s.allocated < 2 ^ 63)
    (at_i : s.handlers[i]? = some h) (hp : h.phase = .greeting) {n : Nat} {node : Node}
    (hn : h.node = some n) (at_n : s.nodes[n]? = some node) : (s.greet i h n node).Logged := by
  have unsent : h.sent = [] := by
    have shape := hs.shape_at at_i
    simp only [Handler.Shape, hp] at shape
    exact shape.2.2.1
  obtain ⟨node_same, serial, listed⟩ := Handler.greeted_talks (h := h) node
  refine hl.say hs bound at_i (by simp [hp, Phase.live]) hn at_n node_same serial ?_
    (Handler.greeted_told hp unsent node) (Message.addr_connect _ _) (by simp [hp, Phase.listed])
  rw [listed, hp]
  rfl

theorem Logged.sendPiece (hl : s.Logged) (hs : s.Shaped) (bound : s.allocated < 2 ^ 63)
    (at_i : s.handlers[i]? = some h) (live : h.phase.live) (talking : h.phase.talking)
    {n : Nat} {node : Node} (hn : h.node = some n) (at_n : s.nodes[n]? = some node)
    {h' : Handler} (p : ByteArray) (node_same : h'.node = h.node) (serial : h'.serial = h.serial)
    (request : h'.request = h.request) (sent : h'.sent = h.sent ++ [p])
    (still : h'.phase.talking) :
    ((s.deliver n i (Message.data h.addr p)).setHandler i h').Logged := by
  have before := Phase.talking_facts talking
  have after := Phase.talking_facts still
  exact hl.say hs bound at_i live hn at_n node_same serial (by rw [after.2.1, before.2.1])
    (Handler.told_sent before.1 after.1 before.2.2 after.2.2 serial request sent)
    (Message.addr_data _ _) (by simp [before.2.1])

theorem Logged.talk (hl : s.Logged) (at_i : s.handlers[i]? = some h) {h' : Handler}
    (talks : h.Talks h') : (s.setHandler i h').Logged :=
  hl.mute at_i talks.mute rfl rfl rfl

theorem Logged.feed (hl : s.Logged) (hs : s.Shaped) (bound : s.allocated < 2 ^ 63)
    (at_i : s.handlers[i]? = some h) {chunk : Nat} {rest : List UInt8} {sent : Bool}
    (hp : h.phase = .feeding chunk rest sent) {n : Nat} {node : Node} (hn : h.node = some n)
    (at_n : s.nodes[n]? = some node) : (s.feed i h n chunk rest sent).Logged := by
  have talking : h.phase.talking := by simp [hp, Phase.talking]
  have live : h.phase.live := by simp [hp, Phase.live]
  unfold Server.feed
  split
  · split
    · exact hl.talk at_i ⟨rfl, rfl, rfl, rfl, .inr ⟨talking, rfl⟩⟩
    · split_ifs
      · exact hl.talk at_i ⟨rfl, rfl, rfl, rfl, .inr ⟨talking, rfl⟩⟩
      · refine hl.sendPiece hs bound at_i live talking hn at_n _ ?_ ?_ ?_ ?_ ?_ <;> rfl
  · dsimp only
    refine hl.sendPiece hs bound at_i live talking hn at_n _ ?_ ?_ ?_ ?_ ?_ <;> rfl

theorem Logged.leave (hl : s.Logged) (hs : s.Shaped) (bound : s.allocated < 2 ^ 63)
    (at_i : s.handlers[i]? = some h) {d : Disconnect} (hp : h.phase = .leaving d) {n : Nat}
    {node : Node} (hn : h.node = some n) (at_n : s.nodes[n]? = some node) :
    (s.leave i h n d).Logged := by
  have numbered := hs.serial_of_began at_i (.inl (by simp [hp, Phase.listed]))
  refine hl.shift at_i ?_ rfl rfl ?_ (fun _ => ⟨rfl, rfl⟩)
  · refine Tabled.move (modify_eq_set_of _ at_n) rfl hl hs bound at_i hn at_n numbered rfl rfl ?_
    intro a j
    simp [Node.drop, Phase.listed]
  · simp [Handler.told, hp, Phase.greeted, Phase.farewell, Handler.addr]

theorem Logged.hangUp (hl : s.Logged) (hs : s.Shaped) (bound : s.allocated < 2 ^ 63)
    (at_i : s.handlers[i]? = some h) {d : Disconnect} (hp : h.phase = .ending d) {n : Nat}
    {node : Node} (hn : h.node = some n) (at_n : s.nodes[n]? = some node) :
    (s.hangUp i h n d).Logged :=
  by
  refine hl.say hs bound at_i (by simp [hp, Phase.live]) hn at_n ?_ ?_ ?_ (Handler.told_finished hp)
    (Message.addr_disconnect _ _) (by simp [hp, Phase.listed])
  · rfl
  · rfl
  · rw [hp]
    rfl

theorem Logged.advance (hl : s.Logged) (hs : s.Shaped) (bound : s.allocated < 2 ^ 63)
    (at_i : s.handlers[i]? = some h) : (s.advance i h).Logged := by
  unfold Server.advance
  split
  · next hp => exact hl.route hs at_i hp
  · next hp =>
    have unwritten := hs.unwritten at_i (.inr (.inl hp))
    exact onNode_cases hl fun _ node _ _ =>
      hl.unborn at_i (by simp [hp, Phase.unborn]) (Handler.check_unborn unwritten node)
  · next hp => exact hl.allocate at_i hp
  · next hp => exact onNode_cases hl fun _ _ hn at_n => hl.join hs bound at_i hp hn at_n
  · next hp => exact onNode_cases hl fun _ _ hn at_n => hl.greet hs bound at_i hp hn at_n
  · next hp => exact onNode_cases hl fun _ _ hn at_n => hl.feed hs bound at_i hp hn at_n
  · next hp => exact onNode_cases hl fun _ _ hn at_n => hl.leave hs bound at_i hp hn at_n
  · next hp => exact onNode_cases hl fun _ _ hn at_n => hl.hangUp hs bound at_i hp hn at_n
  · exact hl

theorem Logged.readFrame (hl : s.Logged) (hs : s.Shaped) (bound : s.allocated < 2 ^ 63)
    (at_i : s.handlers[i]? = some h) (data : ByteArray) : (s.readFrame i h data).Logged := by
  unfold Server.readFrame
  split
  · next hp =>
    refine onNode_cases hl fun n node hn at_n => ?_
    split_ifs
    · exact hl.talk at_i ⟨rfl, rfl, rfl, rfl, .inl rfl⟩
    · refine hl.sendPiece hs bound at_i (by simp [hp, Phase.live]) (by simp [hp, Phase.talking]) hn
        at_n _ ?_ ?_ ?_ ?_ ?_ <;> first | rfl | simp [hp, Phase.talking]
  · exact hl

theorem Logged.post (hl : s.Logged) (n : Nat) (m : Message) : (s.post n m).Logged := by
  unfold Server.post
  split
  · split_ifs
    · split
      · split
        · next j _ x at_j =>
          split_ifs
          · exact hl.talk at_j ⟨rfl, rfl, rfl, rfl, .inl rfl⟩
          · exact hl
        · exact hl
      · exact hl
    · exact hl
  · exact hl

theorem Logged.openNode (hl : s.Logged) (n : Nat) (o : Options) : (s.openNode n o).Logged := by
  unfold Server.openNode
  split
  · next node at_n =>
    split_ifs
    · split
      · exact hl.setNode rfl rfl rfl at_n rfl
      · dsimp only
        split
        · exact hl.setNode rfl rfl rfl at_n rfl
        · exact hl.setNode rfl rfl rfl at_n rfl
    · exact hl
  · exact hl

theorem Logged.closeNode (hl : s.Logged) (n : Nat) : (s.closeNode n).Logged := by
  unfold Server.closeNode
  split
  · next node at_n =>
    split_ifs
    · exact hl
    · exact hl.setNode rfl rfl rfl at_n rfl
  · exact hl

theorem Logged.finishClose (hl : s.Logged) (n : Nat) : (s.finishClose n).Logged := by
  unfold Server.finishClose
  split
  · next node at_n =>
    split_ifs
    · exact hl.setNode rfl rfl rfl at_n rfl
    · exact hl
  · exact hl

theorem Logged.arrive (hl : s.Logged) (r : Inbound) : (s.step (.arrive r)).Logged := by
  have unnamed : ∀ d ∈ s.log, d.handler ≠ s.handlers.length := by
    intro d mem same
    obtain ⟨y, at_d, -⟩ := hl.placed d mem
    rw [same, List.getElem?_eq_none le_rfl] at at_d
    cases at_d
  refine ⟨?_, ?_, ?_⟩
  · refine hl.tables.congr rfl ?_
    funext n a j
    apply propext
    simp only [Holds, step]
    constructor
    · rintro ⟨y, at_y, holds⟩
      rcases getElem?_concat_cases at_y with old | ⟨-, rfl⟩
      · exact ⟨y, old, holds⟩
      · exact absurd holds (Handler.holdsAt_of_unlisted rfl n a)
    · rintro ⟨y, at_y, holds⟩
      exact ⟨y, getElem?_concat_of at_y _, holds⟩
  · intro j y at_y
    simp only [step] at at_y ⊢
    rcases getElem?_concat_cases at_y with old | ⟨rfl, rfl⟩
    · exact hl.told j y old
    · rw [Handler.told_of_unseen rfl]
      simpa using fun d mem same => unnamed d mem (beq_iff_eq.mp same)
  · intro d mem
    obtain ⟨y, at_d, rest⟩ := hl.placed d mem
    exact ⟨y, getElem?_concat_of at_d _, rest⟩

end Actions

theorem allocated_le_step (e : ServerEvent) : s.allocated ≤ (s.step e).allocated := by
  cases e <;> simp only [step, onHandler, onNode, advance, route, turnAway, allocate, join, greet,
    feed, leave, hangUp, readFrame, stopSession, post, openNode, closeNode, finishClose, setHandler,
    modifyNode] <;> (repeat' split) <;> simp

theorem allocated_le_run (es : List ServerEvent) : s.allocated ≤ (s.run es).allocated := by
  induction es generalizing s with
  | nil => exact le_rfl
  | cons e es ih => exact (allocated_le_step e).trans ih

theorem Logged.step (hl : s.Logged) (hs : s.Shaped) (e : ServerEvent)
    (bound : (s.step e).allocated < 2 ^ 63) : (s.step e).Logged := by
  replace bound : s.allocated < 2 ^ 63 := lt_of_le_of_lt (allocated_le_step e) bound
  cases e with
  | arrive r => exact hl.arrive r
  | step i => exact onHandler_cases hl fun h at_i => hl.advance hs bound at_i
  | upgrade i ok =>
    refine onHandler_cases hl fun h at_i => ?_
    split
    · next hp =>
      have unwritten := hs.unwritten at_i (.inr (.inr (.inl hp)))
      have before : h.phase.unborn := by simp [hp, Phase.unborn]
      split_ifs
      · exact hl.unborn at_i before rfl
      · exact hl.unborn at_i before (Handler.refuse_unborn _ unwritten)
    · exact hl
  | take i => exact onHandler_cases hl fun h at_i => hl.talk at_i (Handler.takeReply_talks h)
  | gone i => exact onHandler_cases hl fun h at_i => hl.talk at_i (Handler.turned_talks h _ _)
  | notice i =>
    refine onHandler_cases hl fun h at_i => ?_
    split_ifs
    · exact hl.talk at_i (Handler.turned_talks h _ _)
    · exact hl
  | frame i data => exact onHandler_cases hl fun h at_i => hl.readFrame hs bound at_i data
  | hangUp i e => exact onHandler_cases hl fun h at_i => hl.talk at_i (Handler.endRead_talks h e)
  | stop i =>
    refine onHandler_cases hl fun h at_i => onNode_cases hl fun _ _ _ _ => ?_
    split_ifs
    · exact hl.talk at_i ⟨rfl, rfl, rfl, rfl, .inl rfl⟩
    · exact hl
  | post n m => exact hl.post n m
  | «open» n o => exact hl.openNode n o
  | close n => exact hl.closeNode n
  | closed n => exact hl.finishClose n

theorem Logged.run (hl : s.Logged) (hs : s.Shaped) (es : List ServerEvent)
    (bound : (s.run es).allocated < 2 ^ 63) : (s.run es).Logged := by
  induction es generalizing s with
  | nil => exact hl
  | cons e es ih =>
    exact ih (hl.step hs e (lt_of_le_of_lt (allocated_le_run es) bound)) (hs.step e) bound

theorem logged_run (logger : Logger) (nodes : List (NodeKind × String)) (es : List ServerEvent)
    (bound : ((start logger nodes).run es).allocated < 2 ^ 63) :
    ((start logger nodes).run es).Logged :=
  (logged_start logger nodes).run (shaped_start logger nodes) es bound

/-! ### A request that returned rests -/

section Rest

variable {i : Nat} {x : Handler}

theorem advance_frame {j : Nat} (ne : j ≠ i) (y : Handler) :
    (s.advance j y).handlers[i]? = s.handlers[i]? := by
  unfold advance
  split <;> simp only [route, turnAway, onNode, join, greet, feed, leave, hangUp, allocate,
    setHandler] <;> (repeat' split) <;> simp [List.getElem?_set_ne ne]

theorem onHandler_frame {j : Nat} {f : Handler → Server}
    (hf : ∀ y, s.handlers[j]? = some y → (f y).handlers[i]? = s.handlers[i]?) :
    (s.onHandler j f).handlers[i]? = s.handlers[i]? :=
  onHandler_cases (P := fun s' => s'.handlers[i]? = s.handlers[i]?) rfl hf

theorem advance_of_returned (back : x.returned) : s.advance i x = s := by
  -- the phases of a returned handler are those that `advance` leaves alone
  cases hp : x.phase <;> simp [Handler.returned, hp] at back <;> simp [advance, hp]

theorem ne_of_returned (at_i : s.handlers[i]? = some x) (back : x.returned) {j : Nat}
    {y : Handler} (at_j : s.handlers[j]? = some y) (live : y.returned = false) : j ≠ i := by
  rintro rfl
  rw [at_i, Option.some.injEq] at at_j
  subst at_j
  simp [live] at back

theorem setHandler_rests (at_i : s.handlers[i]? = some x) {j : Nat} {f : Handler → Handler}
    (fixed : f x = x) : (s.onHandler j fun y => s.setHandler j (f y)).handlers[i]? =
      s.handlers[i]? := by
  by_cases here : j = i
  · subst here
    simp [onHandler, setHandler, at_i, fixed, getElem?_set_at at_i]
  · exact onHandler_frame fun y _ => by simp [setHandler, List.getElem?_set_ne here]

theorem rests_step (at_i : s.handlers[i]? = some x) (back : x.returned) (e : ServerEvent) :
    ∃ y, (s.step e).handlers[i]? = some y ∧ x.Rests y := by
  have still : (s.step e).handlers[i]? = s.handlers[i]? → ∃ y, (s.step e).handlers[i]? = some y ∧
      x.Rests y := fun same => ⟨x, same.trans at_i, .refl x⟩
  -- the same handler after setting it to itself
  have self : (s.handlers.set i x)[i]? = some x := getElem?_set_at at_i x
  cases e with
  | arrive r => exact ⟨x, getElem?_concat_of at_i _, .refl x⟩
  | step j =>
    by_cases here : j = i
    · subst here
      exact still (by simp [step, onHandler, at_i, advance_of_returned back])
    · exact still (onHandler_frame fun y _ => advance_frame here y)
  | upgrade j ok =>
    refine still (onHandler_frame fun y at_j => ?_)
    split
    · next hp =>
      have here := ne_of_returned at_i back at_j (by simp [Handler.returned, hp])
      split_ifs <;> simp [turnAway, List.getElem?_set_ne here]
    · rfl
  | take j => exact still (setHandler_rests at_i (Handler.takeReply_of_returned back))
  | gone j => exact still (setHandler_rests at_i (Handler.turned_of_returned back _ _))
  | notice j =>
    by_cases here : j = i
    · subst here
      refine still ?_
      simp only [step, onHandler, at_i, Handler.turned_of_returned back]
      split_ifs
      · exact self
      · exact at_i
    · refine still (onHandler_frame fun y _ => ?_)
      split_ifs <;> simp [List.getElem?_set_ne here]
  | frame j data =>
    refine still (onHandler_frame fun y at_j => ?_)
    unfold readFrame
    split
    · next hp =>
      have here := ne_of_returned at_i back at_j (by simp [Handler.returned, hp])
      refine onNode_cases (P := fun s' => s'.handlers[i]? = s.handlers[i]?) rfl fun _ _ _ _ => ?_
      split_ifs <;> simp [List.getElem?_set_ne here]
    · rfl
  | hangUp j e => exact still (setHandler_rests at_i (Handler.endRead_of_returned back e))
  | stop j =>
    by_cases here : j = i
    · subst here
      simp only [step, onHandler, at_i, stopSession]
      refine onNode_cases (P := fun s' => ∃ y, s'.handlers[j]? = some y ∧ x.Rests y)
        ⟨x, at_i, .refl x⟩ fun _ _ _ _ => ?_
      split_ifs
      · exact ⟨_, getElem?_set_at at_i _, true, x.queue, rfl⟩
      · exact ⟨x, at_i, .refl x⟩
    · refine still (onHandler_frame fun y _ => ?_)
      refine onNode_cases (P := fun s' => s'.handlers[i]? = s.handlers[i]?) rfl fun _ _ _ _ => ?_
      split_ifs <;> simp [List.getElem?_set_ne here]
  | post n m =>
    -- a reply may be queued for it
    simp only [step, post]
    split
    · split_ifs
      · split
        · next j _ =>
          split
          · next y at_j =>
            split_ifs
            · by_cases here : j = i
              · subst here
                rw [at_i] at at_j
                cases at_j
                exact ⟨_, getElem?_set_at at_i _, x.stopping, x.queue ++ [m], rfl⟩
              · exact ⟨x, by simp [List.getElem?_set_ne here, at_i], .refl x⟩
            · exact ⟨x, at_i, .refl x⟩
          · exact ⟨x, at_i, .refl x⟩
        · exact ⟨x, at_i, .refl x⟩
      · exact ⟨x, at_i, .refl x⟩
    · exact ⟨x, at_i, .refl x⟩
  | «open» n o =>
    refine still ?_
    simp only [step, openNode]
    split
    · split_ifs
      · split
        · rfl
        · split <;> rfl
      · rfl
    · rfl
  | close n =>
    refine still ?_
    simp only [step, closeNode]
    split
    · split_ifs <;> rfl
    · rfl
  | closed n =>
    refine still ?_
    simp only [step, finishClose]
    split
    · split_ifs <;> rfl
    · rfl

theorem rests_run (at_i : s.handlers[i]? = some x) (back : x.returned) (es : List ServerEvent) :
    ∃ y, (s.run es).handlers[i]? = some y ∧ x.Rests y := by
  induction es generalizing s x with
  | nil => exact ⟨x, at_i, .refl x⟩
  | cons e es ih =>
    obtain ⟨y, at_y, first⟩ := rests_step at_i back e
    obtain ⟨z, at_z, next⟩ := ih at_y (first.returned.trans back)
    exact ⟨z, at_z, first.trans next⟩

end Rest

/-! ### What a run says of each request -/

/-- What the log and the tables of a listening channel say of request `i`, handled by `h`. -/
structure Accounted (s : Server) (i : Nat) (h : Handler) : Prop where
  /-- Its record has the shape of its phase. -/
  shape : h.Shape (s.kindOf h)
  /-- What it delivered, in order, is what it told: nothing before its loop started, so nothing
  at all when it was turned away. -/
  delivered : (s.log.filter (·.handler == i)).map (·.message) = h.told
  /-- Once its loop started it is served by its node, under a positive address that no other session
  that began holds. -/
  served : h.phase.greeted → ∃ n, h.node = some n ∧ 0 < h.addr ∧
    (∀ j x, s.handlers[j]? = some x → j ≠ i → x.phase.listed ∨ x.phase.greeted →
      x.addr ≠ h.addr) ∧
    s.heard n h.addr = h.told ∧
    ∀ d ∈ s.log, d.handler = i → d.node = n ∧ d.listed = !d.message.isDisconnect
  /-- Its node's table holds its address exactly while it is listed: from its join to its leave,
  and for good once its exchange panicked. -/
  tabled : ∀ n node, h.node = some n → s.nodes[n]? = some node →
    ((h.addr, i) ∈ node.table ↔ h.phase.listed)
  /-- Once it returned, finished, turned away or panicked, no later event changes more of it than
  its stop flag and its reply queue: what it told stays what it told. -/
  rests : h.returned → ∀ es, ∃ y, (s.run es).handlers[i]? = some y ∧ h.Rests y

section Accounting

variable {i : Nat} {h : Handler}

theorem Shaped.node_of_greeted (hs : s.Shaped) (at_i : s.handlers[i]? = some h)
    (greeted : h.phase.greeted) : ∃ n, h.node = some n := by
  have routed : (s.kindOf h).isSome := by
    have shape := hs.shape_at at_i
    cases hp : h.phase <;> simp only [Handler.Shape, hp] at shape <;>
      simp [hp, Phase.greeted] at greeted
    all_goals first
      | simp [shape.1]
      | (obtain ⟨_, same, _⟩ := shape; simp [same])
  cases hn : h.node with
  | none => simp [kindOf, hn] at routed
  | some n => exact ⟨n, rfl⟩

theorem Shaped.addr_pos (hs : s.Shaped) (bound : s.allocated < 2 ^ 63)
    (at_i : s.handlers[i]? = some h) (numbered : h.serial.isSome) : 0 < h.addr := by
  obtain ⟨k, hk⟩ := Option.isSome_iff_exists.mp numbered
  have kb := hs.numbered h (List.mem_of_getElem? at_i) k hk
  rw [Handler.addr, hk, Option.getD_some, address_of_lt (by omega)]
  exact_mod_cast kb.1

theorem Logged.heard_addr (hl : s.Logged) (hs : s.Shaped) (bound : s.allocated < 2 ^ 63)
    (at_i : s.handlers[i]? = some h) {n : Nat} (hn : h.node = some n)
    (numbered : h.serial.isSome) : s.heard n h.addr = h.told := by
  rw [← hl.told i h at_i, heard]
  congr 1
  apply List.filter_congr
  intro d mem
  obtain ⟨x, at_d, hx, ha, -⟩ := hl.placed d mem
  by_cases here : d.handler = i
  · rw [here, at_i] at at_d
    cases at_d
    have : d.node = n := Option.some.inj (hx.symm.trans hn)
    simp [this, ha, here]
  · -- another handler's delivery carries another address
    have greeted := hl.greeted_of_mem at_d mem rfl
    have other : (x.addr == h.addr) = false := by
      simpa using fun same =>
        here (hs.addr_apart bound at_d at_i (hs.serial_of_began at_d (.inr greeted)) numbered same)
    have mine : (d.handler == i) = false := by simpa using here
    rw [ha, other, mine, Bool.and_false]

theorem Shaped.accounted (hs : s.Shaped) (hl : s.Logged) (bound : s.allocated < 2 ^ 63)
    (at_i : s.handlers[i]? = some h) : s.Accounted i h where
  shape := hs.shape_at at_i
  delivered := hl.told i h at_i
  served := by
    intro greeted
    obtain ⟨n, hn⟩ := hs.node_of_greeted at_i greeted
    have numbered := hs.serial_of_began at_i (.inr greeted)
    refine ⟨n, hn, hs.addr_pos bound at_i numbered, ?_, hl.heard_addr hs bound at_i hn numbered, ?_⟩
    · intro j x at_j other began same
      exact other (hs.addr_apart bound at_j at_i (hs.serial_of_began at_j began) numbered same)
    · intro d mem by_i
      obtain ⟨x, at_d, hx, -, flag⟩ := hl.placed d mem
      rw [by_i, at_i] at at_d
      cases at_d
      exact ⟨Option.some.inj (hx.symm.trans hn), flag⟩
  tabled := by
    intro n node hn at_n
    rw [hl.tables n node at_n]
    constructor
    · rintro ⟨x, at_x, -, listed, -⟩
      rw [at_i] at at_x
      cases at_x
      exact listed
    · intro listed
      exact ⟨h, at_i, hn, listed, rfl⟩
  rests back es := rests_run at_i back es

end Accounting

/-- Every request a listening channel took is accounted for by the log and the tables, at every
point of every run under 2^63 addresses. -/
theorem request_transcripts (logger : Logger) (nodes : List (NodeKind × String))
    (es : List ServerEvent) (bound : ((start logger nodes).run es).allocated < 2 ^ 63) {i : Nat}
    {h : Handler} (at_i : ((start logger nodes).run es).handlers[i]? = some h) :
    ((start logger nodes).run es).Accounted i h :=
  (shaped_run logger nodes es).accounted (logged_run logger nodes es bound) bound at_i

/-- A plain request to `/t`, with an empty body. -/
def plainRequest : Inbound :=
  { method := "GET", path := "/t", target := "/t", header := ⟨[]⟩, length := 0, upgrade := false,
    body := [], fault := none }

/-- The node opens; the request is routed, numbered, joins and delivers its Connect and its
empty Data; the sub answers with a Connect of code 42, then a Data. -/
def badStatusEvents : List ServerEvent :=
  [.open 0 ⟨[]⟩, .arrive plainRequest, .step 0, .step 0, .step 0, .step 0, .step 0, .step 0,
    .post 0 (Message.connect 1 { code := 42 }), .take 0,
    .post 0 (Message.data 1 ByteArray.empty), .take 0]

/-- The Data that settles an exchange whose chosen status is 42 panics it: the sub has heard its
Connect and its Data on address 1, and no Disconnect will follow. -/
theorem bad_status_leaves_no_disconnect :
    ((start {} [(.http, "/t")]).run badStatusEvents).allocated < 2 ^ 63 ∧
      ∃ h, ((start {} [(.http, "/t")]).run badStatusEvents).handlers[0]? = some h ∧
        h.phase = .panicked (Http.invalidCode 42) ∧
        ((start {} [(.http, "/t")]).run badStatusEvents).Accounted 0 h := by
  have bound : ((start {} [(.http, "/t")]).run badStatusEvents).allocated < 2 ^ 63 := by
    decide +kernel
  have phase : (((start {} [(.http, "/t")]).run badStatusEvents).handlers[0]?).map (·.phase) =
      some (.panicked (Http.invalidCode 42)) := by
    decide +kernel
  obtain ⟨h, at0, hp⟩ := Option.map_eq_some_iff.mp phase
  exact ⟨bound, h, at0, hp, request_transcripts {} [(.http, "/t")] badStatusEvents bound at0⟩

end Server

end ChannelMux.Socket
