import ChannelMux.Socket.Sessions
import ChannelMux.Proofs.SlotCeiling

/-! Posting on a socket node, over every run. -/

namespace ChannelMux.Socket

theorem mem_eraseIdx_of_nodup {α : Type} {l : List α} {j : Nat} {x y : α} (apart : l.Nodup)
    (at_j : l[j]? = some x) : y ∈ l.eraseIdx j ↔ y ∈ l ∧ y ≠ x := by
  constructor
  · intro mem
    obtain ⟨k, ne, at_k⟩ := List.mem_eraseIdx_iff_getElem?.1 mem
    refine ⟨List.mem_of_mem_eraseIdx mem, fun same => ne ?_⟩
    have lt := (List.getElem?_eq_some_iff.1 at_k).1
    exact (List.getElem?_inj lt apart).1 (by rw [at_k, at_j, same])
  · rintro ⟨mem, ne⟩
    obtain ⟨k, at_k⟩ := List.mem_iff_getElem?.1 mem
    refine List.mem_eraseIdx_iff_getElem?.2 ⟨k, fun same => ne ?_, at_k⟩
    subst same
    exact Option.some.inj (at_k.symm.trans at_j)

/-! ### One session -/

namespace Session

variable {publish : Bool} {logger : Logger}

/-- What holds of every session of a node at every moment. -/
structure Sound (publish : Bool) (logger : Logger) (s : Session) : Prop where
  /-- On a publishing node the data frames written and the backlog are the payloads queued. -/
  fifo : publish = true → s.dataWrites ++ s.backlog = s.queued
  /-- On a publishing node the writer runs until the session shuts down. -/
  writer : publish = true → s.writing = false → s.stopping = true
  overflowed : ∀ a ∈ s.arrivals, a.outcome ≠ .queued → s.stopping = true
  /-- A shutdown a broadcast started has the full backlog as its reason. -/
  started : ∀ a ∈ s.arrivals, a.outcome = .overflowed true → s.reason = some (s.backlogFull logger)

@[simp] theorem stop_arrivals (s : Session) (r : Option Failure) : (s.stop r).arrivals = s.arrivals := by
  unfold stop; split <;> rfl

@[simp] theorem stop_addr (s : Session) (r : Option Failure) : (s.stop r).addr = s.addr := by
  unfold stop; split <;> rfl

@[simp] theorem stop_backlog (s : Session) (r : Option Failure) : (s.stop r).backlog = s.backlog := by
  unfold stop; split <;> rfl

@[simp] theorem stop_writes (s : Session) (r : Option Failure) : (s.stop r).writes = s.writes := by
  unfold stop; split <;> rfl

@[simp] theorem stop_writing (s : Session) (r : Option Failure) : (s.stop r).writing = s.writing := by
  unfold stop; split <;> rfl

@[simp] theorem stop_stopping (s : Session) (r : Option Failure) : (s.stop r).stopping = true := by
  unfold stop; split <;> simp_all

theorem stop_reason (s : Session) (r : Option Failure) :
    (s.stop r).reason = if s.stopping then s.reason else r := by
  unfold stop; split <;> simp_all

@[simp] theorem backlogFull_stop (s : Session) (r : Option Failure) :
    (s.stop r).backlogFull logger = s.backlogFull logger := by
  simp [backlogFull]

theorem Sound.stop {s : Session} (h : s.Sound publish logger) (r : Option Failure) :
    (s.stop r).Sound publish logger := by
  refine ⟨?_, fun _ _ => stop_stopping s r, fun _ _ _ => stop_stopping s r, ?_⟩
  · intro on
    simpa [dataWrites, queued] using h.fifo on
  · -- a broadcast that started the shutdown left the session stopping, so the reason stays
    intro a mem started
    rw [stop_arrivals] at mem
    rw [stop_reason, if_pos (h.overflowed a mem (by simp [started])), backlogFull_stop]
    exact h.started a mem started

theorem Sound.post {s : Session} (h : s.Sound publish logger) {m : Message} {n : Nat}
    (fault : Option String) (direct : publish = true → m.kind ≠ .data) :
    (s.post (if publish then some n else none) logger m fault).2.Sound publish logger := by
  unfold Session.post
  split
  · next data =>
    -- on a plain node the payload is written at once; nothing a broadcast left changes
    have plain : publish = false := by
      cases publish
      · rfl
      · exact absurd data (direct rfl)
    subst plain
    exact ⟨(fun on => nomatch on), (fun on => nomatch on), h.overflowed, h.started⟩
  · split
    · -- a close frame is no data frame
      have closed : ({ s with writes := s.writes ++ [.close] } : Session).Sound publish logger :=
        ⟨fun on => by simpa [dataWrites, queued, Frame.bytes?, List.filterMap_cons] using h.fifo on,
          h.writer, h.overflowed, h.started⟩
      split
      · exact closed.stop none
      · exact closed
    · exact h
  · exact h

theorem post_data {s : Session} {m : Message} (data : m.kind = .data) (n : Nat)
    (fault : Option String) :
    s.post (some n) logger m fault =
      (.ok (), if s.backlog.length < n then { s with backlog := s.backlog ++ [m.payload] }
        else s.stop (some (s.backlogFull logger))) := by
  simp only [Session.post, data]
  split <;> rfl

theorem Sound.arrive {s : Session} (h : s.Sound true logger) {m : Message} (data : m.kind = .data)
    (n c : Nat) :
    ({ (s.post (some n) logger m none).2 with
        arrivals := s.arrivals ++
          [⟨c, m.payload, if s.backlog.length < n then .queued else .overflowed !s.stopping⟩] } :
      Session).Sound true logger := by
  rw [post_data data]
  by_cases room : s.backlog.length < n
  · -- queued: the payload goes to the end of the backlog and of the queued payloads alike
    simp only [room, if_true]
    refine ⟨fun _ => ?_, h.writer, ?_, ?_⟩
    · have before := h.fifo rfl
      simp only [queued, dataWrites] at before ⊢
      rw [List.filter_append, List.map_append, ← before]
      simp
    · intro a mem out
      rcases List.mem_append.1 mem with old | new
      · exact h.overflowed a old out
      · simp [List.mem_singleton.1 new] at out
    · intro a mem started
      rcases List.mem_append.1 mem with old | new
      · exact h.started a old started
      · simp [List.mem_singleton.1 new] at started
  · -- overflowed: the session shuts down, and if it was running the full backlog is the reason
    simp only [room, if_false]
    refine ⟨fun _ => ?_, fun _ _ => stop_stopping _ _, fun _ _ _ => stop_stopping _ _, ?_⟩
    · simpa [queued, dataWrites] using h.fifo rfl
    · intro a mem started
      rcases List.mem_append.1 mem with old | new
      · exact (h.stop _).started a (by simpa using old) started
      · obtain rfl := List.mem_singleton.1 new
        have running : s.stopping = false := by simpa using started
        simp [stop_reason, running, backlogFull]

theorem Sound.writeNext {s : Session} (h : s.Sound publish logger) (fault : Option String) :
    (Hub.writeNext s fault).Sound publish logger := by
  unfold Hub.writeNext
  split
  · next d rest writing backlog =>
    -- the head of the backlog becomes the last frame written
    have wrote : ({ (s.write (.data d) fault).2 with backlog := rest } : Session).Sound publish
        logger :=
      ⟨fun on => by simpa [Session.write, dataWrites, queued, Frame.bytes?, backlog] using h.fifo on,
        h.writer, h.overflowed, h.started⟩
    split
    · exact wrote
    · have stopped := wrote.stop (some (writeFailure ‹String›))
      exact ⟨stopped.fifo, fun _ _ => stop_stopping _ _, stopped.overflowed, stopped.started⟩
  · exact h

theorem Sound.quit {s : Session} (h : s.Sound publish logger) :
    (if s.writing && s.stopping then { s with writing := false } else s).Sound publish logger := by
  split
  · next seen =>
    have stopping : s.stopping = true := (Bool.and_eq_true_iff.1 seen).2
    exact ⟨h.fifo, fun _ _ => stopping, h.overflowed, h.started⟩
  · exact h

theorem sound_accepted (addr : Int) : ({ addr, writing := publish } : Session).Sound publish logger where
  fifo _ := rfl
  writer on idle := by simp [on] at idle
  overflowed _ mem := nomatch mem
  started _ mem := nomatch mem

@[simp] theorem post_arrivals (s : Session) (room : Option Nat) (m : Message)
    (fault : Option String) : (s.post room logger m fault).2.arrivals = s.arrivals := by
  unfold Session.post
  split
  · split
    · split <;> simp
    · rfl
  · split
    · split <;> simp
    · rfl
  · rfl

end Session

/-! ### A node -/

namespace Hub

/-- What holds of a node at every moment. -/
structure Sound (h : Hub) : Prop where
  table_lt : ∀ p ∈ h.table, p.2 < h.sessions.length
  /-- The table names each session at most once. -/
  apart : h.snapshot.Nodup
  /-- Only a publishing node broadcasts, and only Data. -/
  casting : ∀ cast ∈ h.casts, h.publish = true ∧ cast.message.kind = .data
  /-- A broadcast has still to reach some sessions of its snapshot, which names each once. -/
  pending : ∀ cast ∈ h.casts, cast.snapshot.Nodup ∧ cast.pending.Sublist cast.snapshot
  snapshot_lt : ∀ cast ∈ h.casts, ∀ i ∈ cast.snapshot, i < h.sessions.length
  /-- A broadcast has reached, once, exactly the sessions of its snapshot it has no longer to
  reach. -/
  reached : ∀ (c : Nat) (cast : Cast), h.casts[c]? = some cast →
    ∀ (i : Nat) (s : Session), h.sessions[i]? = some s →
      s.arrivalsOf c = if i ∈ cast.snapshot ∧ i ∉ cast.pending then 1 else 0
  /-- What a broadcast left at a session is its own payload. -/
  payload : ∀ s ∈ h.sessions, ∀ a ∈ s.arrivals,
    ∃ cast, h.casts[a.cast]? = some cast ∧ cast.message.payload = a.payload
  sessions : ∀ s ∈ h.sessions, s.Sound h.publish h.logger

theorem sound_start (publish : Bool) (settings : NodeSettings) (logger : Logger) :
    ({ publish, settings, logger } : Hub).Sound where
  table_lt _ mem := nomatch mem
  apart := List.nodup_nil
  casting _ mem := nomatch mem
  pending _ mem := nomatch mem
  snapshot_lt _ mem := nomatch mem
  reached _ _ at_c := by simp at at_c
  payload _ mem := nomatch mem
  sessions _ mem := nomatch mem

theorem Sound.cast_lt {h : Hub} (hs : h.Sound) {s : Session} (mem : s ∈ h.sessions) {a : Arrival}
    (inside : a ∈ s.arrivals) : a.cast < h.casts.length := by
  obtain ⟨cast, at_c, -⟩ := hs.payload s mem a inside
  exact (List.getElem?_eq_some_iff.1 at_c).1

theorem Sound.set {h : Hub} (hs : h.Sound) {i : Nat} {s s' : Session}
    (at_i : h.sessions[i]? = some s) (arrivals : s'.arrivals = s.arrivals)
    (sound : s'.Sound h.publish h.logger) :
    ({ h with sessions := h.sessions.set i s' } : Hub).Sound where
  table_lt p mem := by simpa using hs.table_lt p mem
  apart := hs.apart
  casting := hs.casting
  pending := hs.pending
  snapshot_lt cast mem j inside := by simpa using hs.snapshot_lt cast mem j inside
  reached c cast at_c j u at_j := by
    by_cases same : i = j
    · subst same
      have lt := (List.getElem?_eq_some_iff.1 at_i).1
      rw [List.getElem?_set_self lt, Option.some.injEq] at at_j
      subst at_j
      simp only [Session.arrivalsOf, arrivals]
      exact hs.reached c cast at_c i s at_i
    · rw [List.getElem?_set_ne same] at at_j
      exact hs.reached c cast at_c j u at_j
  payload u mem a inside := by
    rcases List.mem_or_eq_of_mem_set mem with old | rfl
    · exact hs.payload u old a inside
    · exact hs.payload s (List.mem_of_getElem? at_i) a (arrivals ▸ inside)
  sessions u mem := by
    rcases List.mem_or_eq_of_mem_set mem with old | rfl
    · exact hs.sessions u old
    · exact sound

theorem Sound.modifySession {h : Hub} (hs : h.Sound) (i : Nat) {f : Session → Session}
    (arrivals : ∀ s, (f s).arrivals = s.arrivals)
    (sound : ∀ s, s.Sound h.publish h.logger → (f s).Sound h.publish h.logger) :
    (h.modifySession i f).Sound := by
  unfold Hub.modifySession
  cases at_i : h.sessions[i]? with
  | none =>
    -- there is no session `i`: nothing changes
    rw [List.modify_eq_self (List.getElem?_eq_none_iff.1 at_i)]
    exact hs
  | some s =>
    rw [Http.SlotGroup.modify_eq_set_of_getElem? f at_i]
    exact hs.set at_i (arrivals s) (sound s (hs.sessions s (List.mem_of_getElem? at_i)))

theorem Sound.connect {h : Hub} (hs : h.Sound) (addr : Int) : (h.step (.connect addr)).Sound := by
  -- every session the table or a broadcast names is older than the new one
  have older : ∀ p ∈ h.table.filter (·.1 != addr), p.2 < h.sessions.length :=
    fun p mem => hs.table_lt p (List.mem_of_mem_filter mem)
  simp only [Hub.step]
  refine ⟨?_, ?_, hs.casting, hs.pending, ?_, ?_, ?_, ?_⟩
  · intro p mem
    simp only [List.length_append, List.length_singleton]
    rcases List.mem_append.1 mem with old | new
    · have := older p old
      omega
    · simp [List.mem_singleton.1 new]
  · simp only [snapshot, List.map_append, List.map_cons, List.map_nil]
    refine List.nodup_append.2 ⟨(List.filter_sublist.map _).nodup hs.apart,
      List.nodup_singleton _, fun a mem b new same => ?_⟩
    obtain ⟨p, inside, rfl⟩ := List.mem_map.1 mem
    rw [List.mem_singleton.1 new] at same
    exact absurd same (Nat.ne_of_lt (older p inside))
  · intro cast mem i inside
    have := hs.snapshot_lt cast mem i inside
    simp only [List.length_append, List.length_singleton]
    omega
  · intro c cast at_c i s at_i
    rcases Nat.lt_or_ge i h.sessions.length with lt | ge
    · rw [List.getElem?_append_left lt] at at_i
      exact hs.reached c cast at_c i s at_i
    · -- the new session: nothing reached it, and no snapshot names it
      rw [List.getElem?_append_right ge, List.getElem?_singleton] at at_i
      split_ifs at at_i with first
      obtain rfl := Option.some.inj at_i
      have unnamed : i ∉ cast.snapshot := fun inside =>
        absurd (hs.snapshot_lt cast (List.mem_of_getElem? at_c) i inside) (by omega)
      simp [Session.arrivalsOf, unnamed]
  · intro s mem a inside
    rcases List.mem_append.1 mem with old | new
    · exact hs.payload s old a inside
    · simp [List.mem_singleton.1 new] at inside
  · intro s mem
    rcases List.mem_append.1 mem with old | new
    · exact hs.sessions s old
    · rw [List.mem_singleton.1 new]
      exact Session.sound_accepted addr

theorem Sound.leave {h : Hub} (hs : h.Sound) (addr : Int) : (h.step (.leave addr)).Sound :=
  { hs with
    table_lt := fun p mem => hs.table_lt p (List.mem_of_mem_filter mem)
    apart := (List.filter_sublist.map _).nodup hs.apart }

theorem Sound.broadcast {h : Hub} (hs : h.Sound) {m : Message} (on : h.publish = true)
    (data : m.kind = .data) :
    ({ h with casts := h.casts ++ [⟨m, h.snapshot, h.snapshot⟩] } : Hub).Sound := by
  have older : ∀ c, c < h.casts.length → (h.casts ++ [⟨m, h.snapshot, h.snapshot⟩])[c]? =
      h.casts[c]? := fun c lt => List.getElem?_append_left lt
  refine ⟨hs.table_lt, hs.apart, ?_, ?_, ?_, ?_, ?_, hs.sessions⟩
  · intro cast mem
    rcases List.mem_append.1 mem with old | new
    · exact hs.casting cast old
    · rw [List.mem_singleton.1 new]
      exact ⟨on, data⟩
  · intro cast mem
    rcases List.mem_append.1 mem with old | new
    · exact hs.pending cast old
    · rw [List.mem_singleton.1 new]
      exact ⟨hs.apart, List.Sublist.refl _⟩
  · intro cast mem i inside
    rcases List.mem_append.1 mem with old | new
    · exact hs.snapshot_lt cast old i inside
    · rw [List.mem_singleton.1 new] at inside
      obtain ⟨p, named, rfl⟩ := List.mem_map.1 inside
      exact hs.table_lt p named
  · intro c cast at_c i s at_i
    rcases Nat.lt_or_ge c h.casts.length with lt | ge
    · exact hs.reached c cast ((older c lt) ▸ at_c) i s at_i
    · -- the new broadcast: every arrival is of an older one, and it has still to reach all
      rw [List.getElem?_append_right ge, List.getElem?_singleton] at at_c
      split_ifs at at_c with first
      obtain rfl := Option.some.inj at_c
      have none_yet : s.arrivalsOf c = 0 := by
        refine List.countP_eq_zero.2 fun a inside same => ?_
        have := hs.cast_lt (List.mem_of_getElem? at_i) inside
        simp only [beq_iff_eq] at same
        omega
      simp [none_yet]
  · intro s mem a inside
    rw [older a.cast (hs.cast_lt mem inside)]
    exact hs.payload s mem a inside

theorem Sound.post {h : Hub} (hs : h.Sound) (m : Message) (fault : Option String) :
    (h.post m fault).2.Sound := by
  unfold Hub.post
  split
  · next casting =>
    have on : h.publish = true ∧ m.kind = .data := by simpa using casting
    split
    · exact hs
    · exact hs.broadcast on.1 on.2
  · next direct =>
    split
    · next i s at_addr =>
      -- the session of the address takes the message, which no broadcast carries
      have at_i : h.sessions[i]? = some s := by
        unfold sessionAt? at at_addr
        split at at_addr
        · obtain ⟨u, at_u, same⟩ := Option.map_eq_some_iff.1 at_addr
          cases same
          exact at_u
        · cases at_addr
      exact hs.set at_i (Session.post_arrivals ..)
        ((hs.sessions s (List.mem_of_getElem? at_i)).post fault fun on data => direct (by simp [on, data]))
    · exact hs

theorem arrivalsOf_of_arrivals {s t : Session} {a : Arrival} (arrived : t.arrivals = s.arrivals ++ [a])
    (c : Nat) : t.arrivalsOf c = s.arrivalsOf c + if a.cast = c then 1 else 0 := by
  simp [Session.arrivalsOf, arrived, List.countP_append]

theorem Sound.push {h : Hub} (hs : h.Sound) {c j i : Nat} {cast : Cast}
    (at_c : h.casts[c]? = some cast) (at_j : cast.pending[j]? = some i) :
    ({ h.reach c cast i with
        casts := h.casts.set c { cast with pending := cast.pending.eraseIdx j } } : Hub).Sound := by
  have mc := List.mem_of_getElem? at_c
  obtain ⟨on, data⟩ := hs.casting cast mc
  obtain ⟨apart, sub⟩ := hs.pending cast mc
  have named : i ∈ cast.snapshot := sub.subset (List.mem_of_getElem? at_j)
  obtain ⟨s, at_i⟩ : ∃ s, h.sessions[i]? = some s :=
    ⟨_, List.getElem?_eq_getElem (hs.snapshot_lt cast mc i named)⟩
  have lt_c := (List.getElem?_eq_some_iff.1 at_c).1
  -- the broadcast no longer has to reach `i`, and still has to reach the others it had
  have left : ∀ x, x ∈ cast.pending.eraseIdx j ↔ x ∈ cast.pending ∧ x ≠ i :=
    fun x => mem_eraseIdx_of_nodup (sub.nodup apart) at_j
  let arrival : Arrival := ⟨c, cast.message.payload,
    if s.backlog.length < h.settings.ringSize.toNat then .queued else .overflowed !s.stopping⟩
  let s' : Session :=
    { (s.post (some h.settings.ringSize.toNat) h.logger cast.message none).2 with
      arrivals := s.arrivals ++ [arrival] }
  have sessions : (h.reach c cast i).sessions = h.sessions.set i s' := by
    simp only [reach, room, on, if_true]
    exact Http.SlotGroup.modify_eq_set_of_getElem? _ at_i
  have sound' : s'.Sound h.publish h.logger := by
    have before := hs.sessions s (List.mem_of_getElem? at_i)
    rw [on] at before ⊢
    exact before.arrive data _ c
  -- the broadcasts carry the messages they did
  have messages : ∀ c' : Nat, ((h.casts.set c { cast with pending := cast.pending.eraseIdx j })[c']?).map
      Cast.message = (h.casts[c']?).map Cast.message := by
    intro c'
    by_cases same : c = c'
    · subst same
      rw [List.getElem?_set_self lt_c, at_c]
      rfl
    · rw [List.getElem?_set_ne same]
  refine ⟨?_, hs.apart, ?_, ?_, ?_, ?_, ?_, ?_⟩
  · intro p mem
    simp only [sessions, List.length_set]
    exact hs.table_lt p mem
  · intro x mem
    rcases List.mem_or_eq_of_mem_set mem with old | rfl
    · exact hs.casting x old
    · exact ⟨on, data⟩
  · intro x mem
    rcases List.mem_or_eq_of_mem_set mem with old | rfl
    · exact hs.pending x old
    · exact ⟨apart, (List.eraseIdx_sublist _ _).trans sub⟩
  · intro x mem k inside
    simp only [sessions, List.length_set]
    rcases List.mem_or_eq_of_mem_set mem with old | rfl
    · exact hs.snapshot_lt x old k inside
    · exact hs.snapshot_lt cast mc k inside
  · intro c' x at_c' k u at_k
    rw [sessions] at at_k
    -- which broadcast, and whether the session is the one reached
    by_cases same_c : c = c'
    · subst same_c
      rw [List.getElem?_set_self lt_c, Option.some.injEq] at at_c'
      subst at_c'
      by_cases same_k : i = k
      · subst same_k
        rw [List.getElem?_set_self (List.getElem?_eq_some_iff.1 at_i).1, Option.some.injEq] at at_k
        subst at_k
        have none_yet := hs.reached c cast at_c i s at_i
        simp only [List.mem_of_getElem? at_j, not_true_eq_false, and_false, if_false] at none_yet
        rw [arrivalsOf_of_arrivals (rfl : s'.arrivals = s.arrivals ++ [arrival]), none_yet]
        simp [left, named, arrival]
      · rw [List.getElem?_set_ne same_k] at at_k
        rw [hs.reached c cast at_c k u at_k]
        simp [left, Ne.symm same_k]
    · rw [List.getElem?_set_ne same_c] at at_c'
      by_cases same_k : i = k
      · subst same_k
        rw [List.getElem?_set_self (List.getElem?_eq_some_iff.1 at_i).1, Option.some.injEq] at at_k
        subst at_k
        rw [arrivalsOf_of_arrivals (rfl : s'.arrivals = s.arrivals ++ [arrival]),
          hs.reached c' x at_c' i s at_i]
        simp [arrival, same_c]
      · rw [List.getElem?_set_ne same_k] at at_k
        exact hs.reached c' x at_c' k u at_k
  · intro u mem a inside
    rw [sessions] at mem
    -- an arrival names a broadcast with its payload, which the broadcast still carries
    have carried : ∃ x, h.casts[a.cast]? = some x ∧ x.message.payload = a.payload := by
      rcases List.mem_or_eq_of_mem_set mem with old | rfl
      · exact hs.payload u old a inside
      · rcases List.mem_append.1 inside with old | new
        · exact hs.payload s (List.mem_of_getElem? at_i) a old
        · rw [List.mem_singleton.1 new]
          exact ⟨cast, at_c, rfl⟩
    obtain ⟨x, at_x, payload⟩ := carried
    have kept := messages a.cast
    rw [at_x] at kept
    obtain ⟨y, at_y, same⟩ := Option.map_eq_some_iff.1 kept
    exact ⟨y, at_y, by rw [same, payload]⟩
  · intro u mem
    rw [sessions] at mem
    rcases List.mem_or_eq_of_mem_set mem with old | rfl
    · exact hs.sessions u old
    · exact sound'

theorem writeNext_arrivals (s : Session) (fault : Option String) :
    (writeNext s fault).arrivals = s.arrivals := by
  unfold writeNext
  split
  · split <;> simp [Session.write]
  · rfl

theorem Sound.step {h : Hub} (hs : h.Sound) (ev : HubEvent) : (h.step ev).Sound := by
  cases ev with
  | connect addr => exact hs.connect addr
  | leave addr => exact hs.leave addr
  | stop i reason =>
    exact hs.modifySession i (fun s => Session.stop_arrivals s reason) fun _ sound => sound.stop reason
  | post m fault => exact hs.post m fault
  | push c j =>
    simp only [Hub.step]
    split
    · next cast at_c =>
      split
      · next i at_j => exact hs.push at_c at_j
      · exact hs
    · exact hs
  | write i fault =>
    exact hs.modifySession i (fun s => writeNext_arrivals s fault) fun _ sound => sound.writeNext fault
  | quit i =>
    refine hs.modifySession i (fun s => ?_) fun _ sound => sound.quit
    split <;> rfl

theorem Sound.run {h : Hub} (hs : h.Sound) (es : List HubEvent) : (h.run es).Sound := by
  induction es generalizing h with
  | nil => exact hs
  | cons ev es ih => exact ih (hs.step ev)

/-! ### Posts and broadcasts -/

theorem post_oversized (h : Hub) {m : Message} (on : h.publish = true) (data : m.kind = .data)
    (big : (m.payload.size : Int) > h.settings.dataSize.tdiv 2) (fault : Option String) :
    h.post m fault = (.error ((Failure.config ("message size " ++ toString m.payload.size ++
      " is larger than half of data-size " ++ toString h.settings.dataSize)).within
        h.logger.prefixText), h) := by
  simp [Hub.post, on, data, publishFault?, big]

theorem post_broadcast (h : Hub) {m : Message} (on : h.publish = true) (data : m.kind = .data)
    (fits : (m.payload.size : Int) ≤ h.settings.dataSize.tdiv 2) (fault : Option String) :
    h.post m fault = (.ok (), { h with casts := h.casts ++ [⟨m, h.snapshot, h.snapshot⟩] }) := by
  have small : ¬ (m.payload.size : Int) > h.settings.dataSize.tdiv 2 := by omega
  simp [Hub.post, on, data, publishFault?, small]

theorem post_missing (h : Hub) {m : Message} (direct : h.publish = true → m.kind ≠ .data)
    (unknown : h.table.lookup m.addr = none) (fault : Option String) :
    h.post m fault = (.error (h.missing m.addr), h) := by
  have plain : (h.publish && m.kind == .data) = false := by
    cases on : h.publish
    · rfl
    · simpa using direct on
  simp [Hub.post, plain, sessionAt?, unknown]

theorem post_written {h : Hub} (hs : h.Sound) {m : Message} (plain : h.publish = false)
    (data : m.kind = .data) {i : Nat} (at_addr : h.table.lookup m.addr = some i)
    (fault : Option String) :
    ∃ s, h.sessions[i]? = some s ∧
      h.post m fault = ((s.write (.data m.payload) fault).1,
        { h with sessions := h.sessions.set i { s with writes := s.writes ++ [.data m.payload] } }) := by
  obtain ⟨before, after, table, -⟩ := List.lookup_eq_some_iff.1 at_addr
  have lt : i < h.sessions.length := hs.table_lt (m.addr, i) (by simp [table])
  refine ⟨h.sessions[i], List.getElem?_eq_getElem lt, ?_⟩
  simp [Hub.post, plain, sessionAt?, at_addr, List.getElem?_eq_getElem lt, Session.post, data, room,
    Session.write]

theorem step_push_first {h : Hub} {c : Nat} {cast : Cast} (at_c : h.casts[c]? = some cast)
    {i : Nat} {rest : List Nat} (pending : cast.pending = i :: rest) :
    (h.step (.push c 0)).casts[c]? = some { cast with pending := rest } := by
  have lt := (List.getElem?_eq_some_iff.1 at_c).1
  have first : cast.pending[0]? = some i := by simp [pending]
  simp only [Hub.step, at_c, first]
  show (h.casts.set c { cast with pending := cast.pending.eraseIdx 0 })[c]? = _
  rw [List.getElem?_set_self lt, pending]
  rfl

theorem run_pushes (p : List Nat) {h : Hub} {c : Nat} {cast : Cast}
    (at_c : h.casts[c]? = some cast) (pending : cast.pending = p) :
    (h.run (List.replicate p.length (.push c 0))).casts[c]? = some { cast with pending := [] } := by
  induction p generalizing h cast with
  | nil =>
    cases cast
    simp_all [Hub.run]
  | cons i rest ih =>
    have next := step_push_first at_c pending
    simpa [Hub.run, List.replicate_succ] using ih next rfl

theorem Sound.push_sessions {h : Hub} (hs : h.Sound) {c j i : Nat} {cast : Cast} {s : Session}
    (at_c : h.casts[c]? = some cast) (at_j : cast.pending[j]? = some i)
    (at_i : h.sessions[i]? = some s) :
    (h.step (.push c j)).sessions = h.sessions.set i
      (if s.backlog.length < h.settings.ringSize.toNat then
        { s with backlog := s.backlog ++ [cast.message.payload],
                 arrivals := s.arrivals ++ [⟨c, cast.message.payload, .queued⟩] }
      else
        { s.stop (some (s.backlogFull h.logger)) with
          arrivals := s.arrivals ++ [⟨c, cast.message.payload, .overflowed !s.stopping⟩] }) := by
  obtain ⟨on, data⟩ := hs.casting cast (List.mem_of_getElem? at_c)
  simp only [Hub.step, at_c, at_j]
  show (h.reach c cast i).sessions = _
  simp only [reach, Hub.modifySession, room, on, if_true]
  rw [Http.SlotGroup.modify_eq_set_of_getElem? _ at_i]
  by_cases room : s.backlog.length < h.settings.ringSize.toNat
  · simp [Session.post_data data, room]
  · simp [Session.post_data data, room]

/-- What posting on a socket node guarantees, at every moment. -/
structure Delivering (h : Hub) : Prop where
  sound : h.Sound
  oversized : ∀ (m : Message) (fault : Option String), h.publish = true → m.kind = .data →
    (m.payload.size : Int) > h.settings.dataSize.tdiv 2 →
    h.post m fault = (.error ((Failure.config ("message size " ++ toString m.payload.size ++
      " is larger than half of data-size " ++ toString h.settings.dataSize)).within
        h.logger.prefixText), h)
  broadcast : ∀ (m : Message) (fault : Option String), h.publish = true → m.kind = .data →
    (m.payload.size : Int) ≤ h.settings.dataSize.tdiv 2 →
    h.post m fault = (.ok (), { h with casts := h.casts ++ [⟨m, h.snapshot, h.snapshot⟩] })
  reach : ∀ (c j i : Nat) (cast : Cast) (s : Session), h.casts[c]? = some cast →
    cast.pending[j]? = some i → h.sessions[i]? = some s →
    (h.step (.push c j)).sessions = h.sessions.set i
      (if s.backlog.length < h.settings.ringSize.toNat then
        { s with backlog := s.backlog ++ [cast.message.payload],
                 arrivals := s.arrivals ++ [⟨c, cast.message.payload, .queued⟩] }
      else
        { s.stop (some (s.backlogFull h.logger)) with
          arrivals := s.arrivals ++ [⟨c, cast.message.payload, .overflowed !s.stopping⟩] })
  finishes : ∀ (c : Nat) (cast : Cast), h.casts[c]? = some cast →
    (h.run (List.replicate cast.pending.length (.push c 0))).casts[c]? =
      some { cast with pending := [] }
  written : ∀ (m : Message) (fault : Option String) (i : Nat), h.publish = false →
    m.kind = .data → h.table.lookup m.addr = some i →
    ∃ s, h.sessions[i]? = some s ∧
      h.post m fault = ((s.write (.data m.payload) fault).1,
        { h with sessions := h.sessions.set i { s with writes := s.writes ++ [.data m.payload] } })
  missing : ∀ (m : Message) (fault : Option String), (h.publish = true → m.kind ≠ .data) →
    h.table.lookup m.addr = none → h.post m fault = (.error (h.missing m.addr), h)

theorem Sound.delivering {h : Hub} (hs : h.Sound) : h.Delivering where
  sound := hs
  oversized _ fault on data big := post_oversized h on data big fault
  broadcast _ fault on data fits := post_broadcast h on data fits fault
  reach _ _ _ _ _ at_c at_j at_i := hs.push_sessions at_c at_j at_i
  finishes _ _ at_c := run_pushes _ at_c rfl
  written _ fault _ plain data at_addr := post_written hs plain data at_addr fault
  missing _ fault direct unknown := post_missing h direct unknown fault

/-- Over every run of a socket node, a broadcast reaches every session of the table once without
waiting on any, and each writer writes its backlog in order. -/
theorem socket_node_delivers_posts (publish : Bool) (settings : NodeSettings) (logger : Logger)
    (es : List HubEvent) : (({ publish, settings, logger } : Hub).run es).Delivering :=
  ((sound_start publish settings logger).run es).delivering

end Hub

end ChannelMux.Socket
