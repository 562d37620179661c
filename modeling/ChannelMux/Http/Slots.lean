import ChannelMux.Http.Exchange

/-! The slot ceiling of a group of request channels, under concurrent exchanges. -/

namespace ChannelMux.Http

variable {σ : Type}

/-- A counting semaphore, as an engine uses it: units are taken and given back one at a time. -/
structure Semaphore (σ : Type) where
  /-- A semaphore of `n` units. -/
  fresh : Nat → σ
  /-- The number of units. -/
  size : σ → Nat
  /-- The units taken and not yet given back. -/
  taken : σ → Nat
  /-- Takes a unit; `none` while no unit is free, when the caller waits. -/
  acquire : σ → Option σ
  /-- Gives a unit back. -/
  release : σ → σ

/-- The documented behaviour of the semaphore. -/
structure Semaphore.Lawful (s : Semaphore σ) : Prop where
  size_fresh (n : Nat) : s.size (s.fresh n) = n
  taken_fresh (n : Nat) : s.taken (s.fresh n) = 0
  acquire_some {st st' : σ} : s.acquire st = some st' →
    s.taken st < s.size st ∧ s.taken st' = s.taken st + 1 ∧ s.size st' = s.size st
  release_taken {st : σ} : 0 < s.taken st →
    s.taken (s.release st) = s.taken st - 1 ∧ s.size (s.release st) = s.size st

/-- How an exchange returns. -/
inductive Exit where
  /-- Its wait for a slot was cancelled. -/
  | noSlot
  /-- A dispatch was withdrawn, the exchange being silenced. -/
  | withdrawn
  /-- Nothing was left to dispatch: its request failed, or its body ended or a read failed. -/
  | ended
  deriving DecidableEq, Repr

/-- Where an exchange is: waiting for a slot, running with it, or returned. -/
inductive Phase where
  | waiting
  | running
  | returned (exit : Exit)
  deriving DecidableEq, Repr

/-- What an exchange does with a slot of its engine. -/
inductive SlotUse where
  | took
  | gave
  deriving DecidableEq, Repr

/-- An engine of one open cycle of a group: its settings, and its semaphore when they limit the
exchanges. -/
structure SlotEngine (σ : Type) where
  settings : Engine
  slots : Option σ

/-- The engine a group builds when it opens: a semaphore of `max-connections` units when that is
positive, else no limit. -/
def SlotEngine.build (sem : Semaphore σ) (e : Engine) : SlotEngine σ :=
  ⟨e, if 0 < e.maxConnections then some (sem.fresh e.maxConnections.toNat) else none⟩

/-- An exchange. -/
structure Transfer where
  member : Nat
  engine : Nat
  plan : List Message
  silenced : Bool := false
  cancelled : Bool := false
  phase : Phase := .waiting
  sent : Nat := 0
  uses : List SlotUse := []

/-- A group: the engines it built, in order. -/
structure SlotGroup (σ : Type) where
  engines : List (SlotEngine σ) := []
  current : Option Nat := none
  members : List (Option Nat) := []
  transfers : List Transfer := []
  log : List (Nat × Message) := []

/-- What happens next. -/
inductive SlotEvent where
  | openGroup (settings : Engine)
  | closeGroup
  | join
  | openMember (m : Nat)
  | closeMember (m : Nat)
  | start (m : Nat) (addr : Int) (target : String) (reply : Reply) (chunk : Nat)
  | silence (i : Nat)
  | cancel (i : Nat)
  | step (i : Nat)
  | giveUp (i : Nat)

namespace SlotGroup

/-- The semaphore of engine `k`, when it limits its exchanges. -/
def slotsOf (g : SlotGroup σ) (k : Nat) : Option σ := (g.engines[k]?).bind (·.slots)

/-- Whether engine `k` limits its exchanges. -/
def limited (g : SlotGroup σ) (k : Nat) : Bool := (g.slotsOf k).isSome

/-- The exchanges holding a slot of engine `k`, or running on it when it sets no limit. -/
def holding (g : SlotGroup σ) (k : Nat) : Nat :=
  g.transfers.countP fun t => t.engine == k && t.phase == .running

/-- Replaces exchange `i`. -/
def setTransfer (g : SlotGroup σ) (i : Nat) (t : Transfer) : SlotGroup σ :=
  { g with transfers := g.transfers.set i t }

/-- Changes exchange `i`, if there is one. -/
def modifyTransfer (g : SlotGroup σ) (i : Nat) (f : Transfer → Transfer) : SlotGroup σ :=
  { g with transfers := g.transfers.modify i f }

/-- Exchange `i` returns: the deferred release gives back its engine's slot, if the engine has
slots. -/
def returnFrom (sem : Semaphore σ) (g : SlotGroup σ) (i : Nat) (t : Transfer) (how : Exit) :
    SlotGroup σ :=
  { g with engines := g.engines.modify t.engine fun e => { e with slots := e.slots.map sem.release },
           transfers := g.transfers.set i
             { t with phase := .returned how,
                      uses := t.uses ++ if g.limited t.engine then [.gave] else [] } }

/-- The next step of exchange `i`: take a slot, or keep waiting while none is free; dispatch the
next message unless silenced; or return. -/
def advance (sem : Semaphore σ) (g : SlotGroup σ) (i : Nat) (t : Transfer) : SlotGroup σ :=
  match t.phase with
  | .waiting =>
    match g.slotsOf t.engine with
    | none => g.setTransfer i { t with phase := .running }
    | some st =>
      match sem.acquire st with
      | some st' =>
        { g with engines := g.engines.modify t.engine fun e => { e with slots := some st' },
                 transfers := g.transfers.set i { t with phase := .running, uses := t.uses ++ [.took] } }
      | none => g
  | .running =>
    match t.plan[t.sent]? with
    | some m =>
      if t.silenced then g.returnFrom sem i t .withdrawn
      else { g.setTransfer i { t with sent := t.sent + 1 } with log := g.log ++ [(i, m)] }
    | none => g.returnFrom sem i t .ended
  | .returned _ => g

/-- Takes one event. -/
def step (sem : Semaphore σ) (g : SlotGroup σ) : SlotEvent → SlotGroup σ
  | .openGroup e =>
    { g with engines := g.engines ++ [SlotEngine.build sem e], current := some g.engines.length }
  | .closeGroup => { g with current := none }
  | .join => { g with members := g.members ++ [none] }
  | .openMember m =>
    match g.current, g.members[m]? with
    | some k, some none => { g with members := g.members.set m (some k) }
    | _, _ => g
  | .closeMember m =>
    match g.members[m]? with
    | some (some _) =>
      { g with members := g.members.set m none,
               transfers := g.transfers.map fun t =>
                 if t.member = m then { t with silenced := true, cancelled := true } else t }
    | _ => g
  | .start m addr target reply chunk =>
    match g.members[m]? with
    | some (some k) =>
      { g with transfers := g.transfers ++
          [{ member := m, engine := k, plan := (reply.plan addr target chunk).1 }] }
    | _ => g
  | .silence i => g.modifyTransfer i fun t => { t with silenced := true }
  | .cancel i => g.modifyTransfer i fun t => { t with cancelled := true }
  | .step i =>
    match g.transfers[i]? with
    | some t => g.advance sem i t
    | none => g
  | .giveUp i =>
    match g.transfers[i]? with
    | some t =>
      if t.phase = .waiting ∧ t.cancelled then g.setTransfer i { t with phase := .returned .noSlot }
      else g
    | none => g

/-- Takes the events in order. -/
def run (sem : Semaphore σ) (g : SlotGroup σ) (es : List SlotEvent) : SlotGroup σ :=
  es.foldl (step sem) g

end SlotGroup

end ChannelMux.Http
