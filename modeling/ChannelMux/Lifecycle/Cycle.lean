import ChannelMux.Lifecycle.State

/-! The lifecycle record of one channel and its moves. -/

namespace ChannelMux

/-- The lifecycle of one channel: its state, the number of opens and closes so far, and whether
the transport has asked to report activation itself. -/
structure Cycle where
  state : LifeState := .closed
  generation : Nat := 0
  deferActive : Bool := false
  deriving DecidableEq, Repr, Inhabited

namespace Cycle

/-- Enters a state; entering the state already held changes nothing and notices nothing. -/
def moveTo (c : Cycle) (s : LifeState) : Cycle × List LifeState :=
  if c.state = s then (c, []) else ({ c with state := s }, [s])

@[simp] theorem moveTo_state (c : Cycle) (s : LifeState) : (c.moveTo s).1.state = s := by
  unfold moveTo
  split <;> simp_all

@[simp] theorem moveTo_entered (c : Cycle) (s : LifeState) :
    (c.moveTo s).2 = if c.state = s then [] else [s] := by
  unfold moveTo
  split <;> simp_all

/-- Starts an open cycle: a new generation, activation not deferred, state `opening`. -/
def beginOpen (c : Cycle) : Cycle × List LifeState :=
  moveTo { c with generation := c.generation + 1, deferActive := false } .opening

/-- Ends a successful open: `active`, unless the transport deferred activation. -/
def finishOpen (c : Cycle) : Cycle × List LifeState :=
  if c.state = .opening && !c.deferActive then c.moveTo .active else (c, [])

/-- The transport reports that it is up; only an opening channel becomes active. -/
def activate (c : Cycle) : Cycle × List LifeState :=
  if c.state = .opening then c.moveTo .active else (c, [])

/-- The transport reports a failure; only an opening or active channel enters `error`. -/
def fail (c : Cycle) : Cycle × List LifeState :=
  if c.state = .opening || c.state = .active then c.moveTo .error else (c, [])

/-- The transport will report activation itself. -/
def deferActivation (c : Cycle) : Cycle := { c with deferActive := true }

/-- Starts closing: a new generation, state `closing`. -/
def beginClose (c : Cycle) : Cycle × List LifeState :=
  moveTo { c with generation := c.generation + 1 } .closing

/-- Ends closing. -/
def finishClose (c : Cycle) : Cycle × List LifeState := c.moveTo .closed

@[simp] theorem beginOpen_state (c : Cycle) : c.beginOpen.1.state = .opening := by
  simp [beginOpen]

@[simp] theorem finishOpen_state (c : Cycle) :
    c.finishOpen.1.state = if c.state = .opening ∧ c.deferActive = false then .active else c.state := by
  unfold finishOpen
  split <;> simp_all

@[simp] theorem activate_state (c : Cycle) :
    c.activate.1.state = if c.state = .opening then .active else c.state := by
  unfold activate
  split <;> simp_all

@[simp] theorem fail_state (c : Cycle) :
    c.fail.1.state = if c.state = .opening ∨ c.state = .active then .error else c.state := by
  unfold fail
  split <;> simp_all

@[simp] theorem deferActivation_state (c : Cycle) : c.deferActivation.state = c.state := rfl

@[simp] theorem beginClose_state (c : Cycle) : c.beginClose.1.state = .closing := by
  simp [beginClose]

@[simp] theorem finishClose_state (c : Cycle) : c.finishClose.1.state = .closed := by
  simp [finishClose]

/-- Whether a close scheduled in generation `g` has nothing left to close: the channel was
opened or closed since, or is closed. -/
def staleFor (c : Cycle) (g : Nat) : Bool := c.generation != g || c.state = .closed

end Cycle

end ChannelMux
