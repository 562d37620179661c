import ChannelMux.Message

/-! The mailbox of a channel: what the channel has dispatched and nobody has taken yet. -/

namespace ChannelMux

/-- Queued messages and queued settled states of a channel. -/
structure Mailbox where
  messages : List Message := []
  states : List LifeState := []
  deriving Inhabited

namespace Mailbox

/-- Receives a dispatched message. -/
def accept (b : Mailbox) (m : Message) : Mailbox :=
  match m.kind with
  | .state =>
    match m.state? with
    | some s => if s.settled then { b with states := b.states ++ [s] } else b
    | none => b
  | _ => { b with messages := b.messages ++ [m] }

/-- Takes the oldest queued message. -/
def take? (b : Mailbox) : Option (Message × Mailbox) :=
  match b.messages with
  | m :: rest => some (m, { b with messages := rest })
  | [] => none

/-- Takes the oldest queued settled state. -/
def takeState? (b : Mailbox) : Option (LifeState × Mailbox) :=
  match b.states with
  | s :: rest => some (s, { b with states := rest })
  | [] => none

/-- Drops the queued messages of an address. -/
def dropAddress (b : Mailbox) (addr : Int) : Mailbox :=
  { b with messages := b.messages.filter (·.addr != addr) }

/-- The number of queued messages. -/
def pending (b : Mailbox) : Nat := b.messages.length

theorem messages_accept (b : Mailbox) (m : Message) (h : m.kind ≠ .state) :
    (b.accept m).messages = b.messages ++ [m] := by
  unfold accept
  split
  · contradiction
  · rfl

theorem messages_dropAddress (b : Mailbox) (a : Int) :
    (b.dropAddress a).messages = b.messages.filter (·.addr != a) := rfl

theorem pending_dropAddress_le (b : Mailbox) (a : Int) : (b.dropAddress a).pending ≤ b.pending :=
  List.length_filter_le _ _

end Mailbox

end ChannelMux
