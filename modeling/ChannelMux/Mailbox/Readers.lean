import ChannelMux.Mailbox
import ChannelMux.Failure
import Mathlib.Logic.Function.Basic

/-! A channel's mailbox under concurrent readers. -/

namespace ChannelMux.Mailbox

/-- What a receive call waits for: a Data or Control message, or a settled state. -/
inductive Want where
  | message
  | state
  deriving DecidableEq, Repr

/-- The word a timed-out receive names what it waited for with. -/
def Want.noun : Want → String
  | .message => "message"
  | .state => "state"

/-- Where a reader is: outside any receive call, about to look under the lock, or waiting on the
wake it saw there. -/
inductive Reader where
  | idle
  | looking (want : Want)
  | waiting (want : Want) (wake : Nat)
  deriving DecidableEq, Repr

/-- What a receive call returns. -/
inductive Outcome where
  | message (m : Message)
  | state (s : LifeState)
  | failed (f : Failure)

/-- Whether a receive returned something it took from the mailbox. -/
def Outcome.took : Outcome → Bool
  | .failed _ => false
  | _ => true

/-- The message a receive returned, if it returned one. -/
def Outcome.message? : Outcome → Option Message
  | .message m => some m
  | _ => none

/-- The state a receive returned, if it returned one. -/
def Outcome.state? : Outcome → Option LifeState
  | .state s => some s
  | _ => none

/-- What happens next to a mailbox and its readers. -/
inductive Event where
  /-- The channel hands a message to the callback. -/
  | dispatch (m : Message)
  /-- Reader `i` starts a receive. -/
  | call (i : Nat) (want : Want)
  /-- Reader `i` looks under the lock. -/
  | look (i : Nat)
  /-- Reader `i` is woken. -/
  | wake (i : Nat)
  /-- Reader `i`'s deadline passes, or its context is cancelled, while it waits. -/
  | giveUp (i : Nat) (cancelled : Bool)
  /-- A Disconnect posted for `addr` drops what the address has queued. -/
  | drop (addr : Int)

/-- Whether an event is a reader's own: a receive started, a look, a wake or a give-up. -/
def Event.byReader : Event → Bool
  | .call .. | .look _ | .wake _ | .giveUp .. => true
  | .dispatch _ | .drop _ => false

/-- A mailbox with its readers: the channel's logger prefix, the mailbox, the number of wakes so
far and where each reader is. -/
structure Readers where
  prefixText : String := ""
  box : Mailbox := {}
  wakes : Nat := 0
  readers : Nat → Reader := fun _ => .idle

namespace Readers

/-- Takes the oldest item of the kind a reader wants, if there is one. -/
def take? (b : Mailbox) : Want → Option (Outcome × Mailbox)
  | .message => b.take?.map fun (m, b') => (.message m, b')
  | .state => b.takeState?.map fun (s, b') => (.state s, b')

/-- What a receive that gives up returns: the context's own error when it was cancelled, else a
timeout that names what it waited for, under the channel's prefix. -/
def giveUpFailure (pre : String) (want : Want) (cancelled : Bool) : Failure :=
  if cancelled then ⟨.canceled, FailureKind.canceled.word⟩
  else (Failure.make .timeout ("no " ++ want.noun ++ " received")).within pre

def setReader (r : Readers) (i : Nat) (x : Reader) : Readers :=
  { r with readers := Function.update r.readers i x }

/-- One event: the mailbox and readers after it, and the reader that returned, with what. An
event a reader is not ready for changes nothing. -/
def step (r : Readers) : Event → Readers × Option (Nat × Outcome)
  | .dispatch m => ({ r with box := r.box.accept m, wakes := r.wakes + 1 }, none)
  | .call i want =>
    match r.readers i with
    | .idle => (r.setReader i (.looking want), none)
    | _ => (r, none)
  | .look i =>
    match r.readers i with
    | .looking want =>
      match take? r.box want with
      | some (o, box) => ({ r.setReader i .idle with box }, some (i, o))
      | none => (r.setReader i (.waiting want r.wakes), none)
    | _ => (r, none)
  | .wake i =>
    match r.readers i with
    | .waiting want seen =>
      if seen < r.wakes then (r.setReader i (.looking want), none) else (r, none)
    | _ => (r, none)
  | .giveUp i cancelled =>
    match r.readers i with
    | .waiting want _ =>
      (r.setReader i .idle, some (i, .failed (giveUpFailure r.prefixText want cancelled)))
    | _ => (r, none)
  | .drop a => ({ r with box := r.box.dropAddress a }, none)

def run (r : Readers) (es : List Event) : Readers := es.foldl (fun r e => (r.step e).1) r

/-- What the receives that returned during a run returned, in order, with their readers. -/
def answers (r : Readers) : List Event → List (Nat × Outcome)
  | [] => []
  | e :: es => (r.step e).2.toList ++ (r.step e).1.answers es

/-- The messages receives returned during a run, in the order they were taken. -/
def received (r : Readers) (es : List Event) : List Message :=
  (r.answers es).filterMap (·.2.message?)

/-- The states receives returned during a run, in the order they were taken. -/
def receivedStates (r : Readers) (es : List Event) : List LifeState :=
  (r.answers es).filterMap (·.2.state?)

end Readers

end ChannelMux.Mailbox
