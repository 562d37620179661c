/-! Failures of channel operations. Every failure has a kind, which callers branch on, and a
message, which ends with the kind's own word when the kind has one (`...: config error`). -/

namespace ChannelMux

/-- What went wrong, as callers classify it. -/
inductive FailureKind where
  | routingConflict
  | config
  | transport
  | protocol
  | timeout
  | invalidState
  | notFound
  | queueFull
  | canceled
  /-- The program itself broke down on a runtime fault. -/
  | abort
  | other
  deriving DecidableEq, Repr, Inhabited

/-- The word a failure of this kind ends its message with. -/
def FailureKind.word : FailureKind → String
  | .routingConflict => "routing conflict"
  | .config => "config error"
  | .transport => "transport error"
  | .protocol => "protocol error"
  | .timeout => "timeout"
  | .invalidState => "invalid state"
  | .notFound => "not found"
  | .queueFull => "queue full"
  | .canceled => "context canceled"
  | .abort => ""
  | .other => ""

/-- A failed operation: its kind and the full message. -/
structure Failure where
  kind : FailureKind
  message : String
  deriving DecidableEq, Repr, Inhabited

namespace Failure

/-- A failure whose message is `text` followed by the kind's word. -/
def make (kind : FailureKind) (text : String) : Failure :=
  ⟨kind, text ++ ": " ++ kind.word⟩

/-- A configuration failure. -/
def config (text : String) : Failure := make .config text

/-- A failure in the wrong lifecycle state. -/
def invalidState (text : String) : Failure := make .invalidState text

/-- A protocol failure. -/
def protocol (text : String) : Failure := make .protocol text

/-- A failure without a kind of its own. -/
def plain (text : String) : Failure := ⟨.other, text⟩

/-- Puts a context in front of the message; an empty context adds nothing. -/
def within (context : String) (f : Failure) : Failure :=
  if context.isEmpty then f else { f with message := context ++ ": " ++ f.message }

end Failure

/-- Text joined under a prefix the way prefixed loggers write it: nothing in front when the prefix
is empty, else the prefix and `": "`. -/
def withPrefix (pre text : String) : String :=
  if pre.isEmpty then text else pre ++ ": " ++ text

end ChannelMux
