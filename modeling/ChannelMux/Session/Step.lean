import ChannelMux.World.Post
import ChannelMux.Session.Ports

/-! Session scripts: the steps a session takes and what each step answers. -/

namespace ChannelMux.Session

/-- One step of a session. Channel names are those the session holds. -/
inductive Step where
  /-- Create a channel from a descriptor text, an optional master and options written over it. -/
  | create (url : String) (master : Option String) (props : Options)
  /-- Open a channel with options written over its descriptor. -/
  | openWith (ch : String) (props : Options)
  | close (ch : String)
  | release (ch : String)
  | post (ch : String) (m : Message)
  /-- Take the next message. -/
  | recv (ch : String)
  /-- Take `n` messages, answered in order of address. -/
  | recvMany (ch : String) (n : Nat)
  /-- Take the messages of one exchange, up to its Disconnect. -/
  | recvExchange (ch : String) (addr : Int)
  /-- Take the next settled state. -/
  | recvState (ch : String)
  /-- Wait until the channel is in one of the states. -/
  | awaitState (ch : String) (want : List LifeState)
  | state (ch : String)
  | info (ch : String)
  | infoView (ch pre key : String)
  | config (ch : String)
  | children (ch : String)
  | pending (ch : String)
  | routes (ch : String)
  | outstanding (ch : String)
  | schemes
  | lookup (name : String)
  /-- Close every root channel of the registry. -/
  | contextClose
  /-- Release every channel the session created, newest first, and hold none. -/
  | loopClose
  deriving Inhabited

/-- What a step answers. -/
inductive Answer where
  | done
  | failed (f : Failure)
  /-- An open that failed, with the state it left. -/
  | openFailed (f : Failure) (state : LifeState)
  /-- The session holds no channel of this name. -/
  | missing (name : String)
  /-- The channel's kind has no such thing. -/
  | notApplicable (text : String)
  | created (name scheme : String) (state : LifeState) (master : Option String)
  | stateName (s : LifeState)
  | closedAs (s : LifeState)
  | message (m : Message)
  | messages (ms : List Message)
  /-- The messages of one exchange: its Connects, the number of Data messages, their joined
  payloads, and its Disconnect. -/
  | exchange (connects : List Connect) (chunks : Nat) (body : ByteArray) (disconnect : Disconnect)
  | info (entries : Options)
  | infoView (keys : List String) (sub : Options) (text : String) (get : Option String)
  | config (d : Descriptor)
  | names (ns : List String)
  | count (n : Nat)
  | found (hit : Option (String × LifeState))
  deriving Inhabited

end ChannelMux.Session
