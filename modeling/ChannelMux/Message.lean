import ChannelMux.Header
import ChannelMux.Method
import ChannelMux.Lifecycle.State

/-! Messages: the units channels exchange. -/

namespace ChannelMux

/-- What a message carries. Numbers 0, 1 and 2 are Data, Control and State. -/
inductive MessageKind where
  | data
  | control
  | state
  | unknown (code : Int)
  deriving DecidableEq, Repr, Inhabited

namespace MessageKind

/-- The kind with a given number. -/
def ofInt (n : Int) : MessageKind :=
  if n = 0 then .data else if n = 1 then .control else if n = 2 then .state else .unknown n

/-- The name of a kind. -/
def name : MessageKind → String
  | .data => "Data"
  | .control => "Control"
  | .state => "State"
  | .unknown n => "MsgType(" ++ toString n ++ ")"

end MessageKind

/-- Opens a logical connection: an inbound request, a response status, or the parameters of a
request to be issued. -/
structure Connect where
  method : Method := .undefined
  code : Int := 0
  size : Int := 0
  path : String := ""
  headers : List HeaderLine := []
  deriving DecidableEq, Repr, Inhabited

/-- Ends a logical connection; code 0 with no error text is a normal end. -/
structure Disconnect where
  code : Int := 0
  error : String := ""
  deriving DecidableEq, Repr, Inhabited

/-- The structured record a Control message carries. -/
inductive ControlRecord where
  | connect (c : Connect)
  | disconnect (d : Disconnect)
  deriving DecidableEq, Repr, Inhabited

/-- Message id of Connect records. -/
def connectId : Int := 1

/-- Message id of Disconnect records. -/
def disconnectId : Int := 2

namespace ControlRecord

/-- The message id of a record. -/
def msgId : ControlRecord → Int
  | .connect _ => connectId
  | .disconnect _ => disconnectId

/-- The name of a record. -/
def name : ControlRecord → String
  | .connect _ => "Connect"
  | .disconnect _ => "Disconnect"

/-- A record written field by field with field names. -/
def text : ControlRecord → String
  | .connect c =>
    let hs := " ".intercalate (c.headers.map fun h =>
      "\x7bHeader:" ++ h.name ++ " Value:" ++ h.value ++ "\x7d")
    "&\x7bMethod:" ++ c.method.name ++ " Code:" ++ toString c.code ++ " Size:" ++ toString c.size ++
      " Path:" ++ c.path ++ " Headers:[" ++ hs ++ "]\x7d"
  | .disconnect d => "&\x7bCode:" ++ toString d.code ++ " Error:" ++ d.error ++ "\x7d"

end ControlRecord

/-- The unit exchanged through a channel. -/
structure Message where
  kind : MessageKind
  msgId : Int := 0
  addr : Int := 0
  payload : ByteArray := ByteArray.empty
  record : Option ControlRecord := none
  deriving Inhabited

namespace Message

/-- A Data message. -/
def data (addr : Int) (payload : ByteArray) : Message := { kind := .data, addr, payload }

/-- A Control message carrying a record. -/
def control (addr : Int) (r : ControlRecord) : Message :=
  { kind := .control, msgId := r.msgId, addr, record := some r }

/-- A Connect message. -/
def connect (addr : Int) (c : Connect) : Message := control addr (.connect c)

/-- A Disconnect message. -/
def disconnect (addr : Int) (d : Disconnect) : Message := control addr (.disconnect d)

/-- A State message. -/
def ofState (s : LifeState) : Message := { kind := .state, msgId := s.code }

/-- The state a State message carries, when its id names one. -/
def state? (m : Message) : Option LifeState := LifeState.ofInt? m.msgId

/-- The Connect record of a Control message with the Connect id; an empty record when it carries
none of that kind. -/
def asConnect? (m : Message) : Option Connect :=
  if m.kind = .control && m.msgId = connectId then
    match m.record with
    | some (.connect c) => some c
    | _ => some {}
  else none

/-- The Disconnect record of a Control message with the Disconnect id; an empty record when it
carries none of that kind. -/
def asDisconnect? (m : Message) : Option Disconnect :=
  if m.kind = .control && m.msgId = disconnectId then
    match m.record with
    | some (.disconnect d) => some d
    | _ => some {}
  else none

/-- The record name a Control message's id stands for; empty for other messages. -/
def controlName (m : Message) : String :=
  if m.kind ≠ .control then ""
  else if m.msgId = connectId then "Connect"
  else if m.msgId = disconnectId then "Disconnect"
  else "msgid=" ++ toString m.msgId

/-- Whether a message is a Disconnect. -/
def isDisconnect (m : Message) : Bool := m.kind = .control && m.msgId = disconnectId

/-- The text form of a message. -/
def text (m : Message) : String :=
  match m.kind with
  | .state => "State " ++ LifeState.nameOfInt m.msgId
  | .control =>
    "Control " ++ m.controlName ++ " addr=" ++ toString m.addr ++ " " ++
      ((m.record.map ControlRecord.text).getD "<nil>")
  | _ => "Data addr=" ++ toString m.addr ++ " size=" ++ toString m.payload.size

end Message

end ChannelMux
