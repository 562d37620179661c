import ChannelMux.Http.Request

/-! What one exchange of a request channel dispatches on its address. -/

namespace ChannelMux.Http

/-- What the classification of a failed exchange reads of an error. -/
structure TransferError where
  dns : Option Bool := none
  deadline : Bool := false
  timeout : Bool := false
  op : Option String := none
  canceled : Bool := false
  text : String := ""
  deriving Repr, Inhabited

/-- The Disconnect code of a failed exchange, numbered as libcurl numbers its results. -/
def TransferError.code (e : TransferError) : Int :=
  match e.dns with
  | some true => 28
  | some false => 6
  | none =>
    if e.deadline || e.timeout then 28
    else
      match e.op with
      | some "dial" | some "proxyconnect" => 7
      | some "write" => 55
      | _ => if e.canceled then 42 else 56

/-- The Disconnect reporting a failed exchange. -/
def TransferError.disconnect (e : TransferError) : Disconnect := ⟨e.code, e.text⟩

/-- How reading a body ends once its bytes are read. -/
inductive Ending where
  | eof
  | truncated
  | failed (e : TransferError)
  deriving Repr, Inhabited

/-- The Disconnect an exchange ends with when its body ends this way. -/
def Ending.disconnect : Ending → Disconnect
  | .eof | .truncated => {}
  | .failed e => e.disconnect

/-- What is left of a response body: its bytes, then how reading it ends. -/
structure Body where
  bytes : List UInt8
  ending : Ending
  deriving Repr, Inhabited

/-- Reads a body as an exchange does, one `io.ReadFull` of `chunk` bytes at a time. -/
def Body.chunks (b : Body) (addr : Int) (chunk : Nat) : List Message × Disconnect :=
  if _ : 0 < chunk ∧ chunk ≤ b.bytes.length then
    let (more, final) := Body.chunks { b with bytes := b.bytes.drop chunk } addr chunk
    (Message.data addr ⟨(b.bytes.take chunk).toArray⟩ :: more, final)
  else
    (if b.bytes.isEmpty then [] else [Message.data addr ⟨b.bytes.toArray⟩], b.ending.disconnect)
termination_by b.bytes.length
decreasing_by simp only [List.length_drop]; omega

/-- What the client reports for an exchange: no slot or no response, with the error; or a
response with its status, announced length, headers and body. -/
inductive Reply where
  | failed (e : TransferError)
  | answered (status : Int) (length : Int) (header : HeaderMap) (body : Body)
  deriving Repr, Inhabited

/-- What an exchange on `addr` to `target` dispatches when nothing withdraws it: the messages before
its end, and the Disconnect it ends with. -/
def Reply.plan (reply : Reply) (addr : Int) (target : String) (chunk : Nat) :
    List Message × Disconnect :=
  match reply with
  | .failed e => ([], e.disconnect)
  | .answered status length header body =>
    let response : Connect := { code := status, size := length, path := target,
                                headers := header.normalize }
    let (data, final) := body.chunks addr chunk
    (Message.connect addr response :: data, final)

end ChannelMux.Http
