import ChannelMux.Http.Exchange

/-! The two shapes of what an exchange dispatches. -/

namespace ChannelMux.Http

/-- Pieces of a body as consecutive full reads cut it: every piece but the last has `chunk`
bytes, and the last is non-empty and has at most `chunk`. -/
def Chunked (chunk : Nat) : List (List UInt8) → Prop
  | [] => True
  | [p] => 0 < p.length ∧ p.length ≤ chunk
  | p :: q :: rest => p.length = chunk ∧ Chunked chunk (q :: rest)

theorem TransferError.code_ne_zero (e : TransferError) : e.code ≠ 0 := by
  unfold TransferError.code
  split
  · decide
  · decide
  · split
    · decide
    · split <;> (try split) <;> decide

/-- What an exchange on `addr` to `target` dispatches, given what the client reports. -/
def Reply.Answers (addr : Int) (target : String) (chunk : Nat) :
    Reply → List Message → Disconnect → Prop
  | .failed e, msgs, final => msgs = [] ∧ final = e.disconnect ∧ final.code ≠ 0
  | .answered status length header body, msgs, final =>
    ∃ pieces, Chunked chunk pieces ∧ pieces.flatten = body.bytes ∧
      msgs = Message.connect addr { code := status, size := length, path := target,
                                    headers := header.normalize } ::
        pieces.map (fun p => Message.data addr ⟨p.toArray⟩) ∧
      final = body.ending.disconnect

end ChannelMux.Http
