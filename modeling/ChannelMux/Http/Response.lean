import ChannelMux.Header
import ChannelMux.Text.Decimal
import ChannelMux.Http.Status

/-! Responses as a handler writes them, by the rules of the server's response writer. -/

namespace ChannelMux.Http

/-- A status with the header sent with it. -/
structure Head where
  status : Int
  header : HeaderMap
  deriving DecidableEq, Repr

/-- What a client receives: informational heads in order, then the final head and the body,
unless the connection was closed without a final response. -/
structure Response where
  informational : List Head := []
  final : Option (Head × List UInt8) := none
  deriving DecidableEq, Repr

/-- Statuses sent as informational responses. -/
def isInformational (code : Int) : Bool := 100 ≤ code && code ≤ 199 && code != 101

/-- Whether a response with a status may carry a body. -/
def bodyAllowed (code : Int) : Bool := !(100 ≤ code && code ≤ 199) && code != 204 && code != 304

/-- The body length a header declares: a `Content-Length` that reads as a non-negative
number. -/
def declaredLength (h : HeaderMap) : Option Nat :=
  match (h.get "Content-Length").head? with
  | some text =>
    match Text.readInt64 text.toList with
    | .ok n => if 0 ≤ n then some n.toNat else none
    | .error _ => none
  | none => none

/-- The header sent with an informational status: the map less its framing fields. -/
def withoutFraming (h : HeaderMap) : HeaderMap :=
  (h.erase "Content-Length").erase "Transfer-Encoding"

/-- The message of the panic on a status outside 100 to 999. -/
def invalidCode (code : Int) : String := "invalid WriteHeader code " ++ toString code

/-- The error of a write after a status that allows no body. -/
def bodyNotAllowed : String := "http: request method or response status code does not allow body"

/-- The error of a write past the declared length. -/
def pastDeclaredLength : String := "http: wrote more than the declared Content-Length"

/-- The state of a response being written. -/
structure Writer where
  isHead : Bool
  header : HeaderMap := ⟨[]⟩
  informational : List Head := []
  final : Option Head := none
  declared : Option Nat := none
  written : Nat := 0
  body : List UInt8 := []

namespace Writer

/-- Writes the final status with the header as it stands. -/
def commit (w : Writer) (code : Int) : Writer :=
  { w with final := some ⟨code, w.header⟩, declared := declaredLength w.header }

/-- Writes a status; the error is the panic's message. -/
def writeHeader (w : Writer) (code : Int) : Except String Writer :=
  if code < 100 || 999 < code then .error (invalidCode code)
  else if isInformational code then
    .ok { w with informational := w.informational ++ [⟨code, withoutFraming w.header⟩] }
  else if w.final.isSome then .ok w
  else .ok (w.commit code)

/-- The final status, 200 while none is written. -/
def status (w : Writer) : Int := ((w.final.map (·.status)).getD 200)

/-- Writes body bytes, answering the error of a refused write. -/
def write (w : Writer) (data : List UInt8) : Writer × Option String :=
  let w := if w.final.isNone then w.commit 200 else w
  if data.isEmpty then (w, none)
  else if !bodyAllowed w.status then (w, some bodyNotAllowed)
  else
    let w := { w with written := w.written + data.length }
    if w.declared.any (· < w.written) then (w, some pastDeclaredLength)
    else if w.isHead then (w, none)
    else ({ w with body := w.body ++ data }, none)

/-- Ends the handler: status 200 when no final status was written. -/
def finish (w : Writer) : Writer := if w.final.isNone then w.commit 200 else w

/-- What the client receives of what was written. -/
def response (w : Writer) : Response :=
  ⟨w.informational, w.final.map fun head => (head, w.body)⟩

/-- Replies with a plain-text error: sets the content type and `nosniff`, writes the status and
then the text with a line feed. -/
def error (w : Writer) (text : String) (code : Int) : Except String Writer := do
  let header := (w.header.set "Content-Type" "text/plain; charset=utf-8").set
    "X-Content-Type-Options" "nosniff"
  let w ← { w with header }.writeHeader code
  return (w.write (text ++ "\n").toUTF8.toList).1

end Writer

end ChannelMux.Http
