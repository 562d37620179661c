import ChannelMux.Http.Response
import ChannelMux.EventStream
import ChannelMux.Message

/-! How an HTTP node or an event-stream node serves one request once its Connect, and for an HTTP
node its body, have been delivered to the sub. -/

namespace ChannelMux.Socket

/-- What a serving loop takes next. -/
inductive Turn where
  | reply (m : Message)
  | clientGone
  | closing

/-- The code of the Disconnect for a request the client left before it was complete. -/
def codeAborted : Int := 42

/-- The Disconnect for a request the client left. -/
def clientLeft : Disconnect := ⟨codeAborted, "client disconnected"⟩

/-- How serving a request ends: the handler returns, giving the Disconnect for the sub; it
panics; or it still waits for its next turn. -/
inductive Outcome where
  | done (w : Http.Writer) (d : Disconnect)
  | panicked (w : Http.Writer) (message : String)
  | waiting (w : Http.Writer)

/-- What the client receives: the finished response of a handler that returned, and only the
informational heads of one that panicked, whose connection is closed. -/
def Outcome.response : Outcome → Option Http.Response
  | .done w _ => some w.finish.response
  | .panicked w _ => some ⟨w.informational, none⟩
  | .waiting _ => none

/-- A header with the plain-text content type when it has none. -/
def withPlainText (h : HeaderMap) : HeaderMap :=
  if ((h.get "Content-Type").head?.getD "").isEmpty then
    h.set "Content-Type" "text/plain; charset=utf-8"
  else h

/-- Ends a response the sub closed without a body: an error status gets its reason phrase as
the body, as plain text unless the sub chose a content type. -/
def writeEmpty (w : Http.Writer) (code : Int) : Except String Http.Writer :=
  if code < 400 then w.writeHeader code
  else do
    let w ← { w with header := withPlainText w.header }.writeHeader code
    return (w.write (Http.statusText code).toUTF8.toList).1

/-- Ends an exchange on a Disconnect reply. -/
def endEmpty (w : Http.Writer) (code : Int) : Outcome :=
  match writeEmpty w code with
  | .ok w => .done w {}
  | .error e => .panicked w e

/-- Ends an exchange on a Data reply: writes the status and then the payload; a refused write
ends it with code 42 and the writer's error. -/
def endWithBody (w : Http.Writer) (code : Int) (payload : List UInt8) : Outcome :=
  match w.writeHeader code with
  | .error e => .panicked w e
  | .ok w =>
    match w.write payload with
    | (w, some e) => .done w ⟨codeAborted, e⟩
    | (w, none) => .done w {}

/-- The reply loop of an HTTP exchange, with the status chosen so far. -/
def answer (w : Http.Writer) (code : Int) : List Turn → Outcome
  | [] => .waiting w
  | .clientGone :: _ => .done w clientLeft
  | .closing :: _ =>
    match w.error "Service closing" 503 with
    | .ok w => .done w ⟨503, "node closed"⟩
    | .error e => .panicked w e
  | .reply m :: rest =>
    match m.asConnect? with
    | some c =>
      answer { w with header := w.header.apply c.headers } (if c.code = 0 then code else c.code) rest
    | none =>
      if m.asDisconnect?.isSome then endEmpty w code
      else if m.kind = .data then endWithBody w code m.payload.toList
      else answer w code rest

/-- Serves a plain HTTP request to a HEAD request or not, given the fault of reading its body. -/
def exchange (isHead : Bool) (bodyFault : Option String) (turns : List Turn) : Outcome :=
  match bodyFault with
  | some e => .done { isHead } ⟨codeAborted, "read request body: " ++ e⟩
  | none => answer { isHead } 200 turns

/-- The stream loop of an event-stream request, after its head: the bytes it writes and, once it
ends, the Disconnect for the sub. -/
def stream : List Turn → List UInt8 × Option Disconnect
  | [] => ([], none)
  | .clientGone :: _ => ([], some clientLeft)
  | .closing :: _ => ([], some {})
  | .reply m :: rest =>
    if m.asDisconnect?.isSome then ([], some {})
    else if m.kind = .data then
      let (bytes, d) := stream rest
      (EventStream.encode m.payload.toList ++ bytes, d)
    else stream rest

/-- Serves an event-stream request: the response so far, with status 200, the event-stream type
and no caching, and, once the stream ends, the Disconnect for the sub. -/
def serveEvents (isHead : Bool) (turns : List Turn) : Http.Response × Option Disconnect :=
  let header := (((⟨[]⟩ : HeaderMap).set "Content-Type" "text/event-stream").set
    "Cache-Control" "no-cache").set "Connection" "keep-alive"
  let (bytes, d) := stream turns
  (⟨[], some (⟨200, header⟩, if isHead then [] else bytes)⟩, d)

end ChannelMux.Socket
