import ChannelMux.Text.Utf8

/-! Event streams (`text/event-stream`), the format of server-sent events. -/

namespace ChannelMux.EventStream

/-- The field name and separator that start each line of an event's data. -/
def dataPrefix : List UInt8 := [0x64, 0x61, 0x74, 0x61, 0x3A, 0x20]

/-- The bytes of the event that carries a payload. -/
def encode (payload : List UInt8) : List UInt8 :=
  ((payload.splitOn 10).flatMap fun line => dataPrefix ++ line ++ [10]) ++ [10]

/-- An event as a client dispatches it. -/
structure Event where
  type : List Char
  data : List Char
  lastEventId : List Char
  deriving DecidableEq, Repr

/-- An event of the default type `message`, with no event id. -/
def Event.message (data : List Char) : Event := ⟨"message".toList, data, []⟩

/-- What follows a CR: a LF right after it belongs to the same line end. -/
def skipLF : List Char → List Char
  | '\n' :: rest => rest
  | rest => rest

theorem length_skipLF_le (rest : List Char) : (skipLF rest).length ≤ rest.length := by
  unfold skipLF
  split <;> simp

/-- The lines of a text, `line` being the part of the current line read so far; what follows
the last line end is dropped. -/
def linesFrom : List Char → List Char → List (List Char)
  | [], _ => []
  | c :: rest, line =>
    if c = '\n' then line :: linesFrom rest []
    else if c = '\r' then line :: linesFrom (skipLF rest) []
    else linesFrom rest (line ++ [c])
termination_by text => text.length
decreasing_by
  all_goals simp only [List.length_cons]
  all_goals have := length_skipLF_le rest
  all_goals omega

@[simp] theorem linesFrom_nil (line : List Char) : linesFrom [] line = [] := by
  rw [linesFrom]

theorem linesFrom_lf (rest line : List Char) :
    linesFrom ('\n' :: rest) line = line :: linesFrom rest [] := by
  rw [linesFrom, if_pos rfl]

theorem linesFrom_cr (rest line : List Char) :
    linesFrom ('\r' :: rest) line = line :: linesFrom (skipLF rest) [] := by
  rw [linesFrom, if_neg (by decide), if_pos rfl]

theorem linesFrom_other {c : Char} (lf : c ≠ '\n') (cr : c ≠ '\r') (rest line : List Char) :
    linesFrom (c :: rest) line = linesFrom rest (line ++ [c]) := by
  rw [linesFrom, if_neg lf, if_neg cr]

/-- The lines of a text. -/
def lines (text : List Char) : List (List Char) := linesFrom text []

/-- The text of a stream: its bytes decoded, less a leading byte order mark. -/
def decode (bytes : List UInt8) : List Char :=
  Text.utf8Decode (if bytes.take 3 = [0xEF, 0xBB, 0xBF] then bytes.drop 3 else bytes)

/-- What a client has gathered: the type and data of the coming event, the last event id, and
the events dispatched so far. -/
structure Reader where
  type : List Char := []
  data : List Char := []
  lastId : List Char := []
  events : List Event := []

namespace Reader

/-- Dispatches the event gathered, if it has data, and clears its type and data. -/
def dispatch (r : Reader) : Reader :=
  if r.data.isEmpty then { r with type := [] }
  else
    let data := if r.data.getLast? = some '\n' then r.data.dropLast else r.data
    let type := if r.type.isEmpty then "message".toList else r.type
    { r with type := [], data := [], events := r.events ++ [⟨type, data, r.lastId⟩] }

/-- Takes one field. -/
def field (r : Reader) (name value : List Char) : Reader :=
  if name = "event".toList then { r with type := value }
  else if name = "data".toList then { r with data := r.data ++ value ++ ['\n'] }
  else if name = "id".toList then (if '\x00' ∈ value then r else { r with lastId := value })
  else r

/-- The value of a field less one leading space. -/
def fieldValue : List Char → List Char
  | ' ' :: value => value
  | value => value

/-- Takes one line: an empty line dispatches, a comment is skipped, any other line is a field. -/
def line (r : Reader) : List Char → Reader
  | [] => r.dispatch
  | ':' :: _ => r
  | l =>
    match l.span (· != ':') with
    | (name, []) => r.field name []
    | (name, _ :: value) => r.field name (fieldValue value)

end Reader

/-- The events a client reads from a stream, in order. -/
def read (bytes : List UInt8) : List Event :=
  ((lines (decode bytes)).foldl Reader.line {}).events

end ChannelMux.EventStream
