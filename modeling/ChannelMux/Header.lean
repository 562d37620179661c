import ChannelMux.Text.Case

/-! Header lines and header maps. -/

namespace ChannelMux

/-- One header line: a name and a value. -/
structure HeaderLine where
  name : String
  value : String
  deriving DecidableEq, Repr, Inhabited

/-- Bytes allowed in a header name: ASCII letters, digits and ``!#$%&'*+-.^_`|~``. -/
def isTokenChar (c : Char) : Bool :=
  ('a' ≤ c && c ≤ 'z') || ('A' ≤ c && c ≤ 'Z') || ('0' ≤ c && c ≤ '9') ||
    "!#$%&*+-.^_|~".toList.contains c || c.toNat == 0x27 || c.toNat == 0x60

/-- Canonical letters of a name made of token characters: upper case at the start and after each
hyphen, lower case elsewhere. -/
def canonicalChars : Bool → List Char → List Char
  | _, [] => []
  | up, c :: cs =>
    let c' := if up then c.toUpper else c.toLower
    c' :: canonicalChars (c' = '-') cs

/-- The canonical form of a header name. -/
def canonicalName (name : String) : String :=
  if name.toList.all isTokenChar then String.ofList (canonicalChars true name.toList) else name

/-- Names with their values, in the order they were first written. -/
structure HeaderMap where
  entries : List (String × List String)
  deriving DecidableEq, Repr, Inhabited

namespace HeaderMap

/-- The map with `name` bound to `values` exactly as given, replacing an earlier binding. -/
def put (h : HeaderMap) (name : String) (values : List String) : HeaderMap :=
  if h.entries.any (·.1 == name) then
    ⟨h.entries.map fun (k, vs) => if k == name then (k, values) else (k, vs)⟩
  else ⟨h.entries ++ [(name, values)]⟩

/-- The map with `values` added after those already bound to `name` exactly as given; a name
not yet bound is bound, even to no values. -/
def add (h : HeaderMap) (name : String) (values : List String) : HeaderMap :=
  if h.entries.any (·.1 == name) then
    ⟨h.entries.map fun (k, vs) => if k == name then (k, vs ++ values) else (k, vs)⟩
  else ⟨h.entries ++ [(name, values)]⟩

/-- The values under a name as written. -/
def get (h : HeaderMap) (name : String) : List String :=
  ((h.entries.find? (·.1 == name)).map (·.2)).getD []

/-- Sets a header to one value, under the canonical name. -/
def set (h : HeaderMap) (name value : String) : HeaderMap := h.put (canonicalName name) [value]

/-- Removes a header, under the canonical name. -/
def erase (h : HeaderMap) (name : String) : HeaderMap :=
  let k := canonicalName name
  ⟨h.entries.filter (·.1 != k)⟩

/-- Applies header lines in order: an empty value removes the header, another value sets it. -/
def apply (h : HeaderMap) (lines : List HeaderLine) : HeaderMap :=
  lines.foldl (fun acc l => if l.value.isEmpty then acc.erase l.name else acc.set l.name l.value) h

/-- The bindings in increasing order of names. -/
def sorted (h : HeaderMap) : List (String × List String) :=
  h.entries.mergeSort (fun a b => decide (a.1 ≤ b.1))

/-- The header lines of a map: names in order of their lower-cased form, each value under the
lower-cased name, the values of one name in their order. -/
def normalize (h : HeaderMap) : List HeaderLine :=
  let named := h.entries.map fun (k, vs) => (Text.lower k, vs)
  let ordered := named.mergeSort (fun a b => decide (a.1 ≤ b.1))
  ordered.flatMap fun (k, vs) => vs.map fun v => ⟨k, v⟩

end HeaderMap

/-- A header line with a value that differs from run to run (a date, a websocket key or accept
token) replaced by a fixed placeholder, so that recorded exchanges compare. -/
def HeaderLine.masked (l : HeaderLine) : HeaderLine :=
  match Text.lower l.name with
  | "date" => { l with value := "<date>" }
  | "sec-websocket-key" => { l with value := "<key>" }
  | "sec-websocket-accept" => { l with value := "<accept>" }
  | _ => l

end ChannelMux
