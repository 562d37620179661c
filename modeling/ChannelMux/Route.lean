import ChannelMux.Failure
import ChannelMux.Log
import ChannelMux.Text.Quote

/-! Route tables: patterns bound to handlers. A pattern is an exact path, or a prefix followed by
one `*`, which matches every path that starts with the prefix. -/

namespace ChannelMux

/-- Why a pattern is not one. -/
inductive PatternError where
  | empty
  | innerStar (pattern : Text.ByteText)
  deriving DecidableEq, Repr

/-- The message of a bad pattern. -/
def PatternError.text : PatternError → String
  | .empty => "empty path pattern"
  | .innerStar p => "path pattern " ++ p.quote ++ ": " ++ String.ofList [Char.ofNat 0x27, '*', Char.ofNat 0x27] ++ " is only allowed at the end"

/-- A bad pattern is a configuration failure. -/
def PatternError.failure (e : PatternError) : Failure := Failure.config e.text

/-- A pattern is non-empty and has at most one `*`, as its last byte. -/
def validatePattern (p : Text.ByteText) : Except PatternError Unit :=
  if p.isEmpty then .error .empty
  else if p.bytes.dropLast.contains '*'.toUInt8 then .error (.innerStar p)
  else .ok ()

/-- The prefix of a wildcard pattern; `none` for an exact one. -/
def wildcardPrefix? (p : String) : Option String :=
  match p.toList.getLast? with
  | some '*' => some (String.ofList p.toList.dropLast)
  | _ => none

/-- The value a map kept as a list of entries holds for a key. -/
def keyValue? {α : Type} (m : List (String × α)) (k : String) : Option α :=
  (m.find? (·.1 == k)).map (·.2)

/-- A map kept as a list of entries with a key set: its entry is replaced, or a new one is added
at the end. -/
def setKey {α : Type} (k : String) (v : α) : List (String × α) → List (String × α)
  | [] => [(k, v)]
  | e :: rest => if e.1 = k then (k, v) :: rest else e :: setKey k v rest

/-- Prefixes sorted by length in bytes, longest first; prefixes of one length keep their order. -/
def longestFirst (ps : List String) : List String :=
  ps.mergeSort fun a b => decide (b.utf8ByteSize ≤ a.utf8ByteSize)

/-- A snapshot of a route table. -/
structure RouteTable (α : Type) where
  /-- Exact patterns and their handlers. -/
  exact : List (String × α) := []
  /-- Wildcard prefixes, each a pattern without its `*`, and their handlers. -/
  wildcard : List (String × α) := []
  /-- The wildcard prefixes, longest first. -/
  prefixes : List String := []
  deriving Repr, Inhabited

/-- A pattern and the handler a lookup found. -/
structure RouteMatch (α : Type) where
  pattern : String
  handler : α
  deriving Repr

namespace RouteTable

variable {α : Type}

/-- The words a table puts in front of its errors. -/
def logName : String := "router"

/-- The handler bound to a pattern; a wildcard pattern is found by its prefix. -/
def find? (t : RouteTable α) (p : String) : Option α :=
  match wildcardPrefix? p with
  | some pre => keyValue? t.wildcard pre
  | none => keyValue? t.exact p

/-- Binds a pattern in a snapshot that no lookup sees yet. -/
def add (t : RouteTable α) (p : String) (h : α) : RouteTable α :=
  match wildcardPrefix? p with
  | some pre =>
    { t with wildcard := setKey pre h t.wildcard, prefixes := longestFirst (t.prefixes ++ [pre]) }
  | none => { t with exact := setKey p h t.exact }

/-- Binds a pattern. A bad pattern or one already bound is refused and the table is kept; errors
carry the table's prefix. -/
def register (t : RouteTable α) (logger : Logger) (p : String) (h : α) : Except Failure (RouteTable α) :=
  let l := logger.fork logName
  match validatePattern (.ofString p) with
  | .error e => .error (e.failure.within l.prefixText)
  | .ok () =>
    if (t.find? p).isSome then
      .error ((Failure.make .routingConflict ("path " ++ Text.quote p ++ " already registered")).within l.prefixText)
    else .ok (t.add p h)

/-- A snapshot of exact and wildcard bindings, added one at a time in the order given, the exact
ones first. -/
def rebuild (exact wildcard : List (String × α)) : RouteTable α :=
  wildcard.foldl (fun t e => t.add (e.1 ++ "*") e.2) (exact.foldl (fun t e => t.add e.1 e.2) {})

/-- Removes a binding when the pattern is bound to exactly this handler, by building the snapshot
again from the other bindings; tells whether it was. -/
def unregister [BEq α] (t : RouteTable α) (p : String) (h : α) : RouteTable α × Bool :=
  match t.find? p with
  | some g =>
    if g == h then (rebuild (t.exact.filter (·.1 != p)) (t.wildcard.filter (·.1 ++ "*" != p)), true)
    else (t, false)
  | none => (t, false)

/-- The exact binding of a path, else the first of the wildcard prefixes, longest first, that
starts the path. -/
def lookup [Inhabited α] (t : RouteTable α) (path : String) : Option (RouteMatch α) :=
  match keyValue? t.exact path with
  | some h => some ⟨path, h⟩
  | none =>
    match t.prefixes.find? (path.startsWith ·) with
    | some pre => some ⟨pre ++ "*", (keyValue? t.wildcard pre).getD default⟩
    | none => none

/-- The bound patterns in increasing order. -/
def patterns (t : RouteTable α) : List String :=
  (t.exact.map (·.1) ++ t.wildcard.map (·.1 ++ "*")).mergeSort fun a b => decide (a ≤ b)

/-- The number of bindings. -/
def size (t : RouteTable α) : Nat := t.exact.length + t.wildcard.length

end RouteTable

end ChannelMux
