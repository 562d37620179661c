/-! Lifecycle states of a channel. A channel rests in `closed`, `active` or `error`; `opening` and
`closing` are passed through on the way. -/

namespace ChannelMux

/-- Where a channel is in its lifecycle. -/
inductive LifeState where
  | closed
  | opening
  | active
  | closing
  | error
  deriving DecidableEq, Repr, Inhabited

namespace LifeState

/-- The states in the order of their numbers. -/
def all : List LifeState := [.closed, .opening, .active, .closing, .error]

/-- The number of a state. -/
def code : LifeState → Nat
  | .closed => 0
  | .opening => 1
  | .active => 2
  | .closing => 3
  | .error => 4

/-- The name of a state. -/
def name : LifeState → String
  | .closed => "Closed"
  | .opening => "Opening"
  | .active => "Active"
  | .closing => "Closing"
  | .error => "Error"

/-- The state with a given number. -/
def ofInt? (n : Int) : Option LifeState := all.find? (fun s => (s.code : Int) = n)

/-- The state a name names. -/
def ofName? (s : String) : Option LifeState := all.find? (·.name == s)

/-- The name of the state with a given number; `Unknown` for numbers that name none. -/
def nameOfInt (n : Int) : String := ((ofInt? n).map name).getD "Unknown"

/-- States a channel can rest in. -/
def settled : LifeState → Bool
  | .closed | .active | .error => true
  | .opening | .closing => false

end LifeState

end ChannelMux
