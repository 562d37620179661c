/-! Port names in session texts. -/

namespace ChannelMux.Session

/-- Known ports by name. -/
abbrev PortNames := List (String × Nat)

/-- The text that opens a port reference. -/
def referenceOpen : String := "$\x7bPORT:"

/-- The port reference of a name. -/
def reference (name : String) : String := referenceOpen ++ name ++ "\x7d"

/-- One piece after an opening: the name up to the closing brace and the rest, replaced by the
port when the name is known. -/
def expandPiece (ports : PortNames) (piece : String) : String :=
  match piece.toList.span (· != '\x7d') with
  | (name, _ :: rest) =>
    match ports.lookup (String.ofList name) with
    | some port => toString port ++ String.ofList rest
    | none => referenceOpen ++ piece
  | (_, []) => referenceOpen ++ piece

/-- Replaces the port references with known names by their ports. -/
def expandPorts (ports : PortNames) (s : String) : String :=
  match s.splitOn referenceOpen with
  | first :: pieces => first ++ String.join (pieces.map (expandPiece ports))
  | [] => s

/-- The name of a known port spelled by a digit run. -/
def portName? (ports : PortNames) (digits : String) : Option String :=
  (ports.find? fun (_, p) => toString p == digits).map (·.1)

/-- One piece after a `:`: its leading digits replaced by a reference when they spell a known port. -/
def maskPiece (ports : PortNames) (piece : String) : String :=
  let (digits, rest) := piece.toList.span Char.isDigit
  match digits, portName? ports (String.ofList digits) with
  | _ :: _, some name => reference name ++ String.ofList rest
  | _, _ => piece

/-- Writes known ports after a `:` as references. -/
def maskPorts (ports : PortNames) (s : String) : String :=
  match s.splitOn ":" with
  | first :: pieces => ":".intercalate (first :: pieces.map (maskPiece ports))
  | [] => s

end ChannelMux.Session
