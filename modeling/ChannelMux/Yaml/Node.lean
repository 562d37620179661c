import ChannelMux.Yaml.Event
import ChannelMux.Yaml.Tag

/-! Composing the first document of a YAML stream into a tree of nodes. -/

namespace ChannelMux.Yaml

/-- A node of a composed document. -/
inductive Node where
  /-- A scalar with its short tag, its text and its line. -/
  | scalar (tag : String) (text : String) (line : Nat)
  /-- A sequence with its short tag, its items and its line. -/
  | sequence (tag : String) (items : List Node) (line : Nat)
  /-- A mapping with its short tag, its key and value pairs in order, and its line. -/
  | mapping (tag : String) (entries : List (Node × Node)) (line : Nat)
  /-- An alias: the anchor name, the anchor table slot, a serial number of its own, and its
  line. -/
  | alias (name : String) (slot : Nat) (serial : Nat) (line : Nat)
  deriving Repr, Inhabited

/-- The line a node starts on. -/
def Node.line : Node → Nat
  | .scalar _ _ l | .sequence _ _ l | .mapping _ _ l | .alias _ _ _ l => l

/-- The text of a node: the scalar's text or the alias's anchor name. -/
def Node.text : Node → String
  | .scalar _ t _ => t
  | .alias name _ _ _ => name
  | _ => ""

/-- The prefix of the standard tags in long form. -/
def standardPrefix : String := "tag:yaml.org,2002:"

/-- A tag in short form: the standard prefix becomes `!!`. -/
def shortTag (tag : String) : String :=
  if tag.startsWith standardPrefix then "!!" ++ String.ofList (tag.toList.drop standardPrefix.length)
  else tag

/-- A composed document: its root (none for an empty stream) and the anchor table. -/
structure Document where
  root : Option Node
  anchors : Array Node
  deriving Inhabited

/-- The composer's state: the parser, one event read ahead, the anchor names with their slots,
the anchor table, and the count of aliases read. -/
structure Composer where
  parser : Parser
  ahead : Option Event := none
  names : List (String × Nat) := []
  table : Array Node := #[]
  aliases : Nat := 0
  deriving Inhabited

/-- Why composing stopped: a problem of the scanner or parser, or a message of the composer. -/
inductive ComposeError where
  | problem (p : Problem)
  | failure (message : String)
  deriving Inhabited

/-- The text of a composing error. -/
def ComposeError.message : ComposeError → String
  | .problem p => p.message
  | .failure m => "yaml: " ++ m

/-- Composing steps. -/
abbrev ComposeM := StateT Composer (Except ComposeError)

/-- The next event, without consuming it. -/
def peekEvent : ComposeM Event := do
  let c ← get
  match c.ahead with
  | some e => return e
  | none =>
    match nextEvent.run c.parser with
    | .ok (e, p) => set { c with parser := p, ahead := some e }; return e
    | .error e => throw (.problem e)

/-- Consumes the event read ahead. -/
def dropEvent : ComposeM Unit := modify fun c => { c with ahead := none }

/-- Whether an event is the end of a sequence. -/
def EventKind.isSequenceEnd : EventKind → Bool
  | .sequenceEnd => true
  | _ => false

/-- Whether an event is the end of a mapping. -/
def EventKind.isMappingEnd : EventKind → Bool
  | .mappingEnd => true
  | _ => false

/-- Reserves a slot for an anchor, answering it. -/
def reserveAnchor (anchor : Option String) : ComposeM (Option Nat) := do
  match anchor with
  | none => return none
  | some name =>
    let c ← get
    let slot := c.table.size
    set { c with names := (name, slot) :: c.names, table := c.table.push default }
    return some slot

/-- Fills an anchor's slot with its completed node. -/
def fillAnchor (slot : Option Nat) (n : Node) : ComposeM Unit :=
  match slot with
  | none => pure ()
  | some i => modify fun c => { c with table := c.table.modify i fun _ => n }

/-- The tag a node gets: an explicit tag other than `!` in short form, else the default of its
kind. -/
def nodeTag (explicit default : String) : String :=
  if !explicit.isEmpty && explicit != "!" then shortTag explicit else default

mutual

/-- Composes one node from the events, starting at the next one. -/
def composeNode : Nat → ComposeM Node
  | 0 => throw (.failure "document nesting is too deep")
  | fuel + 1 => do
    let e ← peekEvent
    let line := e.start.line + 1
    match e.kind with
    | .alias name =>
      let c ← get
      match c.names.lookup name with
      | none =>
        let tick := String.singleton (Char.ofNat 39)
        throw (.failure ("unknown anchor " ++ tick ++ name ++ tick ++ " referenced"))
      | some slot =>
        set { c with aliases := c.aliases + 1 }
        dropEvent
        return .alias name slot c.aliases line
    | .scalar anchor tag text style =>
      let fallback :=
        if style != .plain then "!!str"
        else if text == "<<" then "!!merge"
        else plainTag text
      let n := Node.scalar (nodeTag tag fallback) text line
      let slot ← reserveAnchor anchor
      fillAnchor slot n
      dropEvent
      return n
    | .sequenceStart anchor tag _ =>
      let slot ← reserveAnchor anchor
      dropEvent
      let items ← composeItems fuel
      dropEvent
      let n := Node.sequence (nodeTag tag "!!seq") items line
      fillAnchor slot n
      return n
    | .mappingStart anchor tag _ =>
      let slot ← reserveAnchor anchor
      dropEvent
      let entries ← composeEntries fuel
      dropEvent
      let n := Node.mapping (nodeTag tag "!!map") entries line
      fillAnchor slot n
      return n
    | _ => throw (.failure "attempted to go past the end of stream; corrupted value?")

/-- Composes sequence items up to the end of the sequence. -/
def composeItems : Nat → ComposeM (List Node)
  | 0 => throw (.failure "document nesting is too deep")
  | fuel + 1 => do
    let e ← peekEvent
    if e.kind.isSequenceEnd then return []
    let item ← composeNode fuel
    let rest ← composeItems fuel
    return item :: rest

/-- Composes mapping entries up to the end of the mapping. -/
def composeEntries : Nat → ComposeM (List (Node × Node))
  | 0 => throw (.failure "document nesting is too deep")
  | fuel + 1 => do
    let e ← peekEvent
    if e.kind.isMappingEnd then return []
    let key ← composeNode fuel
    let value ← composeNode fuel
    let rest ← composeEntries fuel
    return (key, value) :: rest

end

/-- Expects an event of a given kind and consumes it. -/
def expectEvent (ok : EventKind → Bool) (name : String) : ComposeM Unit := do
  let e ← peekEvent
  if ok e.kind then dropEvent
  else
    match e.kind with
    | .streamEnd => throw (.failure "attempted to go past the end of stream; corrupted value?")
    | _ => throw (.failure ("expected " ++ name ++ " event"))

/-- Composes the first document of a stream: none when the stream holds no document. The
events after the first document's end are not read. -/
def composeDocument (fuel : Nat) : ComposeM Document := do
  expectEvent (fun | .streamStart => true | _ => false) "STREAM-START"
  let e ← peekEvent
  match e.kind with
  | .streamEnd => return { root := none, anchors := (← get).table }
  | .documentStart =>
    dropEvent
    let root ← composeNode fuel
    expectEvent (fun | .documentEnd => true | _ => false) "DOCUMENT-END"
    return { root := some root, anchors := (← get).table }
  | _ =>
    let root ← composeNode fuel
    return { root := some root, anchors := (← get).table }

/-- Reads the first document of a YAML text, as the reader hands its characters over. -/
def readDocument (text : String) : Except String Document :=
  let (chars, reads) := readerInput text
  let start : Composer := { parser := { scanner := { input := chars, reads } } }
  match (composeDocument (4 * chars.size + 16)).run' start with
  | .ok d => .ok d
  | .error e => .error e.message

end ChannelMux.Yaml
