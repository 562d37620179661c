import ChannelMux.Yaml.Token.Stream

/-! The YAML parser: tokens turned into events (stream, document, collection starts and ends,
scalars, aliases), following the grammar of block and flow collections. -/

namespace ChannelMux.Yaml

/-- What an event is. -/
inductive EventKind where
  | streamStart
  | streamEnd
  | documentStart
  | documentEnd
  | alias (name : String)
  /-- A scalar, with anchor, resolved tag (empty when none), text and style. -/
  | scalar (anchor : Option String) (tag : String) (text : String) (style : ScalarStyle)
  | sequenceStart (anchor : Option String) (tag : String) (flow : Bool)
  | sequenceEnd
  | mappingStart (anchor : Option String) (tag : String) (flow : Bool)
  | mappingEnd
  deriving Repr, Inhabited

/-- An event with the position where it starts. -/
structure Event where
  kind : EventKind
  start : Mark
  deriving Repr, Inhabited

/-- Where the parser is in the grammar. -/
inductive ParseState where
  | streamStart
  | implicitDocumentStart
  | documentStart
  | documentContent
  | documentEnd
  | blockNode
  | blockSequenceFirstEntry
  | blockSequenceEntry
  | indentlessSequenceEntry
  | blockMappingFirstKey
  | blockMappingKey
  | blockMappingValue
  | flowSequenceFirstEntry
  | flowSequenceEntry
  | flowSequenceEntryMappingKey
  | flowSequenceEntryMappingValue
  | flowSequenceEntryMappingEnd
  | flowMappingFirstKey
  | flowMappingKey
  | flowMappingValue
  | flowMappingEmptyValue
  | finished
  deriving DecidableEq, Repr, Inhabited

/-- The parser's state: the scanner, the grammar state with the states to return to, and the
start marks of the open collections. -/
structure Parser where
  scanner : Scanner
  state : ParseState := .streamStart
  states : List ParseState := []
  marks : List Mark := []
  /-- The tag handles of the current document with their prefixes. -/
  tags : List (String × String) := []
  deriving Inhabited

/-- Parsing steps. -/
abbrev ParseM := StateT Parser (Except Problem)

/-- Runs a scanning step inside the parser. -/
def liftScan {α : Type} (m : ScanM α) : ParseM α := do
  let p ← get
  match m.run p.scanner with
  | .ok (a, s) => set { p with scanner := s }; return a
  | .error e => throw e

/-- The next token. -/
def peek : ParseM Token := liftScan peekToken

/-- Consumes the next token. -/
def skip : ParseM Unit := liftScan skipToken

/-- Stops with a parser problem. -/
def parseError {α : Type} (context : String) (contextMark : Mark) (problem : String) (problemMark : Mark) :
    ParseM α :=
  throw { fromScanner := false, context, contextMark, problem, problemMark }

/-- Returns to the state on top of the stack. -/
def popState : ParseM Unit :=
  modify fun p =>
    match p.states with
    | s :: rest => { p with state := s, states := rest }
    | [] => { p with state := .finished }

/-- Saves a state to return to. -/
def pushState (s : ParseState) : ParseM Unit := modify fun p => { p with states := s :: p.states }

/-- Remembers where a collection starts. -/
def pushMark (m : Mark) : ParseM Unit := modify fun p => { p with marks := m :: p.marks }

/-- Forgets the innermost collection start, answering it. -/
def popMark : ParseM Mark := do
  let p ← get
  match p.marks with
  | m :: rest => set { p with marks := rest }; return m
  | [] => return {}

/-- An empty plain scalar at a position. -/
def emptyScalar (m : Mark) : Event := { kind := .scalar none "" "" .plain, start := m }

/-- The handles every document has: `!` for local tags and `!!` for the standard ones. -/
def standardHandles : List (String × String) := [("!", "!"), ("!!", "tag:yaml.org,2002:")]

/-- Whether a token is a directive. -/
def TokenKind.isDirective : TokenKind → Bool
  | .versionDirective _ _ | .tagDirective _ _ => true
  | _ => false

/-- Reads the directives before a document: at most one `%YAML`, which must ask for version
1.1, and `%TAG` lines declaring each handle once. The standard handles not declared are added. -/
def processDirectives : ParseM Unit := do
  let mut version := false
  let mut declared : List (String × String) := []
  for _ in [0:(← get).scanner.input.size + 1] do
    let t ← peek
    match t.kind with
    | .versionDirective major minor =>
      if version then parseError "" {} "found duplicate %YAML directive" t.start
      if major != 1 || minor != 1 then parseError "" {} "found incompatible YAML document" t.start
      version := true
      skip
    | .tagDirective handle pre =>
      if declared.any (·.1 == handle) then parseError "" {} "found duplicate %TAG directive" t.start
      declared := declared ++ [(handle, pre)]
      skip
    | _ => break
  let all := standardHandles.foldl
    (fun acc (h, pre) => if acc.any (·.1 == h) then acc else acc ++ [(h, pre)]) declared
  modify fun p => { p with tags := all }

/-- The full tag for a tag token: an empty handle keeps the suffix as it is, a declared handle
stands for its prefix; other handles are undefined. -/
def resolveTag (handle suffix : String) : ParseM (Option String) := do
  if handle.isEmpty then return some suffix
  return ((← get).tags.lookup handle).map (· ++ suffix)

/-- Parses a node: an alias, or properties (anchor, tag) followed by a scalar, the start of a
collection, or nothing (an empty scalar). -/
def parseNode (block indentless : Bool) : ParseM Event := do
  let t ← peek
  match t.kind with
  | .alias name =>
    popState
    skip
    return { kind := .alias name, start := t.start }
  | _ =>
    let start := t.start
    let mut anchor : Option String := none
    let mut tagged : Option (String × String × Mark) := none
    let mut t := t
    match t.kind with
    | .anchor a =>
      anchor := some a
      skip
      t ← peek
      match t.kind with
      | .tag h s => tagged := some (h, s, t.start); skip; t ← peek
      | _ => pure ()
    | .tag h s =>
      tagged := some (h, s, t.start)
      skip
      t ← peek
      match t.kind with
      | .anchor a => anchor := some a; skip; t ← peek
      | _ => pure ()
    | _ => pure ()
    let tag ← match tagged with
      | none => pure ""
      | some (h, s, m) =>
        match ← resolveTag h s with
        | some full => pure full
        | none => parseError "while parsing a node" start "found undefined tag handle" m
    if indentless && t.kind == .blockEntry then
      modify fun p => { p with state := .indentlessSequenceEntry }
      return { kind := .sequenceStart anchor tag false, start }
    match t.kind with
    | .scalar text style =>
      popState
      skip
      return { kind := .scalar anchor tag text style, start }
    | .flowSequenceStart =>
      modify fun p => { p with state := .flowSequenceFirstEntry }
      return { kind := .sequenceStart anchor tag true, start }
    | .flowMappingStart =>
      modify fun p => { p with state := .flowMappingFirstKey }
      return { kind := .mappingStart anchor tag true, start }
    | .blockSequenceStart =>
      if block then
        modify fun p => { p with state := .blockSequenceFirstEntry }
        return { kind := .sequenceStart anchor tag false, start }
    | .blockMappingStart =>
      if block then
        modify fun p => { p with state := .blockMappingFirstKey }
        return { kind := .mappingStart anchor tag false, start }
    | _ => pure ()
    if anchor.isSome || !tag.isEmpty then
      popState
      return { kind := .scalar anchor tag "" .plain, start }
    parseError (if block then "while parsing a block node" else "while parsing a flow node") start
      "did not find expected node content" t.start

/-- Whether a token is one of the given simple kinds. -/
def TokenKind.isOneOf (k : TokenKind) (ks : List TokenKind) : Bool := ks.contains k

/-- The next event. -/
def nextEvent : ParseM Event := do
  let p ← get
  match p.state with
  | .streamStart =>
    let t ← peek
    if t.kind != .streamStart then parseError "" {} "did not find expected <stream-start>" t.start
    modify fun p => { p with state := .implicitDocumentStart }
    skip
    return { kind := .streamStart, start := t.start }
  | .implicitDocumentStart | .documentStart =>
    let implicit := p.state == .implicitDocumentStart
    let mut t ← peek
    if !implicit then
      for _ in [0:(← get).scanner.input.size + 1] do
        if t.kind == .documentEnd then
          skip
          t ← peek
    if implicit && !t.kind.isDirective && !t.kind.isOneOf [.documentStart, .streamEnd] then
      processDirectives
      pushState .documentEnd
      modify fun p => { p with state := .blockNode }
      return { kind := .documentStart, start := t.start }
    else if t.kind != .streamEnd then
      let start := t.start
      processDirectives
      let next ← peek
      if next.kind != .documentStart then
        parseError "" {} "did not find expected <document start>" next.start
      pushState .documentEnd
      modify fun p => { p with state := .documentContent }
      skip
      return { kind := .documentStart, start }
    else
      modify fun p => { p with state := .finished }
      skip
      return { kind := .streamEnd, start := t.start }
  | .documentContent =>
    let t ← peek
    if t.kind.isDirective || t.kind.isOneOf [.documentStart, .documentEnd, .streamEnd] then
      popState
      return emptyScalar t.start
    parseNode true false
  | .documentEnd =>
    let t ← peek
    if t.kind == .documentEnd then skip
    modify fun p => { p with state := .documentStart, tags := [] }
    return { kind := .documentEnd, start := t.start }
  | .blockNode => parseNode true false
  | .blockSequenceFirstEntry | .blockSequenceEntry =>
    if p.state == .blockSequenceFirstEntry then
      pushMark (← peek).start
      skip
    let t ← peek
    if t.kind == .blockEntry then
      let m := t.stop
      skip
      let t ← peek
      if !t.kind.isOneOf [.blockEntry, .blockEnd] then
        pushState .blockSequenceEntry
        parseNode true false
      else
        modify fun p => { p with state := .blockSequenceEntry }
        return emptyScalar m
    else if t.kind == .blockEnd then
      popState
      let _ ← popMark
      skip
      return { kind := .sequenceEnd, start := t.start }
    else
      let m ← popMark
      parseError "while parsing a block collection" m "did not find expected '-' indicator" t.start
  | .indentlessSequenceEntry =>
    let t ← peek
    if t.kind == .blockEntry then
      let m := t.stop
      skip
      let t ← peek
      if !t.kind.isOneOf [.blockEntry, .key, .value, .blockEnd] then
        pushState .indentlessSequenceEntry
        parseNode true false
      else
        modify fun p => { p with state := .indentlessSequenceEntry }
        return emptyScalar m
    else
      popState
      return { kind := .sequenceEnd, start := t.start }
  | .blockMappingFirstKey | .blockMappingKey =>
    if p.state == .blockMappingFirstKey then
      pushMark (← peek).start
      skip
    let t ← peek
    if t.kind == .key then
      let m := t.stop
      skip
      let t ← peek
      if !t.kind.isOneOf [.key, .value, .blockEnd] then
        pushState .blockMappingValue
        parseNode true true
      else
        modify fun p => { p with state := .blockMappingValue }
        return emptyScalar m
    else if t.kind == .blockEnd then
      popState
      let _ ← popMark
      skip
      return { kind := .mappingEnd, start := t.start }
    else
      let m ← popMark
      parseError "while parsing a block mapping" m "did not find expected key" t.start
  | .blockMappingValue =>
    let t ← peek
    if t.kind == .value then
      let m := t.stop
      skip
      let t ← peek
      if !t.kind.isOneOf [.key, .value, .blockEnd] then
        pushState .blockMappingKey
        parseNode true true
      else
        modify fun p => { p with state := .blockMappingKey }
        return emptyScalar m
    else
      modify fun p => { p with state := .blockMappingKey }
      return emptyScalar t.start
  | .flowSequenceFirstEntry | .flowSequenceEntry =>
    let first := p.state == .flowSequenceFirstEntry
    if first then
      pushMark (← peek).start
      skip
    let mut t ← peek
    if t.kind != .flowSequenceEnd then
      if !first then
        if t.kind == .flowEntry then
          skip
          t ← peek
        else
          let m ← popMark
          parseError "while parsing a flow sequence" m "did not find expected ',' or ']'" t.start
      if t.kind == .key then
        modify fun p => { p with state := .flowSequenceEntryMappingKey }
        skip
        return { kind := .mappingStart none "" true, start := t.start }
      else if t.kind != .flowSequenceEnd then
        pushState .flowSequenceEntry
        return ← parseNode false false
    popState
    let _ ← popMark
    skip
    return { kind := .sequenceEnd, start := t.start }
  | .flowSequenceEntryMappingKey =>
    let t ← peek
    if !t.kind.isOneOf [.value, .flowEntry, .flowSequenceEnd] then
      pushState .flowSequenceEntryMappingValue
      parseNode false false
    else
      let m := t.stop
      skip
      modify fun p => { p with state := .flowSequenceEntryMappingValue }
      return emptyScalar m
  | .flowSequenceEntryMappingValue =>
    let t ← peek
    if t.kind == .value then
      skip
      let t ← peek
      if !t.kind.isOneOf [.flowEntry, .flowSequenceEnd] then
        pushState .flowSequenceEntryMappingEnd
        return ← parseNode false false
    let t ← peek
    modify fun p => { p with state := .flowSequenceEntryMappingEnd }
    return emptyScalar t.start
  | .flowSequenceEntryMappingEnd =>
    let t ← peek
    modify fun p => { p with state := .flowSequenceEntry }
    return { kind := .mappingEnd, start := t.start }
  | .flowMappingFirstKey | .flowMappingKey =>
    let first := p.state == .flowMappingFirstKey
    if first then
      pushMark (← peek).start
      skip
    let mut t ← peek
    if t.kind != .flowMappingEnd then
      if !first then
        if t.kind == .flowEntry then
          skip
          t ← peek
        else
          let m ← popMark
          parseError "while parsing a flow mapping" m "did not find expected ',' or '\x7d'" t.start
      if t.kind == .key then
        skip
        let next ← peek
        if !next.kind.isOneOf [.value, .flowEntry, .flowMappingEnd] then
          pushState .flowMappingValue
          return ← parseNode false false
        else
          modify fun p => { p with state := .flowMappingValue }
          return emptyScalar next.start
      else if t.kind != .flowMappingEnd then
        pushState .flowMappingEmptyValue
        return ← parseNode false false
    popState
    let _ ← popMark
    skip
    return { kind := .mappingEnd, start := t.start }
  | .flowMappingValue | .flowMappingEmptyValue =>
    let t ← peek
    if p.state == .flowMappingEmptyValue then
      modify fun p => { p with state := .flowMappingKey }
      return emptyScalar t.start
    if t.kind == .value then
      skip
      let t ← peek
      if !t.kind.isOneOf [.flowEntry, .flowMappingEnd] then
        pushState .flowMappingKey
        return ← parseNode false false
    let t ← peek
    modify fun p => { p with state := .flowMappingKey }
    return emptyScalar t.start
  | .finished => return { kind := .streamEnd, start := (← get).scanner.mark }

end ChannelMux.Yaml
