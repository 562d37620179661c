import ChannelMux.Text.Real
import ChannelMux.Yaml.Reader

/-! The YAML scanner: the text of a YAML stream cut into tokens. -/

namespace ChannelMux.Yaml

/-- A position in a text: character index, line and column, all from zero. -/
structure Mark where
  index : Nat := 0
  line : Nat := 0
  column : Nat := 0
  deriving DecidableEq, Repr, Inhabited

/-- How a scalar was written. -/
inductive ScalarStyle where
  | plain
  | singleQuoted
  | doubleQuoted
  | literal
  | folded
  deriving DecidableEq, Repr, Inhabited

/-- What a token is. -/
inductive TokenKind where
  | streamStart
  | streamEnd
  | documentStart
  | documentEnd
  | blockSequenceStart
  | blockMappingStart
  | blockEnd
  | flowSequenceStart
  | flowSequenceEnd
  | flowMappingStart
  | flowMappingEnd
  | blockEntry
  | flowEntry
  | key
  | value
  | alias (name : String)
  | anchor (name : String)
  | tag (handle suffix : String)
  | scalar (text : String) (style : ScalarStyle)
  /-- A `%YAML` directive with its version. -/
  | versionDirective (major minor : Nat)
  /-- A `%TAG` directive with its handle and prefix. -/
  | tagDirective (handle pre : String)
  deriving DecidableEq, Repr, Inhabited

/-- A token with the positions where it starts and ends. -/
structure Token where
  kind : TokenKind
  start : Mark
  stop : Mark
  deriving Repr, Inhabited

/-- A place where a simple key may start. -/
structure SimpleKey where
  possible : Bool := false
  required : Bool := false
  tokenNumber : Nat := 0
  mark : Mark := {}
  deriving Repr, Inhabited

/-- A problem found while reading YAML: where the construct that failed started, what went wrong and
where. -/
structure Problem where
  fromScanner : Bool
  context : String := ""
  contextMark : Mark := {}
  problem : String
  problemMark : Mark := {}
  deriving Repr, Inhabited

/-- The message of a problem: the line of its context, or else of the problem, when that is not
the first line. -/
def Problem.message (p : Problem) : String :=
  let shown (m : Mark) : Nat := if p.fromScanner then m.line + 1 else m.line
  let line :=
    if p.contextMark.line != 0 then shown p.contextMark
    else if p.problemMark.line != 0 then shown p.problemMark
    else 0
  "yaml: " ++ (if line != 0 then "line " ++ toString line ++ ": " else "") ++ p.problem

/-- Spaces and tabs. -/
def isBlank (c : Char) : Bool := c == ' ' || c == '\t'

/-- Line breaks. -/
def isBreak (c : Char) : Bool :=
  c == '\r' || c == '\n' || c.toNat == 0x85 || c.toNat == 0x2028 || c.toNat == 0x2029

/-- The end of the text reads as a NUL character. -/
def isEnd (c : Char) : Bool := c.toNat == 0

/-- A line break or the end. -/
def isBreakOrEnd (c : Char) : Bool := isBreak c || isEnd c

/-- A blank, a line break or the end. -/
def isBlankOrEnd (c : Char) : Bool := isBlank c || isBreakOrEnd c

/-- Characters of anchor names: letters, digits, `_` and `-`. -/
def isWordChar (c : Char) : Bool := c.isAlphanum || c == '_' || c == '-'

/-- The scanner's state. -/
structure Scanner where
  input : Array Char
  mark : Mark := {}
  queue : Array Token := #[]
  parsed : Nat := 0
  available : Bool := false
  started : Bool := false
  endTaken : Bool := false
  flowLevel : Nat := 0
  indent : Int := -1
  indents : List Int := []
  keyAllowed : Bool := false
  keys : Array SimpleKey := #[]
  /-- Reads of the text not yet decoded. -/
  reads : List Chunk := []
  /-- Characters decoded so far, the end of the text included once it is reached. -/
  decoded : Nat := 0
  /-- Index of the character at the start of the decoding buffer. -/
  bufferStart : Nat := 0
  /-- Line breaks passed since the last character that is not a blank. -/
  newlines : Nat := 0
  deriving Inhabited

/-- Scanning steps: they change the scanner or stop with a problem. -/
abbrev ScanM := StateT Scanner (Except Problem)

namespace Scanner

/-- The character `k` places ahead; NUL past the end. -/
def ahead (s : Scanner) (k : Nat) : Char := s.input.getD (s.mark.index + k) (Char.ofNat 0)

/-- Characters left, as fuel for loops that consume one each round. -/
def left (s : Scanner) : Nat := s.input.size - s.mark.index + 1

end Scanner

/-- Stops with a scanner problem at the current position. -/
def scanError {α : Type} (context : String) (contextMark : Mark) (problem : String) : ScanM α := do
  throw { fromScanner := true, context, contextMark, problem, problemMark := (← get).mark }

/-- The character `k` places ahead. -/
def peekAt (k : Nat) : ScanM Char := do return (← get).ahead k

/-- Makes sure that `n` characters from the current one are decoded. -/
def need (n : Nat) : ScanM Unit := do
  let s ← get
  let want := s.mark.index + n
  if want > s.decoded then
    match Chunk.readUntil want s.decoded s.reads with
    | .ok (decoded, reads) => set { s with decoded, reads, bufferStart := s.mark.index }
    | .error _ => throw { fromScanner := true, problem := "control characters are not allowed" }

/-- Like `need`, for looking ahead: a read that meets a bad character answers `false` instead of
stopping. -/
def tryNeed (n : Nat) : ScanM Bool := do
  let s ← get
  let want := s.mark.index + n
  if want > s.decoded then
    match Chunk.readUntil want s.decoded s.reads with
    | .ok (decoded, reads) =>
      set { s with decoded, reads, bufferStart := s.mark.index }
      return true
    | .error (decoded, reads) =>
      set { s with decoded, reads, bufferStart := s.mark.index }
      return false
  else return true

/-- Whether the decoding buffer starts with a byte order mark. -/
def bufferAtMark : ScanM Bool := do
  let s ← get
  return s.input.getD s.bufferStart (Char.ofNat 0) == byteOrderMark

/-- Moves one character ahead on the same line. -/
def skipChar : ScanM Unit := do
  modify fun s =>
    { s with mark := { s.mark with index := s.mark.index + 1, column := s.mark.column + 1 },
             newlines := if isBlank (s.ahead 0) then s.newlines else 0 }
  need 1

/-- Moves past a line break (two characters for CR LF). -/
def skipBreak : ScanM Unit := do
  need 2
  let s ← get
  if s.ahead 0 == '\r' && s.ahead 1 == '\n' then
    set { s with mark := { index := s.mark.index + 2, line := s.mark.line + 1, column := 0 },
                 newlines := s.newlines + 1 }
  else if isBreak (s.ahead 0) then
    set { s with mark := { index := s.mark.index + 1, line := s.mark.line + 1, column := 0 },
                 newlines := s.newlines + 1 }

/-- Copies the current character onto a text and moves on. -/
def readChar (acc : String) : ScanM String := do
  let c ← peekAt 0
  skipChar
  return acc.push c

/-- Copies a line break onto a text, CR LF and CR and NEL as a line feed, and moves on. -/
def readBreak (acc : String) : ScanM String := do
  let c ← peekAt 0
  let out := if c == '\r' || c == '\n' || c.toNat == 0x85 then acc.push '\n' else acc.push c
  skipBreak
  return out

/-- Queues a token at a place counted from the first queued token, or at the end. -/
def insertToken (pos : Option Nat) (t : Token) : ScanM Unit :=
  modify fun s =>
    match pos with
    | some p => { s with queue := s.queue.insertIdxIfInBounds p t }
    | none => { s with queue := s.queue.push t }

/-- Queues a token at the end. -/
def pushToken (t : Token) : ScanM Unit := insertToken none t

/-- The number the next queued token will get. -/
def nextTokenNumber : ScanM Nat := do
  let s ← get
  return s.parsed + s.queue.size

/-- The innermost simple key. -/
def topKey : ScanM SimpleKey := do
  return (← get).keys.back?.getD {}

/-- Replaces the innermost simple key. -/
def setTopKey (k : SimpleKey) : ScanM Unit :=
  modify fun s => { s with keys := s.keys.pop.push k }

/-- Whether a simple key is still possible: it must be on the current line and at most 1024
characters back. A required key that is no longer possible is an error. -/
def keyStillValid (k : SimpleKey) : ScanM (Bool × SimpleKey) := do
  if !k.possible then return (false, k)
  let m := (← get).mark
  if k.mark.line < m.line || k.mark.index + 1024 < m.index then
    if k.required then scanError "while scanning a simple key" k.mark "could not find expected ':'"
    return (false, { k with possible := false })
  return (true, k)

/-- Drops the innermost simple key; a required one cannot be dropped. -/
def removeKey : ScanM Unit := do
  let k ← topKey
  if k.possible then
    if k.required then scanError "while scanning a simple key" k.mark "could not find expected ':'"
    setTopKey { k with possible := false }

/-- Records that a simple key may start here. -/
def saveKey : ScanM Unit := do
  let s ← get
  let required := s.flowLevel == 0 && s.indent == (s.mark.column : Int)
  if s.keyAllowed then
    let k : SimpleKey := { possible := true, required, tokenNumber := s.parsed + s.queue.size, mark := s.mark }
    removeKey
    setTopKey k

/-- The deepest nesting of flow collections, and of block indentation levels, that a text may
have. -/
def maxDepth : Nat := 10000

/-- Enters a flow collection, with no simple key yet at its level. -/
def increaseFlowLevel : ScanM Unit := do
  modify fun s => { s with keys := s.keys.push { mark := s.mark }, flowLevel := s.flowLevel + 1 }
  let s ← get
  if s.flowLevel > maxDepth then
    scanError "while increasing flow level" s.mark ("exceeded max depth of " ++ toString maxDepth)

/-- Leaves a flow collection. -/
def decreaseFlowLevel : ScanM Unit :=
  modify fun s =>
    if s.flowLevel > 0 then { s with flowLevel := s.flowLevel - 1, keys := s.keys.pop } else s

/-- Closes the levels of an indentation stack deeper than a column, one block end each. -/
def unrollFrom (column : Int) (blockMark : Mark) : Int → List Int → Array Token → Int × List Int × Array Token
  | indent, indents, acc =>
    if indent > column then
      let acc := acc.push { kind := .blockEnd, start := blockMark, stop := blockMark }
      match indents with
      | i :: rest => unrollFrom column blockMark i rest acc
      | [] => (-1, [], acc)
    else (indent, indents, acc)

/-- In block context, closes the blocks indented deeper than a column, each with a block end
placed just before where the scan for the current token began. -/
def unrollIndent (column : Int) (scanMark : Mark) : ScanM Unit := do
  let s ← get
  if s.flowLevel > 0 then return
  let blockMark := { scanMark with index := scanMark.index - 1 }
  let (indent, indents, ends) := unrollFrom column blockMark s.indent s.indents #[]
  set { s with indent, indents, queue := s.queue ++ ends }

/-- In block context, opens a block at a column deeper than the current indentation, with a
start token at a place in the queue (counted by token number) or at the end. -/
def rollIndent (column : Int) (number : Option Nat) (kind : TokenKind) (m : Mark) : ScanM Unit := do
  let s ← get
  if s.flowLevel > 0 then return
  if s.indent < column then
    set { s with indents := s.indent :: s.indents, indent := column }
    if s.indents.length + 1 > maxDepth then
      scanError "while increasing indent level" (← topKey).mark
        ("exceeded max depth of " ++ toString maxDepth)
    insertToken (number.map (· - s.parsed)) { kind, start := m, stop := m }

/-- The start of the stream. -/
def fetchStreamStart : ScanM Unit := do
  let s ← get
  set { s with indent := -1, keyAllowed := true, keys := s.keys.push {}, started := true }
  pushToken { kind := .streamStart, start := s.mark, stop := s.mark }

/-- The end of the stream: every block is closed. -/
def fetchStreamEnd : ScanM Unit := do
  let s ← get
  if s.mark.column != 0 then
    set { s with mark := { s.mark with column := 0, line := s.mark.line + 1 } }
  unrollIndent (-1) (← get).mark
  removeKey
  modify fun s => { s with keyAllowed := false }
  let m := (← get).mark
  pushToken { kind := .streamEnd, start := m, stop := m }

/-- A document start `---` or end `...` marker. -/
def fetchDocumentIndicator (kind : TokenKind) : ScanM Unit := do
  unrollIndent (-1) (← get).mark
  removeKey
  modify fun s => { s with keyAllowed := false }
  let start := (← get).mark
  skipChar; skipChar; skipChar
  pushToken { kind, start, stop := (← get).mark }

/-- A `[` or `{`. -/
def fetchFlowStart (kind : TokenKind) : ScanM Unit := do
  saveKey
  increaseFlowLevel
  modify fun s => { s with keyAllowed := true }
  let start := (← get).mark
  skipChar
  pushToken { kind, start, stop := (← get).mark }

/-- A `]` or `}`. -/
def fetchFlowEnd (kind : TokenKind) : ScanM Unit := do
  removeKey
  decreaseFlowLevel
  modify fun s => { s with keyAllowed := false }
  let start := (← get).mark
  skipChar
  pushToken { kind, start, stop := (← get).mark }

/-- A `,` in a flow collection. -/
def fetchFlowEntry : ScanM Unit := do
  removeKey
  modify fun s => { s with keyAllowed := true }
  let start := (← get).mark
  skipChar
  pushToken { kind := .flowEntry, start, stop := (← get).mark }

/-- A `-` entry of a block sequence. -/
def fetchBlockEntry : ScanM Unit := do
  let s ← get
  if s.flowLevel == 0 then
    if !s.keyAllowed then scanError "" s.mark "block sequence entries are not allowed in this context"
    rollIndent s.mark.column none .blockSequenceStart s.mark
  removeKey
  modify fun s => { s with keyAllowed := true }
  let start := (← get).mark
  skipChar
  pushToken { kind := .blockEntry, start, stop := (← get).mark }

/-- A `?` explicit key. -/
def fetchKey : ScanM Unit := do
  let s ← get
  if s.flowLevel == 0 then
    if !s.keyAllowed then scanError "" s.mark "mapping keys are not allowed in this context"
    rollIndent s.mark.column none .blockMappingStart s.mark
  removeKey
  modify fun s => { s with keyAllowed := s.flowLevel == 0 }
  let start := (← get).mark
  skipChar
  pushToken { kind := .key, start, stop := (← get).mark }

/-- A `:` value indicator; when a simple key is pending, it becomes a key. -/
def fetchValue : ScanM Unit := do
  let (valid, k) ← keyStillValid (← topKey)
  setTopKey k
  if valid then
    let s ← get
    insertToken (some (k.tokenNumber - s.parsed)) { kind := .key, start := k.mark, stop := k.mark }
    rollIndent k.mark.column (some k.tokenNumber) .blockMappingStart k.mark
    setTopKey { k with possible := false }
    modify fun s => { s with keyAllowed := false }
  else
    let s ← get
    if s.flowLevel == 0 then
      if !s.keyAllowed then scanError "" s.mark "mapping values are not allowed in this context"
      rollIndent s.mark.column none .blockMappingStart s.mark
    modify fun s => { s with keyAllowed := s.flowLevel == 0 }
  let start := (← get).mark
  skipChar
  pushToken { kind := .value, start, stop := (← get).mark }

/-- Reads characters while a test holds. -/
def readWhile (p : Char → Bool) : Nat → String → ScanM String
  | 0, acc => pure acc
  | n + 1, acc => do
    if p (← peekAt 0) then readWhile p n (← readChar acc) else pure acc

/-- Skips characters while a test holds. -/
def skipWhile (p : Char → Bool) : Nat → ScanM Unit
  | 0 => pure ()
  | n + 1 => do
    if p (← peekAt 0) then skipChar; skipWhile p n

/-- An anchor `&name` or alias `*name`. -/
def fetchAnchor (isAlias : Bool) : ScanM Unit := do
  saveKey
  modify fun s => { s with keyAllowed := false }
  let start := (← get).mark
  skipChar
  let name ← readWhile isWordChar (← get).left ""
  let c ← peekAt 0
  if name.isEmpty || !(isBlankOrEnd c || "?:,]\x7d%@`".toList.contains c) then
    scanError (if isAlias then "while scanning an alias" else "while scanning an anchor") start
      "did not find expected alphabetic or numeric character"
  pushToken { kind := if isAlias then .alias name else .anchor name, start, stop := (← get).mark }

/-- Characters a tag may hold; inside `!<...>` also `,`, `[` and `]`. -/
def isUriChar (verbatim : Bool) (c : Char) : Bool :=
  isWordChar c || ";/?:@&=+$.%!~*()".toList.contains c || c == Char.ofNat 39 ||
    (verbatim && (c == ',' || c == '[' || c == ']'))

/-- The context a problem inside a tag or `%TAG` directive is reported in. -/
def tagContext (directive : Bool) : String :=
  if directive then "while parsing a %TAG directive" else "while parsing a tag"

/-- The number of bytes of a UTF-8 sequence that a leading byte announces; zero for a byte that
cannot lead one. -/
def utf8Width (b : Nat) : Nat :=
  if b < 0x80 then 1 else if b / 32 == 6 then 2 else if b / 16 == 14 then 3
  else if b / 8 == 30 then 4 else 0

/-- Reads one escaped octet `%hh`. -/
def readOctet (directive : Bool) (start : Mark) : ScanM Nat := do
  let s ← get
  match s.ahead 0, Text.hexValue? (s.ahead 1), Text.hexValue? (s.ahead 2) with
  | '%', some hi, some lo =>
    skipChar; skipChar; skipChar
    return hi * 16 + lo
  | _, _, _ => scanError (tagContext directive) start "did not find URI escaped octet"

/-- Reads the escaped octets of one UTF-8 character. Bytes that do not make a character show as
replacement characters. -/
def readUriEscapes (directive : Bool) (start : Mark) : ScanM String := do
  let first ← readOctet directive start
  let width := utf8Width first
  if width == 0 then scanError (tagContext directive) start "found an incorrect leading UTF-8 octet"
  let mut bytes : Array UInt8 := #[first.toUInt8]
  for _ in [1:width] do
    let o ← readOctet directive start
    if o / 64 != 2 then scanError (tagContext directive) start "found an incorrect trailing UTF-8 octet"
    bytes := bytes.push o.toUInt8
  match String.fromUTF8? (ByteArray.mk bytes) with
  | some text => return text
  | none => return String.ofList (List.replicate bytes.size '�')

/-- Reads the characters of a tag after a head already read (whose leading `!` is dropped);
URI escapes are decoded. A tag with no character at all is an error. -/
def readTagUri (verbatim directive : Bool) (head : String) (start : Mark) : ScanM String := do
  let mut text := String.ofList (head.toList.drop 1)
  let mut found := !head.isEmpty
  for _ in [0:(← get).left] do
    let c ← peekAt 0
    if !isUriChar verbatim c then break
    if c == '%' then text := text ++ (← readUriEscapes directive start)
    else text ← readChar text
    found := true
  if !found then scanError (tagContext directive) start "did not find expected tag URI"
  return text

/-- Reads a tag handle: `!`, then word characters, then `!` if there is one. In a `%TAG`
directive the handle must be `!` or end in `!`. -/
def readTagHandle (directive : Bool) (start : Mark) : ScanM String := do
  if (← peekAt 0) != '!' then scanError (tagContext directive) start "did not find expected '!'"
  let handle ← readWhile isWordChar (← get).left (← readChar "")
  if (← peekAt 0) == '!' then readChar handle
  else if directive && handle != "!" then
    scanError (tagContext directive) start "did not find expected '!'"
  else return handle

/-- A tag: `!<uri>`, `!handle!suffix`, `!suffix`, or `!` alone (an empty handle with suffix
`!`). -/
def fetchTag : ScanM Unit := do
  saveKey
  modify fun s => { s with keyAllowed := false }
  let start := (← get).mark
  let (handle, suffix) ←
    if (← peekAt 1) == '<' then do
      skipChar; skipChar
      let uri ← readTagUri true false "" start
      if (← peekAt 0) != '>' then
        scanError "while scanning a tag" start "did not find the expected '>'"
      skipChar
      pure ("", uri)
    else do
      let handle ← readTagHandle false start
      if handle.length > 1 && handle.endsWith "!" then
        pure (handle, ← readTagUri false false "" start)
      else
        let suffix ← readTagUri false false handle start
        pure (if suffix.isEmpty then ("", "!") else ("!", suffix))
  let c ← peekAt 0
  if !isBlankOrEnd c && !((← get).flowLevel > 0 && c == ',') then
    scanError "while scanning a tag" start "did not find expected whitespace or line break"
  pushToken { kind := .tag handle suffix, start, stop := (← get).mark }

end ChannelMux.Yaml
