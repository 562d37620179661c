import ChannelMux.Yaml.Token.Scalar

/-! The token stream of the YAML scanner: finding the next token, and handing tokens to the parser.
-/

namespace ChannelMux.Yaml

/-- How far ahead the scanner looks for a comment. -/
def commentWindow : Nat := 512

/-- Looks ahead from the current position, within the comment window, over blanks (and line breaks
when `acrossLines`) for a `#`: its offset, or `none` when anything else comes first. -/
def findComment (acrossLines : Bool) : Nat → Nat → ScanM (Option Nat)
  | 0, _ => pure none
  | fuel + 1, offset => do
    if offset ≥ commentWindow then return none
    if !(← tryNeed (offset + 1)) then return none
    let c := (← get).ahead offset
    if isBlank c || (acrossLines && isBreak c) then findComment acrossLines fuel (offset + 1)
    else return (if c == '#' then some offset else none)

/-- Moves up to a position ahead, over the blanks and line breaks before it. -/
def passTo (target : Nat) : Nat → ScanM Unit
  | 0 => pure ()
  | n + 1 => do
    need 1
    let s ← get
    if s.mark.index < target then
      if isBreak (s.ahead 0) then skipBreak else skipChar
      passTo target n

/-- Passes the comment that starts a given offset ahead, up to its line break. -/
def passCommentAt (offset : Nat) : ScanM Unit := do
  passTo ((← get).mark.index + offset) (← get).left
  skipWhile (fun c => !isBreakOrEnd c) (← get).left

/-- Passes a run of comments: the one at the current position, and each later one that only blanks
and line breaks separate from the end of the one before, within the comment window. -/
def passComments : Nat → ScanM Unit
  | 0 => pure ()
  | n + 1 => do
    match ← findComment true commentWindow 0 with
    | some offset => passCommentAt offset; passComments n
    | none => pure ()

/-- After a token, passes a comment on the rest of its line, unless a line break has been passed
since the last character that is not a blank. -/
def passLineComment : ScanM Unit := do
  if (← get).newlines > 0 then return
  match ← findComment false commentWindow 0 with
  | some offset => passCommentAt offset
  | none => pure ()

/-- Skips spaces, tabs where allowed, comments and line breaks up to the next token. -/
def skipToToken : Nat → ScanM Unit
  | 0 => pure ()
  | n + 1 => do
    need 1
    if (← get).mark.column == 0 && (← bufferAtMark) then skipChar
    skipWhile (fun c => c == ' ') (← get).left
    let s ← get
    if s.flowLevel > 0 || !s.keyAllowed then
      skipWhile (fun c => c == ' ' || c == '\t') (← get).left
    if (← peekAt 0) == '#' then passComments (← get).left
    if isBreak (← peekAt 0) then
      skipBreak
      if (← get).flowLevel == 0 then modify fun s => { s with keyAllowed := true }
      skipToToken n

/-- Whether a character can start a plain scalar here. -/
def startsPlain (s : Scanner) : Bool :=
  let c := s.ahead 0
  let next := s.ahead 1
  !(isBlankOrEnd c || "-?:,[]\x7b\x7d#&*!|>'\"%@`".toList.contains c) ||
    (c == '-' && !isBlank next) ||
    (s.flowLevel == 0 && (c == '?' || c == ':') && !isBlankOrEnd next)

/-- A version number of a `%YAML` directive: one or two digits. -/
def readVersionNumber (start : Mark) : ScanM Nat := do
  let digits ← readWhile Char.isDigit 3 ""
  if digits.length > 2 then
    scanError "while scanning a %YAML directive" start "found extremely long version number"
  if digits.isEmpty then
    scanError "while scanning a %YAML directive" start "did not find expected version number"
  return digits.toList.foldl (fun acc c => acc * 10 + (c.toNat - 48)) 0

/-- A directive line: `%YAML major.minor` or `%TAG handle prefix`, then blanks and an
optional comment up to the line break. It closes every block and ends any simple key. -/
def fetchDirective : ScanM Unit := do
  unrollIndent (-1) (← get).mark
  removeKey
  modify fun s => { s with keyAllowed := false }
  let start := (← get).mark
  skipChar
  let name ← readWhile isWordChar (← get).left ""
  if name.isEmpty then
    scanError "while scanning a directive" start "could not find expected directive name"
  if !isBlankOrEnd (← peekAt 0) then
    scanError "while scanning a directive" start "found unexpected non-alphabetical character"
  let kind ←
    if name == "YAML" then do
      skipWhile isBlank (← get).left
      let major ← readVersionNumber start
      if (← peekAt 0) != '.' then
        scanError "while scanning a %YAML directive" start "did not find expected digit or '.' character"
      skipChar
      let minor ← readVersionNumber start
      pure (TokenKind.versionDirective major minor)
    else if name == "TAG" then do
      skipWhile isBlank (← get).left
      let handle ← readTagHandle true start
      if !isBlank (← peekAt 0) then
        scanError "while scanning a %TAG directive" start "did not find expected whitespace"
      skipWhile isBlank (← get).left
      let pre ← readTagUri true true "" start
      if !isBlankOrEnd (← peekAt 0) then
        scanError "while scanning a %TAG directive" start "did not find expected whitespace or line break"
      pure (TokenKind.tagDirective handle pre)
    else scanError "while scanning a directive" start "found unknown directive name"
  let stop := (← get).mark
  skipWhile isBlank (← get).left
  if (← peekAt 0) == '#' then skipWhile (fun c => !isBreakOrEnd c) (← get).left
  if !isBreakOrEnd (← peekAt 0) then
    scanError "while scanning a directive" start "did not find expected comment or line break"
  if isBreak (← peekAt 0) then skipBreak
  pushToken { kind, start, stop }

/-- Reads a token that starts with an indicator or is a scalar, the scanner being at its first
character. -/
def fetchToken (s : Scanner) : ScanM Unit := do
  let c := s.ahead 0
  let next := s.ahead 1
  if c == '[' then fetchFlowStart .flowSequenceStart
  else if c == '\x7b' then fetchFlowStart .flowMappingStart
  else if c == ']' then fetchFlowEnd .flowSequenceEnd
  else if c == '\x7d' then fetchFlowEnd .flowMappingEnd
  else if c == ',' then fetchFlowEntry
  else if c == '-' && isBlankOrEnd next then fetchBlockEntry
  else if c == '?' && (s.flowLevel > 0 || isBlankOrEnd next) then fetchKey
  else if c == ':' && (s.flowLevel > 0 || isBlankOrEnd next) then fetchValue
  else if c == '*' then fetchAnchor true
  else if c == '&' then fetchAnchor false
  else if c == '!' then fetchTag
  else if c == '|' && s.flowLevel == 0 then fetchBlockScalar true
  else if c == '>' && s.flowLevel == 0 then fetchBlockScalar false
  else if c == Char.ofNat 39 then fetchQuoted true
  else if c == '"' then fetchQuoted false
  else if startsPlain s then fetchPlain
  else scanError "while scanning for the next token" s.mark "found character that cannot start any token"

/-- Reads the next token (or tokens: block ends come first). -/
def fetchNext : ScanM Unit := do
  need 1
  if !(← get).started then
    fetchStreamStart
    return
  let scanMark := (← get).mark
  skipToToken (← get).left
  unrollIndent (← get).mark.column scanMark
  need 4
  let s ← get
  let c := s.ahead 0
  let next := s.ahead 1
  if isEnd c then fetchStreamEnd
  else if s.mark.column == 0 && c == '%' then fetchDirective
  else if s.mark.column == 0 && c == '-' && next == '-' && s.ahead 2 == '-' && isBlankOrEnd (s.ahead 3) then
    fetchDocumentIndicator .documentStart
  else if s.mark.column == 0 && c == '.' && next == '.' && s.ahead 2 == '.' && isBlankOrEnd (s.ahead 3) then
    fetchDocumentIndicator .documentEnd
  else
    fetchToken s
    if ((← get).queue.back?.map (·.kind)) != some .blockEntry then passLineComment

/-- Whether the first queued token may still turn out to be a key: a simple key still possible
is recorded at its number. A key found stale here is given up, or is an error if required. -/
def headKeyPending : ScanM Bool := do
  let s ← get
  match s.keys.findIdx? (fun k => k.possible && k.tokenNumber == s.parsed) with
  | none => return false
  | some i =>
    let (valid, k) ← keyStillValid (s.keys.getD i {})
    modify fun s => { s with keys := s.keys.modify i fun _ => k }
    return valid

/-- Reads tokens until three are queued and the first is not a pending simple key. -/
def fetchMore : Nat → ScanM Unit
  | 0 => pure ()
  | n + 1 => do
    if (← get).queue.size > 2 then
      if !(← headKeyPending) then
        modify fun s => { s with available := true }
        return
    fetchNext
    fetchMore n

/-- The next token, read if need be. -/
def peekToken : ScanM Token := do
  if !(← get).available then fetchMore ((← get).left + 8)
  return (← get).queue[0]?.getD { kind := .streamEnd, start := (← get).mark, stop := (← get).mark }

/-- Hands the next token to the parser. -/
def skipToken : ScanM Unit :=
  modify fun s =>
    { s with available := false, parsed := s.parsed + 1,
             endTaken := (s.queue[0]?.map (·.kind == .streamEnd)).getD false,
             queue := s.queue.extract 1 s.queue.size }

end ChannelMux.Yaml
