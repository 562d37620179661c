import ChannelMux.Yaml.Token

/-! Scalars in the YAML scanner: plain, single-quoted, double-quoted, literal and folded. -/

namespace ChannelMux.Yaml

/-- A scalar being read: its text, the pending first line break and later breaks, pending
whitespace, and whether the current piece started after a line break. -/
structure Folding where
  text : String := ""
  leadingBreak : String := ""
  trailingBreaks : String := ""
  whitespace : String := ""
  leadingBlanks : Bool := false
  deriving Inhabited

namespace Folding

/-- Before more text: the pending breaks folded, or the pending whitespace kept. -/
def join (f : Folding) : Folding :=
  if f.leadingBlanks then
    let text :=
      if f.leadingBreak.startsWith "\n" then
        if f.trailingBreaks.isEmpty then f.text.push ' ' else f.text ++ f.trailingBreaks
      else f.text ++ f.leadingBreak ++ f.trailingBreaks
    { f with text, leadingBreak := "", trailingBreaks := "", leadingBlanks := false }
  else { f with text := f.text ++ f.whitespace, whitespace := "" }

end Folding

/-- Whether a document marker `---` or `...` followed by a blank starts at the current column 0. -/
def atDocumentMarker : ScanM Bool := do
  let s ← get
  let c0 := s.ahead 0
  return s.mark.column == 0 && (c0 == '-' || c0 == '.') && s.ahead 1 == c0 && s.ahead 2 == c0 &&
    isBlankOrEnd (s.ahead 3)

/-- Reads blanks and line breaks between pieces of a flow or plain scalar. In a plain scalar
(`plainIndent` given), a tab in the indentation of a continuation line is an error. -/
def scanBlanks (start : Mark) (plainIndent : Option Int) : Nat → Folding → ScanM Folding
  | 0, f => pure f
  | n + 1, f => do
    let s ← get
    let c := s.ahead 0
    if isBlank c then
      if let some indent := plainIndent then
        if f.leadingBlanks && (s.mark.column : Int) < indent && c == '\t' then
          scanError "while scanning a plain scalar" start "found a tab character that violates indentation"
      if !f.leadingBlanks then scanBlanks start plainIndent n { f with whitespace := ← readChar f.whitespace }
      else do skipChar; scanBlanks start plainIndent n f
    else if isBreak c then
      if !f.leadingBlanks then
        let lb ← readBreak ""
        scanBlanks start plainIndent n { f with whitespace := "", leadingBreak := lb, leadingBlanks := true }
      else scanBlanks start plainIndent n { f with trailingBreaks := ← readBreak f.trailingBreaks }
    else pure f

/-- Reads the characters of one piece of a plain scalar, up to a blank or an indicator that
ends it. Answers the scalar so far and where its text ends. -/
def plainPiece : Nat → Folding → Mark → ScanM (Folding × Mark)
  | 0, f, e => pure (f, e)
  | n + 1, f, e => do
    let s ← get
    let c := s.ahead 0
    if isBlankOrEnd c then return (f, e)
    if (c == ':' && isBlankOrEnd (s.ahead 1)) || (s.flowLevel > 0 && ",?[]\x7b\x7d".toList.contains c) then
      return (f, e)
    let f := f.join
    let text ← readChar f.text
    plainPiece n { f with text } (← get).mark

/-- Reads a plain scalar from its pieces. -/
def plainPieces (start : Mark) (indent : Int) : Nat → Folding → Mark → ScanM (Folding × Mark)
  | 0, f, e => pure (f, e)
  | n + 1, f, e => do
    if ← atDocumentMarker then return (f, e)
    if (← peekAt 0) == '#' then return (f, e)
    let (f, e) ← plainPiece (← get).left f e
    let c ← peekAt 0
    if !(isBlank c || isBreak c) then return (f, e)
    let f ← scanBlanks start (some indent) (← get).left f
    let s ← get
    if s.flowLevel == 0 && (s.mark.column : Int) < indent then return (f, e)
    plainPieces start indent n f e

/-- A plain scalar token. -/
def fetchPlain : ScanM Unit := do
  saveKey
  modify fun s => { s with keyAllowed := false }
  let s ← get
  let start := s.mark
  let (f, e) ← plainPieces start (s.indent + 1) s.left {} start
  if f.leadingBlanks then modify fun s => { s with keyAllowed := true }
  pushToken { kind := .scalar f.text .plain, start, stop := e }

/-- The value of hexadecimal digits ahead. -/
def hexAhead (start : Mark) : Nat → Nat → Nat → ScanM Nat
  | 0, _, acc => pure acc
  | n + 1, k, acc => do
    let c ← peekAt k
    if !c.isDigit && !('a' ≤ c && c ≤ 'f') && !('A' ≤ c && c ≤ 'F') then
      scanError "while parsing a quoted scalar" start "did not find expected hexdecimal number"
    let d := if c.isDigit then c.toNat - 48 else if c ≤ 'F' then c.toNat - 55 else c.toNat - 87
    hexAhead start n (k + 1) (acc * 16 + d)

/-- One escape sequence after a backslash. -/
def readEscape (start : Mark) (acc : String) : ScanM String := do
  let c ← peekAt 1
  let simple : Option Char :=
    match c with
    | '0' => some (Char.ofNat 0)
    | 'a' => some (Char.ofNat 7)
    | 'b' => some (Char.ofNat 8)
    | 't' | '\t' => some '\t'
    | 'n' => some '\n'
    | 'v' => some (Char.ofNat 11)
    | 'f' => some (Char.ofNat 12)
    | 'r' => some '\r'
    | 'e' => some (Char.ofNat 27)
    | ' ' => some ' '
    | '"' => some '"'
    | '\x27' => some '\x27'
    | '/' => some '/'
    | '\\' => some '\\'
    | 'N' => some (Char.ofNat 0x85)
    | '_' => some (Char.ofNat 0xA0)
    | 'L' => some (Char.ofNat 0x2028)
    | 'P' => some (Char.ofNat 0x2029)
    | _ => none
  let width : Nat := if c == 'x' then 2 else if c == 'u' then 4 else if c == 'U' then 8 else 0
  if simple.isNone && width == 0 then
    scanError "while parsing a quoted scalar" start "found unknown escape character"
  skipChar; skipChar
  match simple with
  | some ch => return acc.push ch
  | none =>
    let v ← hexAhead start width 0 0
    if (0xD800 ≤ v && v ≤ 0xDFFF) || 0x10FFFF < v then
      scanError "while parsing a quoted scalar" start "found invalid Unicode character escape code"
    for _ in [0:width] do skipChar
    return acc.push (Char.ofNat v)

/-- Reads the non-blank characters of one piece of a quoted scalar, up to a blank or the closing
quote. Answers whether an escaped line break ended the piece. -/
def quotedPiece (single : Bool) (start : Mark) : Nat → String → ScanM (String × Bool)
  | 0, acc => pure (acc, false)
  | n + 1, acc => do
    let s ← get
    let c := s.ahead 0
    if isBlankOrEnd c then return (acc, false)
    if single && c == Char.ofNat 39 && s.ahead 1 == Char.ofNat 39 then
      skipChar; skipChar
      quotedPiece single start n (acc.push (Char.ofNat 39))
    else if single && c == Char.ofNat 39 then return (acc, false)
    else if !single && c == '"' then return (acc, false)
    else if !single && c == '\\' && isBreak (s.ahead 1) then
      skipChar; skipBreak
      return (acc, true)
    else if !single && c == '\\' then quotedPiece single start n (← readEscape start acc)
    else quotedPiece single start n (← readChar acc)

/-- Reads the pieces of a quoted scalar up to its closing quote. -/
def quotedPieces (single : Bool) (start : Mark) : Nat → Folding → ScanM Folding
  | 0, f => pure f
  | n + 1, f => do
    if ← atDocumentMarker then
      scanError "while scanning a quoted scalar" start "found unexpected document indicator"
    if isEnd (← peekAt 0) then
      scanError "while scanning a quoted scalar" start "found unexpected end of stream"
    let (text, escapedBreak) ← quotedPiece single start (← get).left f.text
    let f := { f with text, leadingBlanks := escapedBreak }
    let c ← peekAt 0
    if (single && c == Char.ofNat 39) || (!single && c == '"') then return f
    let f ← scanBlanks start none (← get).left f
    let f :=
      if f.leadingBlanks then
        let text :=
          if f.leadingBreak.startsWith "\n" then
            if f.trailingBreaks.isEmpty then f.text.push ' ' else f.text ++ f.trailingBreaks
          else f.text ++ f.leadingBreak ++ f.trailingBreaks
        { f with text, leadingBreak := "", trailingBreaks := "" }
      else { f with text := f.text ++ f.whitespace, whitespace := "" }
    quotedPieces single start n f

/-- A single- or double-quoted scalar token. -/
def fetchQuoted (single : Bool) : ScanM Unit := do
  saveKey
  modify fun s => { s with keyAllowed := false }
  let start := (← get).mark
  skipChar
  let f ← quotedPieces single start (← get).left {}
  skipChar
  pushToken { kind := .scalar f.text (if single then .singleQuoted else .doubleQuoted), start,
              stop := (← get).mark }

/-- Skips spaces of an indentation: up to column `indent`, or any number when it is 0. -/
def skipIndentation (indent : Nat) : Nat → ScanM Unit
  | 0 => pure ()
  | n + 1 => do
    let s ← get
    if (indent == 0 || s.mark.column < indent) && s.ahead 0 == ' ' then
      skipChar
      skipIndentation indent n

/-- Skips the indentation and empty lines before block scalar content, collecting the breaks. -/
def blockBreaks (start : Mark) (indent : Nat) (maxIndent : Nat) : Nat → String → Mark →
    ScanM (Nat × String × Mark)
  | 0, breaks, e => pure (indent, breaks, e)
  | n + 1, breaks, e => do
    skipIndentation indent (← get).left
    let s ← get
    let maxIndent := max maxIndent s.mark.column
    if (indent == 0 || s.mark.column < indent) && s.ahead 0 == '\t' then
      scanError "while scanning a block scalar" start "found a tab character where an indentation space is expected"
    if !isBreak (s.ahead 0) then
      if indent == 0 then
        let found := max maxIndent (max ((s.indent + 1).toNat) 1)
        return (found, breaks, e)
      return (indent, breaks, e)
    let breaks ← readBreak breaks
    blockBreaks start indent maxIndent n breaks (← get).mark

/-- Reads the lines of a block scalar at its indentation. -/
def blockLines (literal : Bool) (start : Mark) (indent : Nat) : Nat → String → String → String →
    Bool → Mark → ScanM (String × String × String × Mark)
  | 0, text, leading, trailing, _, e => pure (text, leading, trailing, e)
  | n + 1, text, leading, trailing, leadingBlank, e => do
    let s ← get
    if s.mark.column != indent || isEnd (s.ahead 0) then return (text, leading, trailing, e)
    let trailingBlank := isBlank (s.ahead 0)
    let text :=
      if !literal && !leadingBlank && !trailingBlank && leading.startsWith "\n" then
        if trailing.isEmpty then text.push ' ' else text
      else text ++ leading
    let text := text ++ trailing
    let leadingBlank := isBlank (s.ahead 0)
    let text ← readWhile (fun c => !isBreakOrEnd c) (← get).left text
    let leading ← if isBreak (← peekAt 0) then readBreak "" else pure ""
    let (_, trailing, e) ← blockBreaks start indent 0 (← get).left "" (← get).mark
    blockLines literal start indent n text leading trailing leadingBlank e

/-- A literal `|` or folded `>` block scalar token. -/
def fetchBlockScalar (literal : Bool) : ScanM Unit := do
  removeKey
  modify fun s => { s with keyAllowed := true }
  let start := (← get).mark
  skipChar
  let readDigit : ScanM Nat := do
    let c ← peekAt 0
    if c.isDigit then
      if c == '0' then scanError "while scanning a block scalar" start "found an indentation indicator equal to 0"
      skipChar
      return c.toNat - 48
    return 0
  let readChomp : ScanM Int := do
    let c ← peekAt 0
    if c == '+' || c == '-' then
      skipChar
      return if c == '+' then 1 else -1
    return 0
  let (chomping, increment) ←
    if (← peekAt 0) == '+' || (← peekAt 0) == '-' then do
      let ch ← readChomp
      pure (ch, ← readDigit)
    else do
      let inc ← readDigit
      pure (← readChomp, inc)
  skipWhile isBlank (← get).left
  if (← peekAt 0) == '#' then skipWhile (fun c => !isBreakOrEnd c) (← get).left
  if !isBreakOrEnd (← peekAt 0) then
    scanError "while scanning a block scalar" start "did not find expected comment or line break"
  if isBreak (← peekAt 0) then skipBreak
  let e := (← get).mark
  let s ← get
  let indent : Nat := if increment > 0 then (if s.indent >= 0 then (s.indent + increment).toNat else increment) else 0
  let (indent, trailing, e) ← blockBreaks start indent 0 (← get).left "" e
  let (text, leading, trailing, e) ← blockLines literal start indent (← get).left "" "" trailing false e
  let text := if chomping != -1 then text ++ leading else text
  let text := if chomping == 1 then text ++ trailing else text
  pushToken { kind := .scalar text (if literal then .literal else .folded), start, stop := e }

end ChannelMux.Yaml
