/-! How a YAML text reaches the scanner. The text is taken as UTF-8 bytes, 512 at a time, and a byte
order mark at its very start is dropped. -/

namespace ChannelMux.Yaml

/-- Bytes taken from the text by one read. -/
def readSize : Nat := 512

/-- The byte order mark. -/
def byteOrderMark : Char := Char.ofNat 0xFEFF

/-- Characters the reader accepts: tab, line feed, carriage return, printable ASCII, and the
printable ranges above. -/
def isAllowedChar (c : Char) : Bool :=
  let n := c.toNat
  n == 0x09 || n == 0x0A || n == 0x0D || (0x20 ≤ n && n ≤ 0x7E) || n == 0x85 ||
    (0xA0 ≤ n && n ≤ 0xD7FF) || (0xE000 ≤ n && n ≤ 0xFFFD) || (0x10000 ≤ n && n ≤ 0x10FFFF)

/-- One read of the text: how many characters are decoded once it is done, and, when it meets a
character that a stream may not hold, how many are decoded before that one. -/
structure Chunk where
  decoded : Nat
  badAt : Option Nat
  deriving Repr, Inhabited

/-- Adds a character whose last byte lies in the read numbered `k` from zero: reads before it that
end no character are kept as they are. -/
def Chunk.addTo (reads : Array Chunk) (k : Nat) (c : Char) : Array Chunk :=
  let last := reads.back?.map (·.decoded) |>.getD 0
  let padded := if reads.size ≤ k then reads.push { decoded := last, badAt := none } else reads
  padded.modify (padded.size - 1) fun r =>
    { decoded := r.decoded + 1,
      badAt := if r.badAt.isNone && !isAllowedChar c then some r.decoded else r.badAt }

/-- The reads of a text given as characters, the first of them at byte `offset`. -/
def Chunk.ofChars (offset : Nat) (cs : List Char) : List Chunk :=
  let step (acc : Array Chunk × Nat) (c : Char) : Array Chunk × Nat :=
    let stop := acc.2 + c.utf8Size
    (Chunk.addTo acc.1 ((stop - 1) / readSize) c, stop)
  (cs.foldl step (#[], offset)).1.toList

/-- A text as the scanner reads it: its characters less a leading byte order mark, and its
reads. An empty text reads as a single line break. -/
def readerInput (text : String) : Array Char × List Chunk :=
  let cs := if text.isEmpty then ['\n'] else text.toList
  match cs with
  | c :: rest => if c == byteOrderMark then (rest.toArray, Chunk.ofChars 3 rest)
    else (cs.toArray, Chunk.ofChars 0 cs)
  | [] => (#[], [])

/-- Reads on until `want` characters are decoded, starting from `decoded` of them: the new count and
the reads left. Past the last read the end of the text counts as one more character. -/
def Chunk.readUntil (want decoded : Nat) : List Chunk → Except (Nat × List Chunk) (Nat × List Chunk)
  | [] => .ok (decoded + 1, [])
  | r :: rest =>
    match r.badAt with
    | some clean => .error (clean, r :: rest)
    | none =>
      if r.decoded < want then Chunk.readUntil want r.decoded rest
      else .ok (r.decoded, rest)

end ChannelMux.Yaml
