import ChannelMux.Text.Case

/-! Formatted printing with `%` directives, by which the logger builds its texts and its errors. -/

namespace ChannelMux.Printf

/-- The flags of a directive. A `0` after a `-` is ignored and a `-` cancels a `0`: padding with
zeros is only ever on the left. -/
structure Flags where
  sharp : Bool := false
  zero : Bool := false
  plus : Bool := false
  minus : Bool := false
  space : Bool := false
  deriving DecidableEq, Repr

/-- Takes one more flag character; `none` for a character that is no flag. -/
def Flags.add (f : Flags) : Char → Option Flags
  | '#' => some { f with sharp := true }
  | '0' => some { f with zero := !f.minus }
  | '+' => some { f with plus := true }
  | '-' => some { f with minus := true, zero := false }
  | ' ' => some { f with space := true }
  | _ => none

/-- A width or a precision as the text writes it: no digits, a number, or `*`. -/
inductive Amount where
  | absent
  | given (n : Nat)
  | star
  deriving DecidableEq, Repr

/-- One `%` directive as its text reads. An index is the number written between the brackets, `none`
when the brackets hold no number. `index` stands before the width. -/
structure Directive where
  flags : Flags := {}
  index : Option (Option Nat) := none
  width : Amount := .absent
  precision : Option (Option (Option Nat) × Amount) := none
  verbIndex : Option (Option Nat) := none
  verb : Option Char
  deriving DecidableEq, Repr

/-- A piece of a format: a character copied as it is, or a directive. -/
inductive Piece where
  | text (c : Char)
  | directive (d : Directive)
  deriving DecidableEq, Repr

/-- The verb of a piece, if it is a directive that has one. -/
def Piece.verb? : Piece → Option Char
  | .text _ => none
  | .directive d => d.verb

/-! ### Reading the text of a format -/

/-- Digits read at the start of a text: the number they make so far, whether there was one, and
the text after them; or a number grown past a million with more digits to come. -/
inductive Digits where
  | stop (n : Nat) (seen : Bool) (rest : List Char)
  | overflow
  deriving DecidableEq, Repr

/-- Reads decimal digits onto `acc`. A number is refused once it is past a million and another
digit follows. -/
def readDigits (acc : Nat) (seen : Bool) : List Char → Digits
  | c :: cs =>
    if c.isDigit then
      if 1000000 < acc then .overflow else readDigits (acc * 10 + (c.toNat - '0'.toNat)) true cs
    else .stop acc seen (c :: cs)
  | [] => .stop acc seen []

/-- The number a whole text of digits writes, `none` for any other text. -/
def wholeNumber (cs : List Char) : Option Nat :=
  match readDigits 0 false cs with
  | .stop n true [] => some n
  | _ => none

/-- Reads the flags at the start of a text onto `f`. -/
def readFlags (f : Flags) : List Char → Flags × List Char
  | c :: cs =>
    match f.add c with
    | some f' => readFlags f' cs
    | none => (f, c :: cs)
  | [] => (f, [])

/-- The text before the first `]` and the text after that `]`, when there is one. -/
def closeBracket : List Char → Option (List Char × List Char)
  | [] => none
  | c :: cs =>
    if c = ']' then some ([], cs) else (closeBracket cs).map fun (inside, after) => (c :: inside, after)

/-- An index at the start of a text, and the text after it; `none` when the text does not start with
`[`. -/
def readIndex : List Char → Option (Option Nat) × List Char
  | '[' :: rest =>
    if rest.length < 2 then (some none, rest)
    else
      match closeBracket rest with
      | some (inside, after) => (some (wholeNumber inside), after)
      | none => (some none, rest)
  | cs => (none, cs)

/-- A width or a precision at the start of a text. A number too large to read takes the rest of
the format with it. -/
def readAmount : List Char → Amount × List Char
  | '*' :: rest => (.star, rest)
  | cs =>
    match readDigits 0 false cs with
    | .stop n true rest => (.given n, rest)
    | .stop _ false rest => (.absent, rest)
    | .overflow => (.absent, [])

/-- Whether an index read parsed, whatever the number it names. -/
def parsedIndex : Option (Option Nat) → Bool
  | some (some _) => true
  | _ => false

/-- The precision at the start of a text: a `.` with more text after it. Also whether what was
read last is a well-formed index, given whether it was so before. -/
def readPrecision (after : Bool) :
    List Char → Option (Option (Option Nat) × Amount) × List Char × Bool
  | '.' :: c :: more =>
    let (k, cs) := readIndex (c :: more)
    let (a, cs) := readAmount cs
    (some (k, a), cs, parsedIndex k && a != .star)
  | cs => (none, cs, after)

/-- Reads a directive, the text after its `%`: the directive and the text after it. -/
def readDirective (cs : List Char) : Directive × List Char :=
  let (flags, cs) := readFlags {} cs
  let (index, cs) := readIndex cs
  let (width, cs) := readAmount cs
  let (precision, cs, after) := readPrecision (parsedIndex index && width != .star) cs
  let (verbIndex, cs) := if after then (none, cs) else readIndex cs
  match cs with
  | [] => ({ flags, index, width, precision, verbIndex, verb := none }, [])
  | v :: rest => ({ flags, index, width, precision, verbIndex, verb := some v }, rest)

theorem readDigits_rest_length {acc : Nat} {seen : Bool} {cs rest : List Char} {n : Nat}
    {seen' : Bool} (h : readDigits acc seen cs = .stop n seen' rest) : rest.length ≤ cs.length := by
  induction cs generalizing acc seen with
  | nil => simp only [readDigits, Digits.stop.injEq] at h; simp [h.2.2]
  | cons c cs ih =>
    simp only [readDigits] at h
    split at h
    · split at h
      · cases h
      · exact Nat.le_succ_of_le (ih h)
    · simp only [Digits.stop.injEq] at h; simp [h.2.2]

theorem readFlags_rest_length (f : Flags) (cs : List Char) :
    (readFlags f cs).2.length ≤ cs.length := by
  induction cs generalizing f with
  | nil => simp [readFlags]
  | cons c cs ih =>
    simp only [readFlags]
    split
    · exact Nat.le_succ_of_le (ih _)
    · exact Nat.le_refl _

theorem closeBracket_after_length {cs inside after : List Char}
    (h : closeBracket cs = some (inside, after)) : after.length < cs.length := by
  induction cs generalizing inside with
  | nil => simp [closeBracket] at h
  | cons c cs ih =>
    simp only [closeBracket] at h
    split at h
    · simp only [Option.some.injEq, Prod.mk.injEq] at h
      simp [h.2]
    · obtain ⟨⟨inside', after'⟩, found, same⟩ := Option.map_eq_some_iff.1 h
      simp only [Prod.mk.injEq] at same
      rw [same.2] at found
      exact Nat.lt_succ_of_lt (ih found)

theorem readIndex_rest_length (cs : List Char) : (readIndex cs).2.length ≤ cs.length := by
  unfold readIndex
  split
  · split
    · simp
    · split
      · next h => exact Nat.le_of_lt (Nat.lt_succ_of_lt (closeBracket_after_length h))
      · simp
  · exact Nat.le_refl _

theorem readAmount_rest_length (cs : List Char) : (readAmount cs).2.length ≤ cs.length := by
  unfold readAmount
  split
  · simp
  · split
    · next h => exact readDigits_rest_length h
    · next h => exact readDigits_rest_length h
    · simp

theorem readPrecision_rest_length (after : Bool) (cs : List Char) :
    (readPrecision after cs).2.1.length ≤ cs.length := by
  unfold readPrecision
  split
  · next c more =>
    have k := readIndex_rest_length (c :: more)
    have a := readAmount_rest_length (readIndex (c :: more)).2
    simp only [List.length_cons] at k ⊢
    omega
  · exact Nat.le_refl _

theorem readDirective_rest_length (cs : List Char) : (readDirective cs).2.length ≤ cs.length := by
  have flags := readFlags_rest_length {} cs
  unfold readDirective
  generalize readFlags {} cs = r₁ at flags ⊢
  obtain ⟨fl, cs₁⟩ := r₁
  dsimp only at flags ⊢
  have index := readIndex_rest_length cs₁
  generalize readIndex cs₁ = r₂ at index ⊢
  obtain ⟨k, cs₂⟩ := r₂
  dsimp only at index ⊢
  have width := readAmount_rest_length cs₂
  generalize readAmount cs₂ = r₃ at width ⊢
  obtain ⟨w, cs₃⟩ := r₃
  dsimp only at width ⊢
  have precision := readPrecision_rest_length (parsedIndex k && w != .star) cs₃
  generalize readPrecision (parsedIndex k && w != .star) cs₃ = r₄ at precision ⊢
  obtain ⟨p, cs₄, after⟩ := r₄
  dsimp only at precision ⊢
  have verbIndex : (if after then (none, cs₄) else readIndex cs₄).2.length ≤ cs₄.length := by
    split
    · exact Nat.le_refl _
    · exact readIndex_rest_length cs₄
  generalize (if after then (none, cs₄) else readIndex cs₄) = r₅ at verbIndex ⊢
  obtain ⟨vk, cs₅⟩ := r₅
  dsimp only at verbIndex ⊢
  cases cs₅ with
  | nil => simp
  | cons v rest =>
    simp only [List.length_cons] at verbIndex ⊢
    omega

/-- A format read into pieces. A directive the format ends inside is the last piece. -/
def parse : List Char → List Piece
  | [] => []
  | '%' :: rest => .directive (readDirective rest).1 :: parse (readDirective rest).2
  | c :: rest => .text c :: parse rest
termination_by cs => cs.length
decreasing_by
  · exact Nat.lt_succ_of_le (readDirective_rest_length rest)
  · exact Nat.lt_succ_self _

/-- The verbs of a format, in order. -/
def verbs (f : String) : List Char := (parse f.toList).filterMap Piece.verb?

/-! ### Running the pieces over the arguments -/

/-- How a verb prints an argument, and what else the format asks of an argument. Printing an
argument of a given kind is not the format's business and is left open. -/
structure Printer (α : Type) where
  /-- What a verb prints for an argument, given the directive's flags, width and precision. -/
  print : Flags → Option Nat → Option Nat → Char → α → String
  /-- What `%w` prints when an error is made: an error argument as `%v` prints it. -/
  wrapped : Flags → Option Nat → Option Nat → α → String
  /-- The value of an argument of an integer kind that fits an `int`, for a `*`. -/
  asInt : α → Option Int
  /-- An argument no verb took, as the `EXTRA` list shows it: its type, `=` and its value. -/
  extra : α → String

variable {α : Type} (P : Printer α)

/-- What a directive's argument prints as. In an error (`wrap`), `%w` prints through `wrapped`. -/
def Printer.arg (wrap : Bool) (flags : Flags) (width prec : Option Nat) (verb : Char) (a : α) :
    String :=
  if wrap && verb == 'w' then P.wrapped flags width prec a else P.print flags width prec verb a

/-- An argument taken by a `*`: its value when it is an integer of at most a million either way. -/
def Printer.star (a : α) : Option Int :=
  match P.asInt a with
  | some n => if n.natAbs ≤ 1000000 then some n else none
  | none => none

/-- Where the arguments stand between directives: the next one to take, and whether an index was
used. -/
structure Cursor where
  argNum : Nat := 0
  reordered : Bool := false
  deriving DecidableEq, Repr

/-- What a directive has read so far: the cursor, its flags, width and precision, whether its
indexes are good, whether the last thing read was a well-formed index, and what it has written. -/
structure Reading where
  cursor : Cursor
  flags : Flags
  width : Option Nat := none
  prec : Option Nat := none
  good : Bool := true
  after : Bool := false
  out : String := ""

namespace Reading

/-- An index, out of `count` arguments: a well-formed one in range moves to the argument it names,
any other one makes the directive's indexes bad. Either way the arguments count as reordered. -/
def index (count : Nat) (r : Reading) : Option (Option Nat) → Reading
  | none => { r with after := false }
  | some none => { r with cursor := { r.cursor with reordered := true }, good := false, after := false }
  | some (some n) =>
    if 0 < n ∧ n ≤ count then
      { r with cursor := { argNum := n - 1, reordered := true }, after := true }
    else { r with cursor := { r.cursor with reordered := true }, good := false, after := true }

/-- Takes the next argument for a `*`, if any is left: its value as an integer, when it is one. -/
def takeStar (args : List α) (r : Reading) : Option Int × Reading :=
  match args[r.cursor.argNum]? with
  | some a => (P.star a, { r with cursor := { r.cursor with argNum := r.cursor.argNum + 1 }, after := false })
  | none => (none, { r with after := false })

/-- The width. A negative `*` width pads on the right. A number right after a well-formed index
makes the indexes bad. -/
def takeWidth (args : List α) (r : Reading) : Amount → Reading
  | .absent => r
  | .given n => { r with width := some n, good := r.good && !r.after }
  | .star =>
    match takeStar P args r with
    | (some n, r) =>
      if n < 0 then { r with width := some n.natAbs, flags := { r.flags with minus := true, zero := false } }
      else { r with width := some n.natAbs }
    | (none, r) => { r with out := r.out ++ "%!(BADWIDTH)" }

/-- The precision. A `.` right after a well-formed index makes the indexes bad; a `.` with no
number is a precision of 0; a negative `*` precision is refused. -/
def takePrecision (args : List α) (r : Reading) : Option (Option (Option Nat) × Amount) → Reading
  | none => r
  | some (k, amount) =>
    let r := ({ r with good := r.good && !r.after } : Reading).index args.length k
    match amount with
    | .absent => { r with prec := some 0 }
    | .given n => { r with prec := some n }
    | .star =>
      match takeStar P args r with
      | (some n, r) => if n < 0 then { r with out := r.out ++ "%!(BADPREC)" } else { r with prec := some n.toNat }
      | (none, r) => { r with out := r.out ++ "%!(BADPREC)" }

/-- The verb: `%` writes itself and takes nothing; any other verb prints its argument, unless the
indexes are bad or no argument is left. -/
def takeVerb (wrap : Bool) (args : List α) (r : Reading) : Char → Reading
  | '%' => { r with out := r.out ++ "%" }
  | v =>
    if !r.good then { r with out := r.out ++ "%!" ++ v.toString ++ "(BADINDEX)" }
    else
      match args[r.cursor.argNum]? with
      | none => { r with out := r.out ++ "%!" ++ v.toString ++ "(MISSING)" }
      | some a =>
        { r with out := r.out ++ P.arg wrap r.flags r.width r.prec v a,
                 cursor := { r.cursor with argNum := r.cursor.argNum + 1 } }

end Reading

/-- Everything a directive reads before its verb, from the cursor `c`. -/
def Directive.read (args : List α) (d : Directive) (c : Cursor) : Reading :=
  let r := (({ cursor := c, flags := d.flags } : Reading).index args.length d.index)
  let r := Reading.takeWidth P args r d.width
  let r := Reading.takePrecision P args r d.precision
  if r.after then r else r.index args.length d.verbIndex

/-- Runs the pieces from cursor `c`: what they write, and the cursor after them. A directive with
no verb writes `%!(NOVERB)` and ends the run. -/
def runPieces (wrap : Bool) (args : List α) : List Piece → Cursor → String × Cursor
  | [], c => ("", c)
  | .text ch :: ps, c =>
    let (s, c') := runPieces wrap args ps c
    (ch.toString ++ s, c')
  | .directive d :: ps, c =>
    let r := d.read P args c
    match d.verb with
    | none => (r.out ++ "%!(NOVERB)", r.cursor)
    | some v =>
      let r := Reading.takeVerb P wrap args r v
      let (s, c') := runPieces wrap args ps r.cursor
      (r.out ++ s, c')

/-- The list of the arguments no verb took, unless an index was used. -/
def extras (args : List α) (c : Cursor) : String :=
  if !c.reordered && c.argNum < args.length then
    "%!(EXTRA " ++ ", ".intercalate ((args.drop c.argNum).map P.extra) ++ ")"
  else ""

/-- The text a format writes with the arguments; `wrap` when an error is made. -/
def render (wrap : Bool) (f : String) (args : List α) : String :=
  let (s, c) := runPieces P wrap args (parse f.toList) {}
  s ++ extras P args c

/-- `Sprintf`. -/
def sprintf (f : String) (args : List α) : String := render P false f args

/-- The text of the error `Errorf` makes. -/
def errorText (f : String) (args : List α) : String := render P true f args

/-- Characters with every `%` doubled. -/
def escapeChars (cs : List Char) : List Char := cs.flatMap fun c => if c = '%' then ['%', '%'] else [c]

/-- A text with every `%` doubled, so that a format prints it as it is. -/
def escape (s : String) : String := String.ofList (escapeChars s.toList)

end ChannelMux.Printf
