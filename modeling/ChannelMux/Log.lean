import ChannelMux.Text.Case
import ChannelMux.Text.Printf

/-! Leveled, prefixed logging. -/

namespace ChannelMux

/-- How much a logger writes. -/
inductive Level where
  | unknown
  | panic
  | fatal
  | error
  | warning
  | info
  | debug
  | trace
  deriving DecidableEq, Repr, Inhabited

namespace Level

/-- Levels in the order of their numbers. -/
def all : List Level := [.unknown, .panic, .fatal, .error, .warning, .info, .debug, .trace]

/-- The number of a level. -/
def code : Level → Nat
  | .unknown => 0
  | .panic => 1
  | .fatal => 2
  | .error => 3
  | .warning => 4
  | .info => 5
  | .debug => 6
  | .trace => 7

/-- The lower-case name of a level. -/
def name : Level → String
  | .unknown => "unknown"
  | .panic => "panic"
  | .fatal => "fatal"
  | .error => "error"
  | .warning => "warning"
  | .info => "info"
  | .debug => "debug"
  | .trace => "trace"

/-- The level with a given number; numbers that name none mean `unknown`. -/
def ofInt (n : Int) : Level := (all.find? fun l => (l.code : Int) = n).getD .unknown

/-- The level a name names, in any case; `warn` is short for `warning`. Any other text is
`unknown`. -/
def ofName (s : String) : Level :=
  let t := Text.lower s
  if t = "warn" then .warning else (all.find? (·.name == t)).getD .unknown

/-- Reads a level name strictly: `unknown` and texts naming no level are refused. -/
def parse (s : String) : Except String Level :=
  match ofName s with
  | .unknown => .error ("Unknown log level: \"" ++ s ++ "\"")
  | l => .ok l

end Level

/-- A prefix and a level. -/
structure Logger where
  prefixText : String := ""
  level : Level := .error
  deriving DecidableEq, Repr, Inhabited

/-- The result of one logging call. -/
inductive LogResult where
  /-- The call returned normally. -/
  | done
  /-- The call returned an error with this text. -/
  | failed (text : String)
  /-- The call aborted with this text. -/
  | aborted (text : String)
  /-- The call ended the program with this exit status. -/
  | exited (status : Nat)
  deriving DecidableEq, Repr

/-- What a logging call does: the line it writes, if any, and its result. -/
structure LogEffect where
  line : Option String
  result : LogResult
  deriving DecidableEq, Repr

/-- The shape of a time stamp, `YYYY/MM/DD hh:mm:ss.uuuuuu ` with a space after it: `0` stands
for any decimal digit. -/
def stampShape : List Char := "0000/00/00 00:00:00.000000 ".toList

/-- A line less the time stamp at its start, if it starts with one. -/
def dropStamp (line : String) : String :=
  let cs := line.toList
  let fits := cs.length ≥ stampShape.length &&
    (stampShape.zip cs).all fun (p, c) => if p == '0' then c.isDigit else p == c
  if fits then String.ofList (cs.drop stampShape.length) else line

/-- The lines a logging call shows in the output. -/
def LogEffect.shownLines (e : LogEffect) : List String :=
  match e.line with
  | none => []
  | some line =>
    match line.splitOn "\n" with
    | [] => []
    | first :: rest => first :: (rest.filter (· != "")).map dropStamp

namespace Logger

/-- Whether lines of a level are written. -/
def enabled (l : Logger) (lv : Level) : Bool := lv.code ≤ l.level.code || lv.code ≤ Level.fatal.code

/-- A text with the logger's prefix in front. -/
def prefixed (l : Logger) (text : String) : String :=
  if l.prefixText.isEmpty then text else l.prefixText ++ ": " ++ text

/-- A logger for a part of this one. -/
def fork (l : Logger) (part : String) : Logger :=
  { l with prefixText := if l.prefixText.isEmpty then part else l.prefixText ++ ": " ++ part }

theorem prefixText_fork (l : Logger) (part : String) :
    (l.fork part).prefixText =
      if l.prefixText.isEmpty then part else l.prefixText ++ ": " ++ part := rfl

theorem level_fork (l : Logger) (part : String) : (l.fork part).level = l.level := rfl

/-- What every text of the logger starts with: its prefix and `": "`, or nothing when the prefix is
empty. -/
def lead (l : Logger) : String := if l.prefixText.isEmpty then "" else l.prefixText ++ ": "

/-- A formatted text with the logger's prefix in front. -/
def sprintf {α : Type} (l : Logger) (P : Printf.Printer α) (f : String) (args : List α) : String :=
  l.lead ++ Printf.sprintf P f args

/-- The text of an error the logger makes: the format is its lead with every `%` doubled,
followed by `f`. -/
def errorf {α : Type} (l : Logger) (P : Printf.Printer α) (f : String) (args : List α) : String :=
  Printf.errorText P (Printf.escape l.lead ++ f) args

/-- Writes a text at a level: a panic-level call then aborts with the text, a fatal-level one ends
the program with status 1. -/
def log (l : Logger) (lv : Level) (text : String) : LogEffect :=
  if !l.enabled lv then ⟨none, .done⟩
  else
    let msg := l.prefixed text
    let line := if Level.fatal.code < lv.code then "[" ++ lv.name ++ "] " ++ msg else msg
    ⟨some line, if lv = .panic then .aborted msg else if lv = .fatal then .exited 1 else .done⟩

/-- Makes an error from a text and writes it at a level. -/
def logError (l : Logger) (lv : Level) (text : String) : LogEffect :=
  let err := l.prefixed text
  ⟨if l.enabled lv then some ("[" ++ lv.name ++ "] " ++ err) else none, .failed err⟩

/-- Aborts with a text. -/
def abort (l : Logger) (text : String) : LogEffect := l.log .panic text

/-- Aborts with an error's text when there is an error. -/
def abortOnError (l : Logger) : Option String → LogEffect
  | none => ⟨none, .done⟩
  | some e => l.abort e

end Logger

/-- Loggers held by reference: logger `i` is the `i`-th of `cells`. A fork is a new logger at the
end, and setting a level changes the one logger it is set on. -/
structure LoggerStore where
  cells : List Logger := []
  deriving DecidableEq, Repr

/-- A call on a logger of a store: a fork with an already formatted part, or a new level. -/
inductive LoggerCall where
  | fork (i : Nat) (part : String)
  | setLevel (i : Nat) (level : Level)
  deriving DecidableEq, Repr

namespace LoggerStore

/-- Makes a call; a call on no logger changes nothing. -/
def call (s : LoggerStore) : LoggerCall → LoggerStore
  | .fork i part =>
    match s.cells[i]? with
    | some l => ⟨s.cells ++ [l.fork part]⟩
    | none => s
  | .setLevel i level => ⟨s.cells.modify i fun l => { l with level := level }⟩

/-- Makes the calls in order. -/
def run (s : LoggerStore) (cs : List LoggerCall) : LoggerStore := cs.foldl call s

end LoggerStore

/-- Counts of connections: how many are open now and how many were ever made. -/
structure ConnCount where
  opened : Int := 0
  total : Int := 0
  deriving DecidableEq, Repr, Inhabited

namespace ConnCount

/-- Counts a new connection; gives the new total. -/
def add (c : ConnCount) : ConnCount × Int := ({ c with total := c.total + 1 }, c.total + 1)

/-- Counts a connection as open. -/
def openOne (c : ConnCount) : ConnCount := { c with opened := c.opened + 1 }

/-- Counts a connection as closed. -/
def closeOne (c : ConnCount) : ConnCount := { c with opened := c.opened - 1 }

/-- `[open/total]`. -/
def text (c : ConnCount) : String := "[" ++ toString c.opened ++ "/" ++ toString c.total ++ "]"

end ConnCount

end ChannelMux
