import ChannelMux.Failure
import ChannelMux.Text.Case
import ChannelMux.Text.Quote

/-! HTTP request methods as Connect records carry them: a signed byte, of which 0 to 9 are named. -/

namespace ChannelMux

/-- An HTTP request method. Codes 0 to 9 name the methods of `Method.names`; 0, `undefined`, stands
for the method the channel is configured with. -/
structure Method where
  code : Int8
  deriving DecidableEq, Repr, Inhabited

namespace Method

def undefined : Method := ⟨0⟩
def get : Method := ⟨1⟩
def head : Method := ⟨2⟩
def post : Method := ⟨3⟩
def put : Method := ⟨4⟩
def delete : Method := ⟨5⟩
def connect : Method := ⟨6⟩
def options : Method := ⟨7⟩
def trace : Method := ⟨8⟩
def patch : Method := ⟨9⟩

/-- The upper-case names of the codes 0 to 9. -/
def names : List String :=
  ["UNDEFINED", "GET", "HEAD", "POST", "PUT", "DELETE", "CONNECT", "OPTIONS", "TRACE", "PATCH"]

/-- The named methods, in the order of their codes. -/
def all : List Method := (List.range names.length).map fun i => ⟨Int8.ofNat i⟩

/-- The method of an integer, converted to a signed byte. -/
def ofInt (n : Int) : Method := ⟨Int8.ofInt n⟩

/-- The name of a method, or `Method(n)` for a code that names none. -/
def name (m : Method) : String :=
  let unnamed := "Method(" ++ toString m.code.toInt ++ ")"
  if m.code < 0 then unnamed else (names[m.code.toNatClampNeg]?).getD unnamed

/-- The method with exactly this upper-case name. -/
def ofName? (s : String) : Option Method := all.find? (·.name == s)

/-- Reads a method name: blanks around it are ignored and case does not matter. -/
def parse (s : String) : Except Failure Method :=
  match ofName? (Text.upper (Text.trim s)) with
  | some m => .ok m
  | none => .error (Failure.config ("unknown method " ++ Text.quote s))

/-- A method, or `fallback` when none is chosen. -/
def orElse (m fallback : Method) : Method :=
  if m = .undefined then fallback else m

/-- The method word with only its first letter upper case, as request errors name it. -/
def title (m : Method) : String :=
  match m.name.toList with
  | c :: cs => String.ofList (c :: cs.map Char.toLower)
  | [] => ""

end Method

end ChannelMux
