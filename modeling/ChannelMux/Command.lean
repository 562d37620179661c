import ChannelMux.Settings.Load
import ChannelMux.Header
import ChannelMux.Method

/-! The command line: its commands, their flags, and what an invocation asks for. -/

namespace ChannelMux.Command

/-- The kinds of value a flag takes. -/
inductive FlagKind where
  /-- On or off; given alone it means on. -/
  | switch
  | text
  /-- An integer, written as an integer literal with an optional base prefix. -/
  | number
  /-- A header line `Name: value`, which may be given many times. -/
  | header
  deriving DecidableEq, Repr

/-- A flag of a command: its name, its kind, its default as written, and its help text. -/
structure Flag where
  name : String
  kind : FlagKind
  default : String := ""
  help : String
  deriving Repr

/-- Why the flags of a command did not read. -/
inductive FlagError where
  /-- The flag list was asked for. -/
  | help
  | badSyntax (arg : String)
  | undefined (name : String)
  | missingValue (name : String)
  | badSwitch (name value : String)
  | badValue (name value reason : String)
  deriving DecidableEq, Repr

/-- The message of a flag error. -/
def FlagError.message : FlagError → String
  | .help => "flag: help requested"
  | .badSyntax a => "bad flag syntax: " ++ a
  | .undefined n => "flag provided but not defined: -" ++ n
  | .missingValue n => "flag needs an argument: -" ++ n
  | .badSwitch n v => "invalid boolean value " ++ Text.quote v ++ " for -" ++ n ++ ": parse error"
  | .badValue n v r => "invalid value " ++ Text.quote v ++ " for flag -" ++ n ++ ": " ++ r

/-- Whether digits and underscores of an integer literal are placed well: an underscore stands
only between two digits, or right after a base prefix. -/
def underscoresPlaced (cs : List Char) (hex : Bool) : Bool :=
  let isDigit (c : Char) : Bool := c.isDigit || (hex && (Text.hexValue? c).isSome)
  let rec go : Char → List Char → Bool
    | saw, c :: rest =>
      if isDigit c then go '0' rest
      else if c == '_' then saw == '0' && go '_' rest
      else saw != '_' && go '!' rest
    | saw, [] => saw != '_'
  go '^' cs

/-- Reads an integer literal: an optional sign, then digits in base 10, or after a prefix `0b`, `0o`
or `0x`, or after a bare leading `0` for octal; underscores may separate digits. -/
def readLiteral (s : String) : Except String Int :=
  let cs := s.toList
  let (negative, unsigned) : Bool × List Char :=
    match cs with
    | '-' :: r => (true, r)
    | '+' :: r => (false, r)
    | _ => (false, cs)
  let (base, digits, prefixed, hex) : Nat × List Char × Bool × Bool :=
    match unsigned with
    | '0' :: p :: rest@(_ :: _) =>
      if p == 'b' || p == 'B' then (2, rest, true, false)
      else if p == 'o' || p == 'O' then (8, rest, true, false)
      else if p == 'x' || p == 'X' then (16, rest, true, true)
      else (8, p :: rest, false, false)
    | '0' :: rest@(_ :: _) => (8, rest, false, false)
    | _ => (10, unsigned, false, false)
  let plain := digits.filter (· != '_')
  let valid := !plain.isEmpty && plain.all fun c =>
    match Yaml.digitValue c with
    | some d => d < base
    | none => false
  let placed := !digits.contains '_' ||
    underscoresPlaced (if prefixed then '0' :: unsigned.drop 2 else unsigned) hex
  if !valid || !placed then .error "parse error"
  else
    let n := plain.foldl (fun acc c => acc * base + ((Yaml.digitValue c).getD 0)) 0
    if negative then (if n ≤ Nat.pow 2 63 then .ok (-(n : Int)) else .error "value out of range")
    else if n < Nat.pow 2 63 then .ok n else .error "value out of range"

/-- Reads a header flag `Name: value`: the text is cut at its first colon and both parts are
trimmed; the name must not be empty. -/
def readHeader (s : String) : Except String HeaderLine :=
  match s.toList.span (· != ':') with
  | (name, ':' :: value) =>
    let name := Text.trim (String.ofList name)
    if name.isEmpty then .error ("header " ++ Text.quote s ++ " is not Name: value")
    else .ok ⟨name, Text.trim (String.ofList value)⟩
  | _ => .error ("header " ++ Text.quote s ++ " is not Name: value")

/-- Checks a value given to a flag. -/
def Flag.check (f : Flag) (value : String) : Except FlagError Unit :=
  match f.kind with
  | .switch =>
    if (Settings.readBool? value).isSome then .ok () else .error (.badSwitch f.name value)
  | .text => .ok ()
  | .number =>
    match readLiteral value with
    | .ok _ => .ok ()
    | .error r => .error (.badValue f.name value r)
  | .header =>
    match readHeader value with
    | .ok _ => .ok ()
    | .error r => .error (.badValue f.name value r)

/-- The flags a command was given, in order, and the arguments after them. -/
structure Given where
  values : List (String × String) := []
  rest : List String := []
  deriving Repr, Inhabited

/-- Puts a flag value in front of those read after it. -/
def Given.cons (key value : String) (g : Given) : Given := { g with values := (key, value) :: g.values }

/-- Reads the flags of a command from its arguments, as described above. -/
def readFlags (flags : List Flag) : List String → Except FlagError Given
  | [] => .ok {}
  | arg :: more =>
    match arg.toList with
    | '-' :: '-' :: [] => .ok { rest := more }
    | '-' :: c :: tail =>
      let name := if c == '-' then tail else c :: tail
      match name with
      | [] | '-' :: _ | '=' :: _ => .error (.badSyntax arg)
      | _ =>
        let (key, value?) : String × Option String :=
          match name.span (· != '=') with
          | (k, '=' :: v) => (String.ofList k, some (String.ofList v))
          | (k, _) => (String.ofList k, none)
        match flags.find? (·.name == key) with
        | none => .error (if key == "help" || key == "h" then .help else .undefined key)
        | some f =>
          match f.kind, value? with
          | .switch, some v => (f.check v).bind fun _ => (readFlags flags more).map (Given.cons key v)
          | .switch, none => (readFlags flags more).map (Given.cons key "true")
          | _, some v => (f.check v).bind fun _ => (readFlags flags more).map (Given.cons key v)
          | _, none =>
            match more with
            | v :: after => (f.check v).bind fun _ => (readFlags flags after).map (Given.cons key v)
            | [] => .error (.missingValue key)
    | _ => .ok { rest := arg :: more }

/-- The last value given to a flag, or its default. -/
def Given.get (g : Given) (f : Flag) : String :=
  (g.values.filter (·.1 == f.name)).getLast?.map (·.2) |>.getD f.default

/-- Every value given to a flag, in order. -/
def Given.all (g : Given) (f : Flag) : List String :=
  (g.values.filter (·.1 == f.name)).map (·.2)

/-- The kind of a flag as the flag list names it; a switch has no name. -/
def FlagKind.shown : FlagKind → String
  | .switch => ""
  | .text => "string"
  | .number => "int"
  | .header => "value"

/-- Whether a default is the zero value of its kind, which the flag list does not show. -/
def Flag.zeroDefault (f : Flag) : Bool :=
  match f.kind with
  | .switch => f.default == "false" || f.default.isEmpty
  | .number => f.default == "0" || f.default.isEmpty
  | .text | .header => f.default.isEmpty

/-- The entry of a flag in the flag list. -/
def Flag.entry (f : Flag) : String :=
  let head := "  -" ++ f.name ++ (if f.kind.shown.isEmpty then "" else " " ++ f.kind.shown)
  let sep := if head.length ≤ 4 then "\t" else "\n    \t"
  let dflt :=
    if f.zeroDefault then ""
    else if f.kind == .text then " (default " ++ Text.quote f.default ++ ")"
    else " (default " ++ f.default ++ ")"
  head ++ sep ++ f.help ++ dflt ++ "\n"

/-- The flag list of a command, its flags sorted by name. -/
def flagList (command : String) (flags : List Flag) : String :=
  "Usage of " ++ command ++ ":\n" ++
    String.join ((flags.mergeSort fun a b => decide (a.name ≤ b.name)).map Flag.entry)

/-- An apostrophe, as help texts quote with it. -/
def tick : String := "\x27"

/-- The flag naming the settings file. -/
def configFlag : Flag :=
  { name := "config", kind := .text, help := "config file (default $MUXCHAN_CONFIG or ./muxchan.yaml)" }

/-- The switch for following edits of the settings file. -/
def watchFlag : Flag :=
  { name := "watch", kind := .switch, default := "true",
    help := "apply route changes when the config file is edited" }

/-- The method of a fetch. -/
def methodFlag : Flag := { name := "X", kind := .text, default := "GET", help := "request method" }

/-- The request body of a fetch. -/
def bodyFlag : Flag := { name := "d", kind := .text, help := "request body" }

/-- The switch for printing the response status and headers of a fetch. -/
def includeFlag : Flag :=
  { name := "i", kind := .switch, default := "false",
    help := "print the response status and headers before the body" }

/-- How often a fetch retries after a connection failure. -/
def retriesFlag : Flag :=
  { name := "retries", kind := .number, default := "-1",
    help := "retries on connection failure (default client.retries)" }

/-- A request header of a fetch. -/
def headerFlag : Flag :=
  { name := "H", kind := .header, help := "request header " ++ tick ++ "Name: value" ++ tick ++ ", repeatable" }

/-- The flags of serve. -/
def serveFlags : List Flag := [configFlag, watchFlag]

/-- The flags of fetch. -/
def fetchFlags : List Flag := [configFlag, methodFlag, bodyFlag, includeFlag, retriesFlag, headerFlag]

/-- The usage text of the command line. -/
def usage : String :=
  "Usage: muxchan <command> [options]\n\nCommands:\n" ++
  "  serve     listen and serve the routes of the config file\n" ++
  "  fetch     run one HTTP exchange through an httpc channel\n" ++
  "  schemes   list the registered channel schemes\n\n" ++
  "Run " ++ tick ++ "muxchan <command> -h" ++ tick ++ " for the options of a command.\n"

/-- One HTTP exchange a fetch asks for. -/
structure Fetch where
  url : String
  method : String
  body : String
  headers : List HeaderLine
  showHead : Bool
  retries : Int
  deriving Repr

/-- What an invocation asks for, once its flags are read. -/
inductive Request where
  /-- Print the usage text and end with a status. -/
  | usage (status : UInt32)
  | schemes
  /-- Serve with the settings file asked for. -/
  | serve (config : String) (watch : Bool)
  /-- Fetch with the settings file asked for. -/
  | fetch (config : String) (f : Fetch)
  /-- The flags of a command did not read. -/
  | badFlags (command : String) (flags : List Flag) (e : FlagError)
  /-- The arguments did not make a request; the text says why. -/
  | refused (message : String)

/-- Reads the arguments of the command line into a request. -/
def Request.ofArgs : List String → Request
  | [] => .usage 2
  | "serve" :: args =>
    match readFlags serveFlags args with
    | .error e => .badFlags "serve" serveFlags e
    | .ok g => .serve (g.get configFlag) ((Settings.readBool? (g.get watchFlag)).getD true)
  | "fetch" :: args =>
    match readFlags fetchFlags args with
    | .error e => .badFlags "fetch" fetchFlags e
    | .ok g =>
      match g.rest with
      | [url] =>
        .fetch (g.get configFlag)
          { url, method := g.get methodFlag, body := g.get bodyFlag,
            headers := (g.all headerFlag).filterMap fun h => (readHeader h).toOption,
            showHead := (Settings.readBool? (g.get includeFlag)).getD false,
            retries := (readLiteral (g.get retriesFlag)).toOption.getD (-1) }
      | _ => .refused "fetch takes exactly one url"
  | "schemes" :: _ => .schemes
  | "help" :: _ | "-h" :: _ | "--help" :: _ => .usage 0
  | _ :: _ => .usage 2

/-- The method a fetch asks for: a known method other than UNDEFINED. -/
def Fetch.readMethod (f : Fetch) : Except String Method :=
  match Method.parse f.method with
  | .ok m => if m = .undefined then .error ("invalid method " ++ Text.quote f.method) else .ok m
  | .error _ => .error ("invalid method " ++ Text.quote f.method)

end ChannelMux.Command
