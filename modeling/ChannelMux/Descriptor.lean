import ChannelMux.Options

/-! Channel descriptors: the text `scheme://host;name=value;...` that says which kind of channel to
build and how. -/

namespace ChannelMux

/-- How much of every message a channel writes to its log. -/
inductive DumpMode where
  | no
  | yes
  | frame
  | text
  deriving DecidableEq, Repr, Inhabited

namespace DumpMode

/-- The modes, in the order of their numbers. -/
def all : List DumpMode := [.no, .yes, .frame, .text]

/-- The word for a mode. -/
def name : DumpMode → String
  | .no => "no"
  | .yes => "yes"
  | .frame => "frame"
  | .text => "text"

/-- The words for the modes, in order. -/
def names : List String := all.map name

/-- The mode with a given number; numbers outside the range mean no dumping. -/
def ofInt (n : Int) : DumpMode :=
  if n = 1 then .yes else if n = 2 then .frame else if n = 3 then .text else .no

/-- The mode a word names. -/
def ofName? (s : String) : Option DumpMode := all.find? (·.name == s)

end DumpMode

/-- A parsed channel descriptor. -/
structure Descriptor where
  /-- The text the descriptor was read from. -/
  source : String
  scheme : String
  transport : String
  protocol : String
  host : String
  name : String
  dump : DumpMode
  options : Options
  deriving DecidableEq, Repr, Inhabited

/-- Why a descriptor was refused. -/
inductive DescriptorError where
  /-- No `://`, or nothing before it. -/
  | noScheme (text : String)
  /-- An option segment without `=`, or with nothing before it. -/
  | badOption (segment text : String)
  /-- A scheme whose part before the first `+` is empty. -/
  | emptyTransport (scheme : String)
  /-- A `dump` option that names no mode. -/
  | badDump (e : Options.OptionError)
  deriving DecidableEq, Repr

/-- The message of a refused descriptor. -/
def DescriptorError.text : DescriptorError → String
  | .noScheme t => "invalid channel url " ++ Text.quote t ++ ", expected proto://host"
  | .badOption seg t => "invalid option " ++ Text.quote seg ++ " in channel url " ++ Text.quote t
  | .emptyTransport s => "empty transport in scheme " ++ Text.quote s
  | .badDump e => e.text

/-- Every refused descriptor is a configuration failure. -/
def DescriptorError.failure (e : DescriptorError) : Failure := Failure.config e.text

/-- The text before and after the first occurrence of `sep`. -/
def splitFirst (sep : List Char) : List Char → Option (List Char × List Char)
  | [] => if sep.isEmpty then some ([], []) else none
  | c :: cs =>
    if sep.isPrefixOf (c :: cs) then some ([], (c :: cs).drop sep.length)
    else (splitFirst sep cs).map fun (a, b) => (c :: a, b)

/-- Reads the option segments after the host, in order; empty segments are skipped. -/
def readSegments (text : String) : List (List Char) → Except DescriptorError (List (String × String))
  | [] => .ok []
  | seg :: rest =>
    if seg.isEmpty then readSegments text rest
    else
      match seg.splitOn '=' with
      | k :: v =>
        if k.isEmpty || v.isEmpty then .error (.badOption (String.ofList seg) text)
        else
          match readSegments text rest with
          | .ok tail => .ok ((String.ofList k, "=".intercalate (v.map String.ofList)) :: tail)
          | .error e => .error e
      | [] => .error (.badOption (String.ofList seg) text)

namespace Descriptor

/-- The transport and protocol of a scheme: the text before its first `+` and the text after it,
or the whole scheme and nothing when it has no `+`. -/
def schemeParts (scheme : String) : String × String :=
  match scheme.toList.splitOn '+' with
  | t :: p :: more => (String.ofList t, "+".intercalate ((p :: more).map String.ofList))
  | _ => (scheme, "")

/-- Fills in transport, protocol, name and dump mode from the scheme and the options. -/
def finish (source scheme host : String) (options : Options) : Except DescriptorError Descriptor :=
  let parts := schemeParts scheme
  if parts.1.isEmpty then .error (.emptyTransport scheme)
  else
    match options.getChoice "dump" DumpMode.names with
    | .error e => .error (.badDump e)
    | .ok d =>
      .ok { source, scheme, transport := parts.1, protocol := parts.2, host,
            name := options.getString "name" "",
            dump := (DumpMode.ofName? d).getD .no,
            options }

/-- Reads a descriptor text. -/
def parse (text : String) : Except DescriptorError Descriptor :=
  match splitFirst "://".toList text.toList with
  | none => .error (.noScheme text)
  | some ([], _) => .error (.noScheme text)
  | some (scheme, rest) =>
    match rest.splitOn ';' with
    | [] => .error (.noScheme text)
    | host :: segments =>
      match readSegments text segments with
      | .error e => .error e
      | .ok pairs => finish text (String.ofList scheme) (String.ofList host) (Options.ofList pairs)

/-- A descriptor from its parts; its source text is `scheme://host`. -/
def make (scheme host : String) (options : Options) : Except DescriptorError Descriptor :=
  finish (scheme ++ "://" ++ host) scheme host options

/-- The descriptor with further options written over its own. A `host` option replaces the host and
is not kept among the options. The source text stays. -/
def override (d : Descriptor) (extra : Options) : Except DescriptorError Descriptor :=
  if extra.isEmpty then .ok d
  else
    let merged := d.options.merge extra
    match merged.get? "host" with
    | some h => finish d.source d.scheme h (merged.erase "host")
    | none => finish d.source d.scheme d.host merged

/-- The `header.<Name>` options as header lines, in order of names. -/
def headers (d : Descriptor) : List (String × String) := (d.options.sub "header").entries

/-- The canonical text of a descriptor. -/
def render (d : Descriptor) : String :=
  d.scheme ++ "://" ++ d.host ++ String.join (d.options.entries.map fun (k, v) => ";" ++ k ++ "=" ++ v)

end Descriptor

end ChannelMux
