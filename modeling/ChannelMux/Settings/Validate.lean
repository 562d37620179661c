import ChannelMux.Settings.Basic
import ChannelMux.Route
import ChannelMux.Log

/-! Checking settings. -/

namespace ChannelMux.Settings

open Text (ByteText)

/-- One problem found in the settings: its message, and whether it is a configuration failure. -/
structure Problem where
  message : String
  config : Bool := false
  deriving Repr, Inhabited

/-- The problems of one route, given the paths of the routes before it. -/
def Route.problems (i : Nat) (seen : List ByteText) (r : Route) : List Problem :=
  let at_ := "routes[" ++ toString i ++ "]."
  let path : List Problem :=
    match validatePattern r.path with
    | .error e => [{ message := at_ ++ "path: " ++ e.failure.message, config := true }]
    | .ok () =>
      if r.path.contains ';' then [{ message := at_ ++ "path must not contain ';'" }]
      else if seen.contains r.path then
        [{ message := at_ ++ "path " ++ r.path.quote ++ " is duplicated" }]
      else []
  let kind : List Problem :=
    if ["http", "ws", "sse"].any (ByteText.ofString · == r.kind) then []
    else [{ message := at_ ++ "kind must be http, ws or sse, got " ++ r.kind.quote }]
  let code : List Problem :=
    if r.code != 0 && (r.code < 100 || r.code > 599) then
      [{ message := at_ ++ "code " ++ toString r.code ++ " is not an HTTP status" }]
    else []
  path ++ kind ++ code

/-- The problems of the routes from index `i` on, given the paths of the routes before. -/
def routeProblems : Nat → List ByteText → List Route → List Problem
  | _, _, [] => []
  | i, seen, r :: rest => r.problems i seen ++ routeProblems (i + 1) (r.path :: seen) rest

/-- Every problem of the settings, in order. -/
def Config.problems (c : Config) : List Problem :=
  let listen : List Problem :=
    if c.server.listen.isEmpty then [{ message := "server.listen is required" }]
    else if c.server.listen.contains ';' || c.server.listen.contains '/' then
      [{ message := "server.listen must be host:port, got " ++ c.server.listen.quote }]
    else []
  let connections : List Problem :=
    if c.client.maxConnections < 0 then
      [{ message := "client.max_connections must be >= 0, got " ++ toString c.client.maxConnections }]
    else []
  let retries : List Problem :=
    if c.client.retries < 0 then
      [{ message := "client.retries must be >= 0, got " ++ toString c.client.retries }]
    else []
  let proxy : List Problem :=
    if c.client.proxy.contains ';' then [{ message := "client.proxy must not contain ';'" }] else []
  let level : List Problem :=
    if Level.ofName c.log.level.text == .unknown then
      [{ message := "log.level " ++ c.log.level.quote ++ " is not a known level" }]
    else []
  let dump : List Problem :=
    if ["no", "yes", "frame", "text"].any (ByteText.ofString · == c.log.dump) then []
    else [{ message := "log.dump must be one of no, yes, frame, text, got " ++ c.log.dump.quote }]
  listen ++ connections ++ retries ++ proxy ++ level ++ dump ++ routeProblems 0 [] c.routes

/-- The problems joined into one failure under a context, a configuration failure when one of
them is; none when there is no problem. -/
def problemsFailure (context : String) (ps : List Problem) : Option Failure :=
  if ps.isEmpty then none
  else
    let text := withPrefix context ("\n".intercalate (ps.map (·.message)))
    some { kind := if ps.any (·.config) then .config else .other, message := text }

end ChannelMux.Settings
