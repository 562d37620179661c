import ChannelMux.Text.Quote
import ChannelMux.Text.Bytes

/-! Process settings: the listening address and what it serves, the shared HTTP client, and logging.
Durations are counts of nanoseconds. -/

namespace ChannelMux.Settings

open Text (ByteText)

/-- A list of text pairs standing for a map: each key once, later settings replacing
earlier ones. -/
abbrev TextMap := List (ByteText × ByteText)

/-- The listening side. -/
structure Server where
  listen : ByteText := default
  metrics : Bool := false
  compress : Bool := false
  deriving Repr, Inhabited

/-- The shared HTTP client. -/
structure Client where
  maxConnections : Int := 0
  proxy : ByteText := default
  connectTimeout : Int := 0
  timeout : Int := 0
  retries : Int := 0
  maxRetryInterval : Int := 0
  deriving Repr, Inhabited

/-- Logging. -/
structure Logging where
  level : ByteText := default
  dump : ByteText := default
  deriving Repr, Inhabited

/-- One path served by the listening channel. -/
structure Route where
  path : ByteText := default
  kind : ByteText := default
  code : Int := 0
  body : ByteText := default
  headers : Option TextMap := none
  require : Option TextMap := none
  deriving Repr, Inhabited

/-- The whole settings. -/
structure Config where
  server : Server := {}
  client : Client := {}
  log : Logging := {}
  routes : List Route := []
  deriving Repr, Inhabited

/-- One second in nanoseconds. -/
def second : Int := 1000000000

/-- The built-in settings. -/
def defaults : Config where
  server := { listen := .ofString "*:8080" }
  client := { maxConnections := 8, connectTimeout := 10 * second, timeout := 60 * second,
              maxRetryInterval := 30 * second }
  log := { level := .ofString "info", dump := .ofString "no" }

/-- The address of a route's sub channel. -/
def Route.url (r : Route) : ByteText :=
  .ofString "ws+" ++ r.kind ++ .ofString "://" ++ r.path

/-- The options of a route's sub channel: each required header under `require.`. -/
def Route.props (r : Route) : TextMap :=
  (r.require.getD []).map fun (k, v) => (.ofString "require." ++ k, v)

/-- The address of the listening channel. -/
def Config.serverUrl (c : Config) : ByteText :=
  .ofString "ws://" ++ c.server.listen ++ .ofString ";mode=server;name=server;dump=" ++ c.log.dump ++
    .ofString ((if c.server.metrics then ";metrics=yes" else "") ++
      (if c.server.compress then ";compress=yes" else ""))

/-- Whole milliseconds of a duration, rounded toward zero. -/
def milliseconds (d : Int) : Int := d.tdiv 1000000

/-- The address of the shared HTTP client group. -/
def Config.groupUrl (c : Config) : ByteText :=
  .ofString ("httpc://;name=client;max-connections=" ++ toString c.client.maxConnections ++
    ";connect-timeout=" ++ toString (milliseconds c.client.connectTimeout) ++
    "ms;timeout=" ++ toString (milliseconds c.client.timeout) ++ "ms") ++
    (if c.client.proxy.isEmpty then default else .ofString ";proxy=" ++ c.client.proxy)

end ChannelMux.Settings
