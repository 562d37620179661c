import ChannelMux.Settings.Basic
import ChannelMux.Yaml.Target
import ChannelMux.Text.Duration
import ChannelMux.Failure

/-! Reading settings from YAML: each section a mapping, each field a key. -/

namespace ChannelMux.Settings

open Yaml

/-- A fraction as a 64-bit integer, rounded toward zero; refused when above the 64-bit range or
not a number. -/
def fractionToInt? (x : Float) : Option Int :=
  if x.isNaN || x > 9223372036854775808.0 then none else some (Text.truncInt64 x)

/-- Integers. -/
def intTarget : Target Int where
  name := "int"
  scalar _ value _ _ :=
    match value with
    | .int n => some n
    | .float x => fractionToInt? x
    | _ => none

/-- Durations in nanoseconds. -/
def durationTarget : Target Int where
  name := "time.Duration"
  scalar _ value _ _ :=
    match value.text? with
    | some s =>
      match Text.readDuration s with
      | .ok d => some d
      | .error _ => none
    | none => none

/-- The words a switch takes for on and off besides the booleans. -/
def switchWord? (s : String) : Option Bool :=
  if ["y", "Y", "yes", "Yes", "YES", "on", "On", "ON"].contains s then some true
  else if ["n", "N", "no", "No", "NO", "off", "Off", "OFF"].contains s then some false
  else none

/-- Switches. -/
def boolTarget : Target Bool where
  name := "bool"
  scalar _ value _ _ :=
    match value with
    | .bool b => some b
    | _ => value.text? >>= switchWord?

/-- The listening side. -/
def serverTarget : Target Server :=
  structTarget "config.ServerConfig"
    [("listen", field textTarget (·.listen) fun s x => { s with listen := x }),
     ("metrics", field boolTarget (·.metrics) fun s x => { s with metrics := x }),
     ("compress", field boolTarget (·.compress) fun s x => { s with compress := x })]

/-- The HTTP client. -/
def clientTarget : Target Client :=
  structTarget "config.ClientConfig"
    [("max_connections", field intTarget (·.maxConnections) fun s x => { s with maxConnections := x }),
     ("proxy", field textTarget (·.proxy) fun s x => { s with proxy := x }),
     ("connect_timeout", field durationTarget (·.connectTimeout) fun s x => { s with connectTimeout := x }),
     ("timeout", field durationTarget (·.timeout) fun s x => { s with timeout := x }),
     ("retries", field intTarget (·.retries) fun s x => { s with retries := x }),
     ("max_retry_interval", field durationTarget (·.maxRetryInterval)
        fun s x => { s with maxRetryInterval := x })]

/-- Logging. -/
def loggingTarget : Target Logging :=
  structTarget "config.LogConfig"
    [("level", field textTarget (·.level) fun s x => { s with level := x }),
     ("dump", field textTarget (·.dump) fun s x => { s with dump := x })]

/-- One route. -/
def routeTarget : Target Route :=
  structTarget "config.Route"
    [("path", field textTarget (·.path) fun s x => { s with path := x }),
     ("kind", field textTarget (·.kind) fun s x => { s with kind := x }),
     ("code", field intTarget (·.code) fun s x => { s with code := x }),
     ("body", field textTarget (·.body) fun s x => { s with body := x }),
     ("headers", field textMapTarget (·.headers) fun s x => { s with headers := x }),
     ("require", field textMapTarget (·.require) fun s x => { s with require := x })]

/-- The whole settings. -/
def configTarget : Target Config :=
  structTarget "config.Config"
    [("server", field serverTarget (·.server) fun s x => { s with server := x }),
     ("client", field clientTarget (·.client) fun s x => { s with client := x }),
     ("log", field loggingTarget (·.log) fun s x => { s with log := x }),
     ("routes", field (listTarget "[]config.Route" routeTarget {}) (·.routes)
        fun s x => { s with routes := x })]

/-- Reads settings from a YAML text on top of the given ones. -/
def readYaml (text : String) (base : Config) : Except DecodeStop Config :=
  decodeText configTarget text base

/-- The failure of reading settings that stopped: a fault as a plain failure, a key that cannot be
looked up as the runtime fault it causes. -/
def decodeFailure : DecodeStop → Failure
  | .fault m => Failure.plain m
  | .unhashableKey t => ⟨.abort, "runtime error: hash of unhashable type " ++ t⟩

end ChannelMux.Settings
