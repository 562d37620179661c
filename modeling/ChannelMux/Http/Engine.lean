import ChannelMux.Options
import ChannelMux.Net.Url

/-! The settings an HTTP client engine is built from, read from channel options. -/

namespace ChannelMux.Http

/-- The settings of an HTTP client engine. -/
structure Engine where
  maxConnections : Int := 0
  connectTimeout : Int := 30 * 1000000000
  expectTimeout : Int := 1000000000
  timeout : Int := 0
  proxy : Option Net.WebUrl := none
  deriving Repr, Inhabited

/-- Reads an engine from options. -/
def Engine.ofOptions (o : Options) : Except Failure Engine := do
  let maxConnections ← (o.getInt "max-connections" 0).mapError (·.failure)
  if maxConnections < 0 then
    throw (Failure.config ("max-connections must not be negative, got " ++ toString maxConnections))
  let connectTimeout ← (o.getDuration "connect-timeout" (30 * 1000000000)).mapError (·.failure)
  let expectTimeout ← (o.getDuration "expect-timeout" 1000000000).mapError (·.failure)
  let timeout ← (o.getDuration "timeout" 0).mapError (·.failure)
  let proxy ← readProxy (o.getString "proxy" "")
  return { maxConnections, connectTimeout, expectTimeout, timeout, proxy }
where
  /-- A proxy address must read and name a host; an empty text means no proxy. -/
  readProxy (text : String) : Except Failure (Option Net.WebUrl) :=
    if text.isEmpty then .ok none
    else
      match Net.WebUrl.parse text with
      | .ok u => if u.host.isEmpty then .error (Failure.config ("invalid proxy " ++ Text.quote text)) else .ok (some u)
      | .error _ => .error (Failure.config ("invalid proxy " ++ Text.quote text))

end ChannelMux.Http
