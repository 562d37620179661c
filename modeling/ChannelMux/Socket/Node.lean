import ChannelMux.Options
import ChannelMux.Route

/-! Nodes: the channels a listening channel serves requests through, one per path pattern. -/

namespace ChannelMux.Socket

/-- The kinds of node. -/
inductive NodeKind where
  | http
  | events
  | socket
  | publish
  deriving DecidableEq, Repr, Inhabited

/-- The settings of a node. -/
structure NodeSettings where
  binary : Bool := true
  writeTimeout : Int := 10 * 1000000000
  ringSize : Int := 1024
  dataSize : Int := 1024 * 1024
  chunk : Int := 64 * 1024
  deriving DecidableEq, Repr, Inhabited

namespace NodeKind

/-- Whether a node of this kind serves socket connections. -/
def socketLike : NodeKind → Bool
  | .socket | .publish => true
  | .http | .events => false

/-- Reads the settings of a node of this kind. -/
def settings (k : NodeKind) (o : Options) : Except Failure NodeSettings := do
  if k.socketLike then
    let binary ← (o.getBool "binary" true).mapError (·.failure)
    let writeTimeout ← (o.getDuration "write-timeout" (10 * 1000000000)).mapError (·.failure)
    let ringSize ← (o.getInt "ring-size" 1024).mapError (·.failure)
    let dataSize ← (o.getSize "data-size" (1024 * 1024)).mapError (·.failure)
    if ringSize ≤ 0 then
      throw (Failure.config ("ring-size must be positive, got " ++ toString ringSize))
    return { binary, writeTimeout, ringSize, dataSize }
  else
    let chunk ← (o.getSize "chunk-size" (64 * 1024)).mapError (·.failure)
    if chunk ≤ 0 then throw (Failure.config "chunk-size must be positive")
    return { chunk }

end NodeKind

/-- The path pattern of a node: its host with a leading `/`. -/
def nodePattern (host : String) : String :=
  if host.startsWith "/" then host else "/" ++ host

/-- The published-stream limit: a message may take at most half of `data-size`. -/
def publishFault? (s : NodeSettings) (size : Nat) : Option Failure :=
  if (size : Int) > s.dataSize.tdiv 2 then
    some (Failure.config ("message size " ++ toString size ++ " is larger than half of data-size " ++
      toString s.dataSize))
  else none

/-- Connection settings of a socket client: `binary`, `connect-timeout`, `write-timeout`. -/
def clientSettings (o : Options) : Except Failure Unit := do
  let _ ← (o.getBool "binary" true).mapError (·.failure)
  let _ ← (o.getDuration "connect-timeout" (10 * 1000000000)).mapError (·.failure)
  let _ ← (o.getDuration "write-timeout" (10 * 1000000000)).mapError (·.failure)
  return ()

end ChannelMux.Socket
