import ChannelMux.World.Basic

/-! Creating channels in a world. -/

namespace ChannelMux

/-- The schemes a world can create channels of, in byte order. -/
def knownSchemes : List String :=
  ["direct", "httpc", "httpc+http", "httpc+https", "ws", "ws+http", "ws+pub", "ws+sse", "ws+ws"]

/-- The queue size of a direct end: the `size` option, 1024 by default, and positive. -/
def directQueueSize (o : Options) : Except Failure Nat := do
  let size ← (o.getInt "size" 1024).mapError (·.failure)
  if size ≤ 0 then throw (Failure.config ("size must be positive, got " ++ toString size))
  return size.toNat

/-- The node kind of a node scheme. -/
def nodeKindOf? (scheme : String) : Option Socket.NodeKind :=
  if scheme == "ws+ws" then some .socket
  else if scheme == "ws+pub" then some .publish
  else if scheme == "ws+http" then some .http
  else if scheme == "ws+sse" then some .events
  else none

/-- The master a descriptor names, found with `find` among the registered channels: an explicit
master first, else a non-empty `master` option, which must name a registered channel. -/
def Descriptor.masterIn (find : String → Option ChannelId) (d : Descriptor)
    (master : Option ChannelId) : Except Failure (Option ChannelId) :=
  match master with
  | some m => .ok (some m)
  | none =>
    match d.options.get? "master" with
    | some name =>
      if name.isEmpty then .ok none
      else
        match find name with
        | some m => .ok (some m)
        | none => .error (Failure.make .notFound ("master channel " ++ Text.quote name))
    | none => .ok none

namespace Act

/-- Fails with a kind's error under the channel's name. -/
def named {α : Type} (name : String) (r : Except Failure α) : Act α :=
  ofExcept (r.mapError (·.within name))

/-- What a new channel of the descriptor's scheme holds, after its kind checked the descriptor
and the master. A direct end with a master becomes that end's peer. -/
def holdingFor (d : Descriptor) (master : Option ChannelId) (id : ChannelId) : Act Holding := do
  let name := d.name
  let refuse {α : Type} (text : String) : Act α := throw ((Failure.config text).within name)
  if d.scheme == "direct" then
    let _ ← named name (directQueueSize d.options)
    match master with
    | none => return .direct {}
    | some m =>
      let mc ← need m
      match mc.holding with
      | .direct e =>
        if e.peer.isSome then refuse ("direct channel " ++ mc.name ++ " already has a peer")
        modify fun w => w.setHolding m (.direct { e with peer := some id })
        return .direct { peer := some m }
      | _ => refuse "master must be a direct:// channel"
  else if d.scheme == "httpc" then
    if master.isSome then refuse (d.scheme ++ " can not have a master")
    let _ ← named name (Http.Engine.ofOptions d.options)
    return .group none
  else if d.scheme == "httpc+http" || d.scheme == "httpc+https" then
    let group ← match master with
      | none => pure none
      | some m =>
        match (← need m).holding with
        | .group _ => pure (some m)
        | _ => refuse ("master of " ++ d.scheme ++ " must be an httpc:// group")
    let _ ← named name (Http.RequestOptions.ofDescriptor d)
    return .request group none
  else if d.scheme == "ws" then
    let mode ← named name ((d.options.getChoice "mode" ["auto", "server", "client"]).mapError (·.failure))
    if mode == "server" || (mode == "auto" && d.host.startsWith "*:") then
      if master.isSome then refuse "listening channel can not have a master"
      let _ ← ofExcept (Socket.listenAddress d.host)
      return .listener {} none
    else
      let _ ← named name ((d.options.getBool "binary" true).mapError (·.failure))
      return .client
  else
    match nodeKindOf? d.scheme with
    | some kind =>
      let settings ← named name (kind.settings d.options)
      let server ← match master with
        | some m =>
          match (← need m).holding with
          | .listener _ _ => pure m
          | _ => refuse (d.scheme ++ " requires a listening ws:// master")
        | none => refuse (d.scheme ++ " requires a listening ws:// master")
      let pattern := Socket.nodePattern d.host
      let _ ← named name ((validatePattern (.ofString pattern)).mapError (·.failure))
      return .node kind server pattern settings
    | none => throw (Failure.config ("unknown scheme " ++ Text.quote d.scheme))

/-- The master a descriptor names with its `master` option, when no master is given. -/
def resolveMaster (d : Descriptor) (master : Option ChannelId) : Act (Option ChannelId) := do
  ofExcept (d.masterIn (← get).lookup master)

/-- Creates a channel from a descriptor, as described above. Answers its number. -/
def create (d : Descriptor) (master : Option ChannelId) : Act ChannelId := do
  let master ← resolveMaster d master
  if !knownSchemes.contains d.scheme then
    throw (Failure.config ("unknown scheme " ++ Text.quote d.scheme))
  let d ← if d.name.isEmpty then do
      let n := (← get).unnamed + 1
      modify fun w => { w with unnamed := n }
      let name := d.scheme ++ toString n
      pure { d with name, options := d.options.insert "name" name }
    else pure d
  if ((← get).lookup d.name).isSome then
    throw (Failure.config ("channel name " ++ Text.quote d.name ++ " already in use"))
  let id := (← get).channels.size
  let holding ← holdingFor d master id
  let w ← get
  let parent := match master.bind w.get? with
    | some m => m.logger
    | none => w.root
  let c : Channel := { name := d.name, scheme := d.scheme, initial := d, config := d, master,
                       logger := parent.fork (d.scheme ++ " " ++ d.name), holding }
  modify fun w => { w with channels := w.channels.push c, names := w.names ++ [(d.name, id)] }
  if let some m := master then
    modify fun w => w.modify m fun mc => { mc with children := mc.children ++ [id] }
  return id

/-- Creates a channel from a descriptor text and options written over it. -/
def createFrom (text : String) (extra : Options) (master : Option ChannelId) : Act ChannelId := do
  let d ← ofExcept ((Descriptor.parse text).mapError (·.failure))
  let d ← ofExcept ((d.override extra).mapError (·.failure))
  create d master

end Act

end ChannelMux
