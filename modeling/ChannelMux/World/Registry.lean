import ChannelMux.World.Create

/-! The name registry of a context, under concurrent creators. -/

namespace ChannelMux

/-- What a registered name holds: a reservation while a kind builds the channel, or the channel. -/
inductive Slot where
  | reserved
  | held (id : ChannelId)
  deriving DecidableEq, Repr

/-- How far a creation has gone. -/
inductive Creation where
  /-- Started with its descriptor and, when given, its master. -/
  | start (d : Descriptor) (master : Option ChannelId)
  /-- Its master found and handed to its kind, waiting for the lock. -/
  | resolved (d : Descriptor)
  /-- Its name reserved, while its kind builds the channel. -/
  | building (name : String)
  /-- Finished with its channel or its failure. -/
  | done (result : Except Failure ChannelId)

/-- A context's registry. -/
structure Registry where
  slots : List (String × Slot) := []
  unnamed : Nat := 0
  built : List String := []
  creations : List Creation := []

/-- What happens next. -/
inductive Registry.Event where
  | create (d : Descriptor) (master : Option ChannelId)
  | resolve (t : Nat)
  | reserve (t : Nat)
  | build (t : Nat) (failure : Option Failure)
  | release (id : ChannelId)

namespace Registry

/-- What a name holds. -/
def slotOf (r : Registry) (name : String) : Option Slot := r.slots.lookup name

/-- The channel registered under a name. -/
def get (r : Registry) (name : String) : Option ChannelId :=
  match r.slotOf name with
  | some (.held id) => some id
  | _ => none

/-- Puts a slot under a name: in place of what the name holds, or last when it holds nothing. -/
def put : List (String × Slot) → String → Slot → List (String × Slot)
  | [], name, s => [(name, s)]
  | p :: rest, name, s => if p.1 == name then (name, s) :: rest else p :: put rest name s

/-- Removes a name with what it holds. -/
def erase (slots : List (String × Slot)) (name : String) : List (String × Slot) :=
  slots.filter (·.1 != name)

/-- The first section of a creation under the lock. -/
def reserveName (r : Registry) (d : Descriptor) : Registry × Except Failure String :=
  if !knownSchemes.contains d.scheme then
    (r, .error (Failure.config ("unknown scheme " ++ Text.quote d.scheme)))
  else
    let r := if d.name.isEmpty then { r with unnamed := r.unnamed + 1 } else r
    let name := if d.name.isEmpty then d.scheme ++ toString r.unnamed else d.name
    if (r.slotOf name).isSome then
      (r, .error (Failure.config ("channel name " ++ Text.quote name ++ " already in use")))
    else ({ r with slots := r.slots ++ [(name, .reserved)] }, .ok name)

/-- The second section: the channel built takes the place of the name's reservation, numbered
after the channels built before it; a kind's failure removes the name instead. -/
def finish (r : Registry) (name : String) : Option Failure → Registry × Except Failure ChannelId
  | none =>
    ({ r with slots := put r.slots name (.held r.built.length), built := r.built ++ [name] },
      .ok r.built.length)
  | some e => ({ r with slots := erase r.slots name }, .error e)

/-- Releasing a channel removes its name while the name still holds that channel. -/
def forget (r : Registry) (id : ChannelId) : Registry :=
  match r.built[id]? with
  | some name => if r.get name = some id then { r with slots := erase r.slots name } else r
  | none => r

/-- One event. A creation that is not at the step an event names does not move. -/
def step (r : Registry) : Event → Registry
  | .create d master => { r with creations := r.creations ++ [.start d master] }
  | .resolve t =>
    match r.creations[t]? with
    | some (.start d master) =>
      let next := match d.masterIn r.get master with
        | .ok _ => Creation.resolved d
        | .error e => .done (.error e)
      { r with creations := r.creations.set t next }
    | _ => r
  | .reserve t =>
    match r.creations[t]? with
    | some (.resolved d) =>
      let next := match (r.reserveName d).2 with
        | .ok name => Creation.building name
        | .error e => .done (.error e)
      { (r.reserveName d).1 with creations := r.creations.set t next }
    | _ => r
  | .build t failure =>
    match r.creations[t]? with
    | some (.building name) =>
      { (r.finish name failure).1 with creations := r.creations.set t (.done (r.finish name failure).2) }
    | _ => r
  | .release id => r.forget id

/-- The events in order. -/
def run (r : Registry) (es : List Event) : Registry := es.foldl step r

end Registry

end ChannelMux
