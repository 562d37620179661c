/-! Shutting an object down once, under concurrent callers. -/

namespace ChannelMux.Shutdown

variable {ε : Type}

/-- One atomic step of a call. -/
inductive Op (ε : Type) where
  /-- A request to shut down with a status, under the lock. -/
  | start (status : Option ε)
  /-- Closes the started channel and launches the shutdown. -/
  | launch
  /-- A pause, under the lock. -/
  | pause
  /-- A granted pause, held until its caller resumes it. -/
  | held
  /-- A resume, under the lock. -/
  | resume
  /-- An activation's first section under the lock. -/
  | check (waitOnFail : Bool)
  /-- The activation handler runs. -/
  | activating (waitOnFail : Bool)
  /-- An activation's second section under the lock, once its handler returned `outcome`. -/
  | record (outcome : Option ε) (waitOnFail : Bool)
  /-- Waits for the done channel, then reads the status. -/
  | wait
  /-- Counts a new child on the wait group and starts its watcher. -/
  | add

namespace Op

/-- Whether a step belongs to a call that holds a pause it has still to resume. -/
def holds : Op ε → Bool
  | .held | .resume | .activating _ | .record _ _ => true
  | _ => false

def isLaunch : Op ε → Bool
  | .launch => true
  | _ => false

end Op

/-- Where the shutdown is, once launched. -/
inductive Stage (ε : Type) where
  | handle
  | handling
  | store (status : Option ε)
  | children
  | mark
  | close
  | over

/-- How far the shutdown has come: 0 before it is launched. -/
def Stage.rank : Option (Stage ε) → Nat
  | none => 0
  | some .handle => 1
  | some .handling => 2
  | some (.store _) => 3
  | some .children => 4
  | some .mark => 5
  | some .close => 6
  | some .over => 7

/-- A child: whether it came before the shutdown began, whether it is done, the status asked of it,
and whether the wait group counts it. -/
structure Child (ε : Type) where
  early : Bool
  finished : Bool := false
  asked : Option (Option ε) := none
  watched : Bool := true

/-- The helper's record, kept under its lock, with the channels it closes, the wait group's count,
the shutdown's and the watchers' progress, and the history a caller can observe. -/
structure Helper (ε : Type) where
  pauses : Nat := 0
  activated : Bool := false
  scheduled : Bool := false
  started : Bool := false
  done : Bool := false
  status : Option ε := none
  launches : Nat := 0
  stage : Option (Stage ε) := none
  handlerClosed : Bool := false
  doneClosed : Bool := false
  waiting : Nat := 0
  children : List (Child ε) := []
  requests : List (Option ε) := []
  received : Option (Option ε) := none
  returned : Option (Option ε) := none
  panicked : Bool := false

/-- What one step of a call does: the helper after it, the steps that replace it, whether it
refuses a pause, and the status a wait returns. -/
structure Effect (ε : Type) where
  helper : Helper ε
  next : List (Op ε) := []
  refused : Bool := false
  answer : Option (Option ε) := none

/-- Runs one step of a call; `none` while it waits: for its caller to resume a held pause, for the
activation handler, or for the done channel. -/
def Op.exec (h : Helper ε) : Op ε → Option (Effect ε)
  | .start e =>
    let h := { h with requests := h.requests ++ [e] }
    if h.scheduled then some { helper := h }
    else
      -- the first request starts at once when nothing pauses it
      some { helper := { h with status := e, scheduled := true, started := h.pauses == 0 },
             next := if h.pauses == 0 then [.launch] else [] }
  | .launch =>
    if h.launches = 0 then some { helper := { h with launches := 1, stage := some .handle } }
    else some { helper := { h with launches := h.launches + 1, panicked := true } }
  | .pause =>
    if h.started then some { helper := h, refused := true }
    else some { helper := { h with pauses := h.pauses + 1 }, next := [.held] }
  | .held => none
  | .resume =>
    if h.pauses < 1 then some { helper := { h with panicked := true } }
    else
      -- the last resume starts a shutdown that was scheduled and not started
      let now := h.pauses - 1 == 0 && h.scheduled && !h.started
      some { helper := { h with pauses := h.pauses - 1, started := h.started || now },
             next := if now then [.launch] else [] }
  | .check w =>
    if h.activated then some { helper := h }
    else if h.started then some { helper := h, next := if w then [.wait] else [] }
    else some { helper := { h with pauses := h.pauses + 1 }, next := [.activating w] }
  | .activating _ => none
  | .record r w =>
    match r with
    | none => some { helper := { h with activated := true }, next := [.resume] }
    | some e => some { helper := h, next := [.start (some e), .resume] ++ if w then [.wait] else [] }
  | .wait => if h.doneClosed then some { helper := h, answer := some h.status } else none
  | .add =>
    some { helper := { h with waiting := h.waiting + 1,
                              children := h.children ++ [{ early := !h.started }] } }

/-- A caller's thread: the steps of its call still to run, whether its pause was refused, and the
status its wait returned. -/
structure Thread (ε : Type) where
  ops : List (Op ε)
  refused : Bool := false
  answer : Option (Option ε) := none

namespace Thread

/-- Runs the next step of a thread; `none` while it waits or once its call returned. -/
def exec (t : Thread ε) (h : Helper ε) : Option (Helper ε × Thread ε) :=
  match t.ops with
  | [] => none
  | op :: rest =>
    (op.exec h).map fun e =>
      (e.helper, { ops := e.next ++ rest, refused := t.refused || e.refused,
                   answer := e.answer.or t.answer })

/-- The caller resumes the pause this thread holds. -/
def resumed (t : Thread ε) : Thread ε :=
  match t.ops with
  | .held :: rest => { t with ops := .resume :: rest }
  | _ => t

/-- The activation handler of this thread returns `r`. -/
def answered (t : Thread ε) (r : Option ε) : Thread ε :=
  match t.ops with
  | .activating w :: rest => { t with ops := .record r w :: rest }
  | _ => t

end Thread

namespace Helper

/-- The shutdown's next step; `none` before it is launched, while the handler runs, while a child
is still counted on the wait group, and once it is over. -/
def advance (h : Helper ε) : Option (Helper ε) :=
  match h.stage with
  | some .handle => some { h with received := some h.status, stage := some .handling }
  | some (.store v) =>
    some { h with status := v, returned := some v, handlerClosed := true, stage := some .children }
  | some .children => if h.waiting = 0 then some { h with stage := some .mark } else none
  | some .mark => some { h with done := true, stage := some .close }
  | some .close => some { h with doneClosed := true, stage := some .over }
  | _ => none

/-- The shutdown handler returns `v`. -/
def handled (h : Helper ε) (v : Option ε) : Helper ε :=
  match h.stage with
  | some .handling => { h with stage := some (.store v) }
  | _ => h

/-- The next step of child `j`'s watcher. -/
def watch (h : Helper ε) (j : Nat) : Helper ε :=
  match h.children[j]? with
  | some c =>
    if !c.watched then h
    else if c.finished then
      { h with waiting := h.waiting - 1, children := h.children.set j { c with watched := false } }
    else if h.handlerClosed && c.asked.isNone then
      { h with children := h.children.set j { c with asked := some h.status } }
    else h
  | none => h

/-- Child `j` finishes its own shutdown. -/
def finish (h : Helper ε) (j : Nat) : Helper ε :=
  { h with children := h.children.modify j fun c => { c with finished := true } }

end Helper

/-- A call on the helper, made on a thread of its own: a request to shut down, a pause, an
activation, a wait, or adding a child. A pause that is granted is resumed by its caller later. -/
inductive Call (ε : Type) where
  | start (status : Option ε)
  | pause
  | activate (waitOnFail : Bool)
  | wait
  | add

def Call.ops : Call ε → List (Op ε)
  | .start e => [.start e]
  | .pause => [.pause]
  | .activate w => [.check w]
  | .wait => [.wait]
  | .add => [.add]

/-- What happens next. -/
inductive Event (ε : Type) where
  | call (c : Call ε)
  | step (i : Nat)
  | resume (i : Nat)
  | activated (i : Nat) (outcome : Option ε)
  | shutdown
  | handled (status : Option ε)
  | watch (j : Nat)
  | finish (j : Nat)

/-- A helper and its callers' threads, numbered in the order the calls started. -/
structure Machine (ε : Type) where
  helper : Helper ε := {}
  threads : List (Thread ε) := []

namespace Machine

def step (m : Machine ε) : Event ε → Machine ε
  | .call c => { m with threads := m.threads ++ [{ ops := c.ops }] }
  | .step i =>
    match m.threads[i]? with
    | some t =>
      match t.exec m.helper with
      | some (h, t') => { helper := h, threads := m.threads.set i t' }
      | none => m
    | none => m
  | .resume i => { m with threads := m.threads.modify i Thread.resumed }
  | .activated i r => { m with threads := m.threads.modify i (·.answered r) }
  | .shutdown =>
    match m.helper.advance with
    | some h => { m with helper := h }
    | none => m
  | .handled v => { m with helper := m.helper.handled v }
  | .watch j => { m with helper := m.helper.watch j }
  | .finish j => { m with helper := m.helper.finish j }

def run (m : Machine ε) (es : List (Event ε)) : Machine ε := es.foldl step m

@[simp] theorem run_nil (m : Machine ε) : m.run [] = m := rfl

@[simp] theorem run_cons (m : Machine ε) (e : Event ε) (es : List (Event ε)) :
    m.run (e :: es) = (m.step e).run es := rfl

end Machine

end ChannelMux.Shutdown
