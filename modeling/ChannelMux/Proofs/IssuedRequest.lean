import ChannelMux.Proofs.ActEffects
import ChannelMux.Proofs.ControlBody
import Mathlib.Data.List.Induction

/-! The HTTP request an exchange of a request channel sends. -/

namespace ChannelMux

namespace HeaderMap

variable (h : HeaderMap)

theorem find?_rebind (es : List (String × List String)) (name k : String) (values : List String) :
    (es.map fun e => if e.1 = name then (e.1, values) else e).find? (·.1 == k) =
      (es.find? (·.1 == k)).map fun e => if e.1 = name then (e.1, values) else e := by
  rw [List.find?_map]
  congr 1
  congr 1
  funext e
  simp only [Function.comp_apply]
  split <;> rfl

theorem get_put (name k : String) (values : List String) :
    (h.put name values).get k = if name = k then values else h.get k := by
  unfold put get
  split
  case isTrue bound =>
    rw [List.map_congr_left (g := fun e => if e.1 = name then (e.1, values) else e) ?rebind,
      find?_rebind]
    case rebind =>
      intro e _
      obtain ⟨k', vs⟩ := e
      simp
    cases found : h.entries.find? (·.1 == k) with
    | none =>
      -- a bound name is found, so the name looked up is another one
      have other : name ≠ k := by
        rintro rfl
        obtain ⟨e, he, hk⟩ := List.any_eq_true.mp bound
        exact List.find?_eq_none.mp found e he hk
      simp [other]
    | some e =>
      have hk : e.1 = k := by simpa using List.find?_some found
      by_cases same : name = k
      · simp [hk, same]
      · simp [hk, same, Ne.symm same]
  case isFalse unbound =>
    simp only [Bool.not_eq_true, List.any_eq_false, beq_iff_eq] at unbound
    rw [List.find?_append]
    by_cases same : name = k
    · subst same
      have absent : h.entries.find? (·.1 == name) = none := by
        simpa using fun e he => unbound e he
      simp [absent]
    · cases h.entries.find? (·.1 == k) <;> simp [same]

theorem get_set (name value k : String) :
    (h.set name value).get k = if canonicalName name = k then [value] else h.get k :=
  h.get_put _ k _

theorem get_erase (name k : String) :
    (h.erase name).get k = if canonicalName name = k then [] else h.get k := by
  unfold erase get
  rw [List.find?_filter]
  by_cases same : canonicalName name = k
  · subst same
    rw [if_pos rfl, List.find?_eq_none.mpr]
    · rfl
    · intro e _
      by_cases he : e.1 = canonicalName name <;> simp [he]
  · rw [if_neg same]
    congr 3
    funext e
    by_cases he : e.1 = k
    · simp [he, Ne.symm same]
    · simp [he]

/-- The value the last of the header lines naming `k` gives it; a line names the canonical form
of its name. -/
def lastValue? (lines : List HeaderLine) (k : String) : Option String :=
  (lines.reverse.find? (canonicalName ·.name == k)).map (·.value)

/-- What header lines leave under a name that had the values `base`: the last line naming it
decides, an empty value removing it, and a name no line names keeps its values. -/
def layer (lines : List HeaderLine) (k : String) (base : List String) : List String :=
  match lastValue? lines k with
  | some v => if v = "" then [] else [v]
  | none => base

@[simp] theorem lastValue?_nil (k : String) : lastValue? [] k = none := rfl

theorem lastValue?_append_singleton (lines : List HeaderLine) (l : HeaderLine) (k : String) :
    lastValue? (lines ++ [l]) k =
      if canonicalName l.name = k then some l.value else lastValue? lines k := by
  by_cases named : canonicalName l.name = k <;> simp [lastValue?, named]

theorem lastValue?_append (front back : List HeaderLine) (k : String) :
    lastValue? (front ++ back) k = (lastValue? back k).or (lastValue? front k) := by
  simp only [lastValue?, List.reverse_append, List.find?_append, Option.map_or]

theorem apply_append (front back : List HeaderLine) :
    h.apply (front ++ back) = (h.apply front).apply back := by
  simp only [apply, List.foldl_append]

theorem get_apply (lines : List HeaderLine) (k : String) :
    (h.apply lines).get k = layer lines k (h.get k) := by
  induction lines using List.reverseRecOn with
  | nil => rfl
  | append_singleton lines l ih =>
    have step : h.apply (lines ++ [l]) =
        if l.value.isEmpty then (h.apply lines).erase l.name
        else (h.apply lines).set l.name l.value := by
      rw [apply_append]
      rfl
    rw [step, layer, lastValue?_append_singleton]
    by_cases named : canonicalName l.name = k
    · by_cases empty : l.value = "" <;> simp [named, empty, get_erase, get_set]
    · have kept : (h.apply lines).get k = layer lines k (h.get k) := ih
      split <;> simp [named, get_erase, get_set, kept, layer]

/-- No name is bound twice. -/
def Keyed (h : HeaderMap) : Prop := (h.entries.map (·.1)).Nodup

theorem keyed_put {h : HeaderMap} (keyed : h.Keyed) (name : String) (values : List String) :
    (h.put name values).Keyed := by
  unfold put Keyed at *
  split
  case isTrue =>
    rw [List.map_map]
    convert keyed using 2
    funext ⟨k', vs⟩
    simp only [Function.comp_apply]
    split <;> rfl
  case isFalse unbound =>
    simp only [Bool.not_eq_true, List.any_eq_false, beq_iff_eq] at unbound
    rw [List.map_append, List.nodup_append]
    refine ⟨keyed, by simp, ?_⟩
    intro a ha b hb
    simp only [List.map_cons, List.map_nil, List.mem_singleton] at hb
    obtain ⟨e, he, rfl⟩ := List.mem_map.mp ha
    exact hb ▸ unbound e he

theorem keyed_erase {h : HeaderMap} (keyed : h.Keyed) (name : String) : (h.erase name).Keyed :=
  ((List.filter_sublist).map _).nodup keyed

theorem keyed_apply {h : HeaderMap} (keyed : h.Keyed) (lines : List HeaderLine) :
    (h.apply lines).Keyed := by
  induction lines generalizing h with
  | nil => exact keyed
  | cons l lines ih =>
    apply ih
    by_cases empty : l.value.isEmpty
    · simpa [empty] using keyed_erase keyed l.name
    · simpa [empty, set] using keyed_put keyed (canonicalName l.name) [l.value]

end HeaderMap

namespace Http

open HeaderMap

/-- The headers a request for `r` is sent with on a channel with options `o`, name by name. -/
def sentHeader (o : RequestOptions) (r : Outgoing) (k : String) : List String :=
  if k = "Host" then []
  else layer (o.headers ++ r.headers) k
    (if k = "Expect" ∧ 0 < o.expectTimeout ∧ (expectThreshold < r.size ∨ r.size = -1)
     then ["100-continue"] else [])

/-- The host a request for `r` names: the value of the Host header its layered lines leave, else
the host of its target. -/
def namedHost (o : RequestOptions) (r : Outgoing) (target : Net.WebUrl) : Text.ByteText :=
  match lastValue? (o.headers ++ r.headers) "Host" with
  | some v => if v = "" then target.host else Text.ByteText.ofString v
  | none => target.host

/-- The exchange `x` sends the request `r` asks for on a channel with options `o`. -/
structure Issues (o : RequestOptions) (r : Outgoing) (x : Exchange) : Prop where
  method : x.method = r.method.orElse o.method
  target : ∃ u, Net.WebUrl.parse (o.base ++ r.path) = .ok u ∧ x.target = u.trimEmptyPort
  body : x.hasBody = r.hasBody
  length : x.length = if r.hasBody then r.size else 0
  headers : ∀ k, x.headers.get k = sentHeader o r k
  keyed : x.headers.Keyed
  host : x.host = namedHost o r x.target

theorem get_expectation (expect : Bool) (k : String) :
    (if expect then HeaderMap.set ⟨[]⟩ "Expect" "100-continue" else ⟨[]⟩).get k =
      if expect ∧ k = "Expect" then ["100-continue"] else [] := by
  have canonical : canonicalName "Expect" = "Expect" := by decide
  cases expect
  · rfl
  · by_cases hk : k = "Expect"
    · simp [get_set, canonical, hk]
    · simp [get_set, canonical, Ne.symm hk, hk]
      rfl

theorem layer_host_of_headD {lines : List HeaderLine} (h : (layer lines "Host" []).headD "" = "") :
    layer lines "Host" [] = [] := by
  unfold layer at *
  split
  · split
    · rfl
    · simp_all
  · rfl

theorem namedHost_of_layer (o : RequestOptions) (r : Outgoing) (target : Net.WebUrl) :
    namedHost o r target =
      let v := (layer (o.headers ++ r.headers) "Host" []).headD ""
      if v != "" then Text.ByteText.ofString v else target.host := by
  unfold namedHost layer
  split
  · split <;> simp_all
  · rfl

theorem keyed_empty : (⟨[]⟩ : HeaderMap).Keyed := List.nodup_nil

theorem get_without_host {H : HeaderMap} {lines : List HeaderLine}
    (hostLayer : H.get "Host" = layer lines "Host" []) (k : String) :
    (if (H.get "Host").headD "" != "" then H.erase "Host" else H).get k =
      if k = "Host" then [] else H.get k := by
  have host : canonicalName "Host" = "Host" := by decide
  split
  case isTrue =>
    by_cases hk : k = "Host"
    · simp [get_erase, host, hk]
    · simp [get_erase, host, hk, Ne.symm hk]
  case isFalse kept =>
    simp only [bne_iff_ne, ne_eq, not_not] at kept
    split
    case isTrue isHost =>
      subst isHost
      rw [hostLayer] at kept ⊢
      exact layer_host_of_headD kept
    case isFalse => rfl

theorem prepare_issues {l : RequestLine} {s : Nat} {a : Int} {r : Outgoing} {x : Exchange}
    (sized : -1 ≤ r.size) (h : l.prepare s a r = .ok x) : Issues l.options r x := by
  unfold RequestLine.prepare at h
  cases parsed : Net.WebUrl.parse (l.options.base ++ r.path) <;>
    simp only [parsed, bind, Except.bind, pure, Except.pure, throw, throwThe, MonadExceptOf.throw,
      Except.ok.injEq, reduceCtorEq] at h
  rename_i u
  subst h
  set expect := decide (l.options.expectTimeout > 0) &&
    (decide (r.size > expectThreshold) || decide (r.size < 0)) with hexpect
  set H := ((if expect then HeaderMap.set ⟨[]⟩ "Expect" "100-continue" else ⟨[]⟩).apply
    l.options.headers).apply r.headers with hH
  -- the layered headers before the Host header is taken out
  have layered (k : String) :
      H.get k = layer (l.options.headers ++ r.headers) k
        (if k = "Expect" ∧ 0 < l.options.expectTimeout ∧ (expectThreshold < r.size ∨ r.size = -1)
         then ["100-continue"] else []) := by
    rw [hH, ← apply_append, get_apply, get_expectation]
    congr 2
    have unknown : r.size < 0 ↔ r.size = -1 := by omega
    simp only [hexpect, Bool.and_eq_true, decide_eq_true_eq, Bool.or_eq_true, unknown, gt_iff_lt]
    exact propext and_comm
  have hostLayer : H.get "Host" = layer (l.options.headers ++ r.headers) "Host" [] := by
    simpa using layered "Host"
  have keyed : H.Keyed := by
    refine keyed_apply (keyed_apply ?_ _) _
    split
    · exact keyed_put keyed_empty _ _
    · exact keyed_empty
  refine ⟨rfl, ⟨u, parsed, rfl⟩, rfl, rfl, ?_, ?_, ?_⟩
  · intro k
    rw [get_without_host hostLayer, sentHeader]
    split
    · rfl
    · exact layered k
  · split
    · exact keyed_erase keyed _
    · exact keyed
  · simp only [namedHost_of_layer, hostLayer]

theorem announce_eq_ok {o : RequestOptions} {cn : Connect} {r : Outgoing}
    (h : o.announce cn = .ok r) :
    -1 ≤ cn.size ∧ r = { method := cn.method, path := cn.path, headers := cn.headers, size := cn.size,
                         hasBody := cn.size != 0, fed := cn.size != 0 } := by
  have sized := (RequestOptions.announce_ok h).1
  unfold RequestOptions.announce at h
  cases control : o.control
  · simp [control, throw, throwThe, MonadExceptOf.throw, bind, Except.bind] at h
  · simp only [control, Bool.not_true, Bool.false_eq_true, if_false, show ¬cn.size < -1 by omega,
      pure, Except.pure, bind, Except.bind, Except.ok.injEq] at h
    exact ⟨sized, h.symm⟩

theorem start_issues {l l' : RequestLine} {s : Nat} {a : Int} {r : Outgoing} (sized : -1 ≤ r.size)
    (h : l.start s a r = .ok l') :
    ∃ x, l'.find? a = some x ∧ Issues l.options r x ∧ l'.options = l.options := by
  obtain ⟨idle, x, prepared, rfl⟩ := l.start_ok h
  exact ⟨x, RequestLine.find?_started idle (l.prepare_fields prepared).2.1,
    prepare_issues sized prepared, rfl⟩

end Http

namespace World

variable {w w' : World} {id : ChannelId} {c : Channel}

/-- What a channel holds. -/
def holdingOf (w : World) (x : ChannelId) : Option Holding := (w.get? x).map (·.holding)

/-- The live state of a request channel while it is open. -/
def lineOf (w : World) (id : ChannelId) : Option Http.RequestLine :=
  match w.holdingOf id with
  | some (Holding.request _ line) => line
  | _ => none

theorem lineOf_of_holding {g : Option ChannelId} {line : Option Http.RequestLine}
    (hc : w.get? id = some c) (hl : c.holding = .request g line) : w.lineOf id = line := by
  simp [lineOf, holdingOf, hc, hl]

theorem lineOf_congr (h : w'.holdingOf id = w.holdingOf id) : w'.lineOf id = w.lineOf id := by
  simp only [lineOf, h]

theorem lineOf_schedule (j : Job) : (w.schedule j).lineOf id = w.lineOf id := rfl

theorem lineOf_setHolding (g : Option ChannelId) (line : Option Http.RequestLine) (hc : w.get? id = some c) :
    (w.setHolding id (.request g line)).lineOf id = line := by
  simp [lineOf, holdingOf, get?_setHolding, hc]

theorem exists_get?_of_holdingOf {h : Holding} (hw : w.holdingOf id = some h) :
    ∃ c, w.get? id = some c ∧ c.holding = h := by
  simpa [holdingOf] using hw

theorem holdingOf_modify {f : Channel → Channel} (hf : ∀ c, (f c).holding = c.holding)
    (x : ChannelId) : (w.modify id f).holdingOf x = w.holdingOf x := by
  simp only [holdingOf, get?_modify]
  split
  · cases w.get? x <;> simp [hf]
  · rfl

theorem holdingOf_notify (states : List LifeState) (x : ChannelId) :
    (w.notify id states).holdingOf x = w.holdingOf x := by
  unfold notify
  induction states generalizing w with
  | nil => rfl
  | cons s rest ih => exact ih.trans (holdingOf_modify (by intro; rfl) x)

theorem holdingOf_move (f : Cycle → Cycle × List LifeState) (x : ChannelId) :
    (w.move id f).holdingOf x = w.holdingOf x := by
  unfold move
  split
  · exact (holdingOf_notify _ x).trans (holdingOf_modify (by intro; rfl) x)
  · rfl

theorem holdingOf_setHolding (h : Holding) (hc : w.get? id = some c) :
    (w.setHolding id h).holdingOf id = some h := by
  simp [holdingOf, get?_setHolding, hc]

end World

open Session World

variable {w w' : World} {id : ChannelId} {c : Channel}

theorem perform_bind_eq_ok {α β : Type} {a : Act α} {f : α → Act β} {v : β}
    (h : perform w (a >>= f) = (.ok v, w')) :
    ∃ x w₁, perform w a = (.ok x, w₁) ∧ perform w₁ (f x) = (.ok v, w') := by
  rw [perform_bind] at h
  rcases ha : perform w a with ⟨_ | x, w₁⟩
  · rw [ha] at h
    cases h
  · rw [ha] at h
    exact ⟨x, w₁, rfl, h⟩

theorem startExchange_eq_ok {g : Option ChannelId} {l : Http.RequestLine} {addr : Int}
    {r : Http.Outgoing} (hc : w.get? id = some c) (hl : c.holding = .request g (some l))
    (h : perform w (Act.startExchange id addr r) = (.ok (), w')) :
    ∃ l', l.start w.serials addr r = .ok l' ∧ w'.lineOf id = some l' := by
  unfold Act.startExchange at h
  rw [perform_bind, perform_need hc] at h
  simp only [hl] at h
  rw [perform_bind, perform_get] at h
  cases started : l.start w.serials addr r with
  | error e => simp [started] at h
  | ok l' =>
    simp only [started, perform_modify, Prod.mk.injEq] at h
    refine ⟨l', rfl, ?_⟩
    rw [← h.2, lineOf_schedule, lineOf_setHolding _ _ (w := { w with serials := w.serials + 1 }) hc]

theorem post_data_starts {g : Option ChannelId} {l : Http.RequestLine} {m : Message}
    (hc : w.get? id = some c) (hl : c.holding = .request g (some l)) (kind : m.kind = .data)
    (idle : l.find? m.addr = none) (posted : perform w (Act.post id m) = (.ok (), w')) :
    perform w (Act.startExchange id m.addr (Http.Outgoing.ofData m.payload.size)) = (.ok (), w') := by
  have kept : m.asDisconnect? = none := by simp [Message.asDisconnect?, kind]
  unfold Act.post at posted
  rw [perform_bind, perform_need hc] at posted
  by_cases active : c.cycle.state = .active
  · simp only [active, bne_self_eq_false, Bool.false_eq_true, if_false, kept, Option.isSome_none,
      bind_pure_unit] at posted
    unfold Act.takePost at posted
    rw [perform_bind, perform_need hc] at posted
    cases data : l.options.control
    · simpa [hl, kind, idle, data] using posted
    · simp [hl, kind, idle, data] at posted
  · simp [active] at posted

theorem post_connect_starts {g : Option ChannelId} {l : Http.RequestLine} {m : Message}
    {cn : Connect} (hc : w.get? id = some c) (hl : c.holding = .request g (some l))
    (connect : m.asConnect? = some cn) (posted : perform w (Act.post id m) = (.ok (), w')) :
    ∃ r, l.options.announce cn = .ok r ∧
      perform w (Act.startExchange id m.addr r) = (.ok (), w') := by
  have kind : m.kind = .control ∧ m.msgId = connectId := by
    unfold Message.asConnect? at connect
    split at connect
    · rename_i hk
      simpa using hk
    · cases connect
  have kept : m.asDisconnect? = none := by
    simp [Message.asDisconnect?, kind, connectId, disconnectId]
  unfold Act.post at posted
  rw [perform_bind, perform_need hc] at posted
  by_cases active : c.cycle.state = .active
  · simp only [active, bne_self_eq_false, Bool.false_eq_true, if_false, kept, Option.isSome_none,
      bind_pure_unit] at posted
    unfold Act.takePost at posted
    rw [perform_bind, perform_need hc] at posted
    cases announced : l.options.announce cn with
    | error e => simp [hl, kind, connect, announced] at posted
    | ok r => exact ⟨r, rfl, by simpa [hl, kind, connect, announced] using posted⟩
  · simp [active] at posted

theorem perform_publish (x : ChannelId) (k v : String) :
    perform w (Act.publish x k v) =
      (.ok (), w.modify x fun c => { c with info := c.info.insert k v }) := rfl

theorem perform_move (x : ChannelId) (f : Cycle → Cycle × List LifeState) :
    perform w (Act.move x f) = (.ok (), w.move x f) := rfl

theorem holdingOf_of_publish {x : ChannelId} {k v : String}
    (h : perform w (Act.publish x k v) = (.ok (), w')) : w'.holdingOf id = w.holdingOf id := by
  rw [perform_publish, Prod.mk.injEq] at h
  rw [← h.2]
  exact holdingOf_modify (by intro; rfl) id

theorem selfStart_ok {g : Option ChannelId} {l₀ : Http.RequestLine}
    (hw : w.holdingOf id = some (.request g (some l₀)))
    (h : perform w (if l₀.options.autoclose = true then
      (Act.move id Cycle.activate >>= fun _ => Act.startExchange id 0 {}) else pure ()) = (.ok (), w')) :
    ∃ l', w'.lineOf id = some l' ∧ l'.options = l₀.options ∧
      (l₀.options.autoclose = true → ∃ x, l'.find? 0 = some x ∧ Http.Issues l₀.options {} x) := by
  split at h
  case isTrue self =>
    obtain ⟨_, w₁, moved, started⟩ := perform_bind_eq_ok h
    rw [perform_move, Prod.mk.injEq] at moved
    have held : w₁.holdingOf id = some (.request g (some l₀)) := by
      rw [← moved.2, holdingOf_move, hw]
    obtain ⟨c₁, hc₁, hl₁⟩ := exists_get?_of_holdingOf held
    obtain ⟨l', begun, hl'⟩ := startExchange_eq_ok hc₁ hl₁ started
    obtain ⟨x, found, issues, options⟩ := Http.start_issues (by decide) begun
    exact ⟨l', hl', options, fun _ => ⟨x, found, issues⟩⟩
  case isFalse other =>
    cases h
    refine ⟨l₀, ?_, rfl, fun self => absurd self other⟩
    simp [lineOf, hw]

theorem bindRequest_ok {g : Option ChannelId} {o : Http.RequestOptions} (engine : Http.Engine)
    (p : Bool) (hc : w.get? id = some c)
    (h : perform w (do
      modify fun w => w.setHolding id (.request g (some { options := o, engine, privateEngine := p }))
      Act.publish id "url" o.base
      Act.publish id "method" o.method.name
      Act.publish id "transfer" o.transferName
      if p = true then do
          Act.publish id "max-connections" (toString engine.maxConnections)
          if o.autoclose = true then do
              Act.move id Cycle.activate
              Act.startExchange id 0 {}
            else pure ()
        else
          if o.autoclose = true then do
            Act.move id Cycle.activate
            Act.startExchange id 0 {}
          else pure ()) = (.ok (), w')) :
    ∃ l', w'.lineOf id = some l' ∧
      (l'.options.autoclose = true → ∃ x, l'.find? 0 = some x ∧ Http.Issues l'.options {} x) := by
  rw [perform_bind, perform_modify] at h
  obtain ⟨_, w₁, url, h⟩ := perform_bind_eq_ok h
  obtain ⟨_, w₂, method, h⟩ := perform_bind_eq_ok h
  obtain ⟨_, w₃, transfer, h⟩ := perform_bind_eq_ok h
  have held : w₃.holdingOf id =
      some (.request g (some { options := o, engine, privateEngine := p })) := by
    rw [holdingOf_of_publish transfer, holdingOf_of_publish method, holdingOf_of_publish url,
      holdingOf_setHolding _ hc]
  -- published or not, the engine's limit leaves the table the self-start reads
  have finish : ∀ w₄, w₄.holdingOf id = w₃.holdingOf id →
      perform w₄ (if o.autoclose = true then
        (Act.move id Cycle.activate >>= fun _ => Act.startExchange id 0 {}) else pure ()) =
        (.ok (), w') →
      ∃ l', w'.lineOf id = some l' ∧
        (l'.options.autoclose = true → ∃ x, l'.find? 0 = some x ∧ Http.Issues l'.options {} x) := by
    intro w₄ same run
    obtain ⟨l', hl', options, started⟩ := selfStart_ok (same.trans held) run
    exact ⟨l', hl', fun self => options ▸ started (options ▸ self)⟩
  split at h
  · obtain ⟨_, w₄, published, h⟩ := perform_bind_eq_ok h
    exact finish w₄ (holdingOf_of_publish published) h
  · exact finish w₃ rfl h

theorem bringUp_request_ok {g : Option ChannelId} {line : Option Http.RequestLine} {d : Descriptor}
    (hc : w.get? id = some c) (hl : c.holding = .request g line)
    (h : perform w (Act.bringUp id d) = (.ok (), w')) :
    ∃ l', w'.lineOf id = some l' ∧
      (l'.options.autoclose = true → ∃ x, l'.find? 0 = some x ∧ Http.Issues l'.options {} x) := by
  unfold Act.bringUp at h
  rw [perform_bind, perform_need hc] at h
  simp only [hl] at h
  rw [perform_ofExcept_bind] at h
  cases ho : Http.RequestOptions.ofDescriptor d with
  | error e => simp [ho] at h
  | ok o =>
    simp only [ho] at h
    -- the engine is the channel's own, read from its options, or its group's
    cases g with
    | none =>
      cases he : Http.Engine.ofOptions d.options with
      | error e => simp [he, perform_ofExcept_bind] at h
      | ok engine =>
        simp only [he, perform_bind, perform_pure] at h
        exact bindRequest_ok (g := none) (o := o) engine true hc h
    | some gid =>
      rw [perform_bind] at h
      have reads := world_groupEngine gid w
      rcases hg : perform w (Act.groupEngine gid) with ⟨_ | engine, w₀⟩
      · rw [hg] at h
        cases h
      · rw [hg] at reads h
        subst reads
        exact bindRequest_ok (g := some gid) (o := o) engine false hc h

theorem openWith_eq_ok {extra : Options} (hc : w.get? id = some c)
    (h : perform w (Act.openWith id extra) = (.ok (), w')) :
    ∃ d w₁ w₂, w₁.holdingOf id = w.holdingOf id ∧ perform w₁ (Act.bringUp id d) = (.ok (), w₂) ∧
      w' = w₂.move id Cycle.finishOpen := by
  unfold Act.openWith at h
  rw [perform_bind, perform_need hc] at h
  by_cases closed : c.cycle.state = .closed
  · cases ho : c.initial.override extra with
    | error e => simp [closed, ho] at h
    | ok d =>
      simp only [closed, bne_self_eq_false, Bool.false_eq_true, if_false, ho, perform_bind,
        perform_pure, perform_modify, Act.move, perform_tryCatch] at h
      let w₁ := (w.modify id fun c => { c with config := d, info := Options.empty }).move id
        Cycle.beginOpen
      have held : w₁.holdingOf id = w.holdingOf id := by
        rw [holdingOf_move, holdingOf_modify (by intro; rfl)]
      rcases hb : perform w₁ (Act.bringUp id d) with ⟨_ | _, w₂⟩
      · -- a transport that fails to come up fails the open
        rw [hb] at h
        cases h
      · rw [hb] at h
        exact ⟨d, w₁, w₂, held, hb, (Prod.mk.inj h).2.symm⟩
  · simp [closed] at h

/-- Every exchange a request channel starts sends the request that started it, as `Issues` lays it
out. -/
theorem started_exchanges_send_their_requests :
    (∀ {w w' : World} {id : ChannelId} {c : Channel} {g : Option ChannelId} {l : Http.RequestLine}
        {m : Message}, w.get? id = some c → c.holding = .request g (some l) → m.kind = .data →
      l.find? m.addr = none → perform w (Act.post id m) = (.ok (), w') →
      ∃ l' x, w'.lineOf id = some l' ∧ l'.find? m.addr = some x ∧
        Http.Issues l.options (Http.Outgoing.ofData m.payload.size) x) ∧
    (∀ {w w' : World} {id : ChannelId} {c : Channel} {g : Option ChannelId} {l : Http.RequestLine}
        {m : Message} {cn : Connect}, w.get? id = some c → c.holding = .request g (some l) →
      m.asConnect? = some cn → perform w (Act.post id m) = (.ok (), w') →
      ∃ l' x, w'.lineOf id = some l' ∧ l'.find? m.addr = some x ∧
        Http.Issues l.options
          ({ method := cn.method, path := cn.path, headers := cn.headers, size := cn.size,
             hasBody := cn.size != 0, fed := cn.size != 0 } : Http.Outgoing) x) ∧
    (∀ {w w' : World} {id : ChannelId} {c : Channel} {g : Option ChannelId}
        {line : Option Http.RequestLine} {extra : Options}, w.get? id = some c →
      c.holding = .request g line → perform w (Act.openWith id extra) = (.ok (), w') →
      ∀ l', w'.lineOf id = some l' → l'.options.autoclose = true →
        ∃ x, l'.find? 0 = some x ∧ Http.Issues l'.options {} x) := by
  refine ⟨?data, ?connect, ?selfClosing⟩
  case data =>
    intro w w' id c g l m hc hl kind idle posted
    obtain ⟨l', begun, hl'⟩ := startExchange_eq_ok hc hl (post_data_starts hc hl kind idle posted)
    have sized : -1 ≤ (Http.Outgoing.ofData m.payload.size).size := by
      simp only [Http.Outgoing.ofData]
      omega
    obtain ⟨x, found, issues, -⟩ := Http.start_issues sized begun
    exact ⟨l', x, hl', found, issues⟩
  case connect =>
    intro w w' id c g l m cn hc hl connect posted
    obtain ⟨r, announced, started⟩ := post_connect_starts hc hl connect posted
    obtain ⟨sized, rfl⟩ := Http.announce_eq_ok announced
    obtain ⟨l', begun, hl'⟩ := startExchange_eq_ok hc hl started
    obtain ⟨x, found, issues, -⟩ := Http.start_issues sized begun
    exact ⟨l', x, hl', found, issues⟩
  case selfClosing =>
    intro w w' id c g line extra hc hl opened l' hl' self
    obtain ⟨d, w₁, w₂, held, up, rfl⟩ := openWith_eq_ok hc opened
    have still : w₁.holdingOf id = some (.request g line) := held.trans (by simp [holdingOf, hc, hl])
    obtain ⟨c₁, hc₁, hl₁⟩ := exists_get?_of_holdingOf still
    obtain ⟨l₂, hl₂, started⟩ := bringUp_request_ok hc₁ hl₁ up
    rw [lineOf_congr (holdingOf_move _ _), hl₂] at hl'
    cases hl'
    exact started self

/-- A Connect for a 2000-byte POST that names its host, posted on address 5 of an active channel in
control transfer whose own `Expect` header line is empty. -/
theorem connect_post_sends_announced_request :
    let l : Http.RequestLine :=
      { options := { base := "http://h", method := .get, control := true, autoclose := false,
                     headers := [⟨"Expect", ""⟩], expectTimeout := 1000000000, chunk := 65536 },
        engine := default, privateEngine := true }
    let c : Channel := { name := "r", scheme := "httpc+http", initial := default, config := default,
                         cycle := { state := .active }, logger := default,
                         holding := .request none (some l) }
    let w : World := { channels := #[c] }
    let cn : Connect := { method := .post, path := "/p", headers := [⟨"host", "example.org"⟩],
                          size := 2000 }
    (perform w (Act.post 0 (Message.connect 5 cn))).1 = .ok () ∧
      ∃ l' x, (perform w (Act.post 0 (Message.connect 5 cn))).2.lineOf 0 = some l' ∧
        l'.find? 5 = some x ∧
        Http.Issues l.options
          ({ method := cn.method, path := cn.path, headers := cn.headers, size := cn.size,
             hasBody := cn.size != 0, fed := cn.size != 0 } : Http.Outgoing) x := by
  intro l c w cn
  have posted : (perform w (Act.post 0 (Message.connect 5 cn))).1 = .ok () := by decide +kernel
  exact ⟨posted, started_exchanges_send_their_requests.2.1 rfl rfl rfl (Prod.ext posted rfl)⟩

end ChannelMux
