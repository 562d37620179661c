import ChannelMux.Settings.Validate
import ChannelMux.Http.Engine
import ChannelMux.Proofs.DescriptorText
import ChannelMux.Proofs.ByteTextReading
import ChannelMux.Proofs.NumberText
import ChannelMux.Proofs.OptionLookup

/-! The channels that settings describe. -/

namespace ChannelMux.Options

theorem get?_merge_of_fresh {o other : Options} {k : String} (fresh : ∀ e ∈ other.entries, e.1 ≠ k) :
    (o.merge other).get? k = o.get? k := by
  have unwritten : other.entries.reverse.find? (·.1 == k) = none :=
    List.find?_eq_none.2 fun e mem => by simpa using fresh e (List.mem_reverse.1 mem)
  rw [get?_merge, get?_ofList, unwritten]
  rfl

theorem toString_int_ne_empty (n : Int) : toString n ≠ "" := by
  intro empty
  have written := Text.toString_int_toList n
  rw [empty] at written
  cases negative : decide (n < 0) <;> simp_all [Nat.toDigits_ne_nil]

theorem getInt_toString {o : Options} {k : String} {dflt n : Int} (h : o.get? k = some (toString n))
    (nonneg : 0 ≤ n) (fits : n < 2 ^ 63) : o.getInt k dflt = .ok n := by
  unfold getInt
  rw [given?_of_get? h (toString_int_ne_empty n)]
  dsimp only
  rw [Text.readInt64_toString nonneg fits]

theorem getDuration_millis {o : Options} {k : String} {dflt ms : Int}
    (h : o.get? k = some (toString ms ++ "ms")) (bound : ms.natAbs ≤ 9223372036854) :
    o.getDuration k dflt = .ok (ms * 1000000) := by
  have filled : toString ms ++ "ms" ≠ "" := by simp
  unfold getDuration
  rw [given?_of_get? h filled]
  dsimp only
  rw [Text.readReal_millis, Text.readDuration_millis ms bound]

theorem getDuration_absent {o : Options} {k : String} {dflt : Int} (h : o.get? k = none) :
    o.getDuration k dflt = .ok dflt := by
  simp [getDuration, given?, h]

end ChannelMux.Options

namespace ChannelMux.Http

theorem Engine.ofOptions_eq_map {o : Options} {n connect expect timeout : Int}
    (connections : o.getInt "max-connections" 0 = .ok n) (nonneg : 0 ≤ n)
    (connectRead : o.getDuration "connect-timeout" (30 * 1000000000) = .ok connect)
    (expectRead : o.getDuration "expect-timeout" 1000000000 = .ok expect)
    (timeoutRead : o.getDuration "timeout" 0 = .ok timeout) :
    Engine.ofOptions o = (Engine.ofOptions.readProxy (o.getString "proxy" "")).map fun proxy =>
      { maxConnections := n, connectTimeout := connect, expectTimeout := expect, timeout, proxy } := by
  simp only [Engine.ofOptions, connections, connectRead, expectRead, timeoutRead]
  simp [Except.mapError, bind, Except.bind, pure, Except.pure, not_lt.mpr nonneg]
  cases Engine.ofOptions.readProxy (o.getString "proxy" "") <;> rfl

theorem readProxy_ok_iff (t : String) :
    (∃ p, Engine.ofOptions.readProxy t = .ok p) ↔
      t = "" ∨ ∃ u, Net.WebUrl.parse t = .ok u ∧ u.host.isEmpty = false := by
  unfold Engine.ofOptions.readProxy
  by_cases empty : t = ""
  · simp [empty]
  · cases parsed : Net.WebUrl.parse t with
    | error e => simp [empty]
    | ok u => cases noHost : u.host.isEmpty <;> simp [empty, noHost]

end ChannelMux.Http

namespace ChannelMux.Settings

open Text (ByteText)

/-! ### What the checks leave -/

theorem not_of_ite_eq_nil {p : Prop} [Decidable p] {x : Problem} {rest : List Problem}
    (h : (if p then [x] else rest) = []) : ¬ p ∧ rest = [] := by
  by_cases hp : p
  · simp [hp] at h
  · simpa [hp] using h

theorem of_ite_nil_eq_nil {p : Prop} [Decidable p] {x : Problem} (h : (if p then [] else [x]) = []) : p := by
  by_cases hp : p
  · exact hp
  · simp [hp] at h

/-- What a route without problems guarantees of the text of its address: a path without `;` and
one of the three kinds. -/
structure Route.Checked (r : Route) : Prop where
  path_clean : r.path.contains ';' = false
  kind : ∃ w ∈ ["http", "ws", "sse"], r.kind = .ofString w

/-- What settings without problems guarantee of the texts their channel addresses are written
from. -/
structure Config.Checked (c : Config) : Prop where
  listen_clean : c.server.listen.contains ';' = false
  connections : 0 ≤ c.client.maxConnections
  proxy_clean : c.client.proxy.contains ';' = false
  dump : ∃ w ∈ ["no", "yes", "frame", "text"], c.log.dump = .ofString w
  routes : ∀ r ∈ c.routes, r.Checked

theorem Route.checked_of_problems {i : Nat} {seen : List ByteText} {r : Route}
    (h : r.problems i seen = []) : r.Checked := by
  unfold Route.problems at h
  simp only [List.append_eq_nil_iff] at h
  obtain ⟨⟨path, kind⟩, -⟩ := h
  constructor
  · -- a path is looked at for `;` only once it is a valid pattern
    split at path
    · cases path
    · by_cases clean : r.path.contains ';' = true
      · simp [clean] at path
      · simpa using clean
  · obtain ⟨w, mem, same⟩ := List.any_eq_true.mp (of_ite_nil_eq_nil kind)
    exact ⟨w, mem, (beq_iff_eq.mp same).symm⟩

theorem checked_of_routeProblems {i : Nat} {seen : List ByteText} {rs : List Route}
    (h : routeProblems i seen rs = []) : ∀ r ∈ rs, r.Checked := by
  induction rs generalizing i seen with
  | nil => simp
  | cons r rest ih =>
    rw [routeProblems, List.append_eq_nil_iff] at h
    intro r' mem
    rcases List.mem_cons.mp mem with rfl | later
    · exact Route.checked_of_problems h.1
    · exact ih h.2 r' later

theorem Config.checked_of_problems {c : Config} (h : c.problems = []) : c.Checked := by
  unfold Config.problems at h
  simp only [List.append_eq_nil_iff] at h
  obtain ⟨⟨⟨⟨⟨⟨listen, connections⟩, -⟩, proxy⟩, -⟩, dump⟩, routes⟩ := h
  obtain ⟨-, listen⟩ := not_of_ite_eq_nil listen
  obtain ⟨clean, -⟩ := not_of_ite_eq_nil listen
  simp only [Bool.or_eq_true, not_or] at clean
  obtain ⟨w, mem, same⟩ := List.any_eq_true.mp (of_ite_nil_eq_nil dump)
  exact ⟨by simpa using clean.1, by simpa using (not_of_ite_eq_nil connections).1,
    by simpa using (not_of_ite_eq_nil proxy).1, ⟨w, mem, (beq_iff_eq.mp same).symm⟩,
    checked_of_routeProblems routes⟩

theorem dump_word {w : String} (mem : w ∈ ["no", "yes", "frame", "text"]) :
    (∀ x ∈ w.toList.head?, x.toNat < 128) ∧ ';' ∉ w.toList ∧ w ≠ "" ∧
      DumpMode.names.find? (Text.equalFold · w) = some w ∧ ((DumpMode.ofName? w).getD .no).name = w := by
  simp only [List.mem_cons, List.not_mem_nil, or_false] at mem
  rcases mem with rfl | rfl | rfl | rfl <;> exact ⟨by simp, by simp, by simp, by decide, by decide⟩

theorem kind_word {w : String} (mem : w ∈ ["http", "ws", "sse"]) :
    Descriptor.schemeParts ("ws+" ++ w) = ("ws", w) ∧
      splitFirst "://".toList (("ws+" ++ w).toList ++ "://".toList) = some (("ws+" ++ w).toList, []) := by
  simp only [List.mem_cons, List.not_mem_nil, or_false] at mem
  rcases mem with rfl | rfl | rfl <;> exact ⟨by decide, by decide⟩

/-! ### The addresses as text -/

/-- The options the listening channel's address writes, in order, for the dump mode `w`. -/
def serverSegments (c : Config) (w : String) : List (String × String) :=
  [("mode", "server"), ("name", "server"), ("dump", w)] ++
    (if c.server.metrics then [("metrics", "yes")] else []) ++
    (if c.server.compress then [("compress", "yes")] else [])

/-- The options the HTTP client group's address writes, in order. -/
def groupSegments (c : Config) : List (String × String) :=
  [("name", "client"), ("max-connections", toString c.client.maxConnections),
    ("connect-timeout", toString (milliseconds c.client.connectTimeout) ++ "ms"),
    ("timeout", toString (milliseconds c.client.timeout) ++ "ms")] ++
    (if c.client.proxy.isEmpty then [] else [("proxy", c.client.proxy.text)])

theorem serverUrl_text {c : Config} {w : String} (dump : c.log.dump = .ofString w)
    (lead : ∀ x ∈ w.toList.head?, x.toNat < 128) :
    c.serverUrl.text = "ws" ++ "://" ++ c.server.listen.text ++
      String.join ((serverSegments c w).map fun (k, v) => ";" ++ k ++ "=" ++ v) := by
  have tail : ∀ x ∈ ((if c.server.metrics then ";metrics=yes" else "") ++
      (if c.server.compress then ";compress=yes" else "")).toList.head?, x.toNat < 128 := by
    cases c.server.metrics <;> cases c.server.compress <;> simp
  unfold Config.serverUrl serverSegments
  -- every text written after the listening address starts with an ASCII character
  rw [dump, ByteText.text_append_ofString _ _ tail, ByteText.text_append_ofString _ _ lead,
    ByteText.text_append_ofString _ _ (by simp), ByteText.text_ofString_append]
  cases c.server.metrics <;> cases c.server.compress <;> simp [← String.append_assoc]

theorem groupUrl_text (c : Config) :
    c.groupUrl.text = "httpc" ++ "://" ++ "" ++
      String.join ((groupSegments c).map fun (k, v) => ";" ++ k ++ "=" ++ v) := by
  unfold Config.groupUrl groupSegments
  cases c.client.proxy.isEmpty
  · simp only [Bool.false_eq_true, if_false, ByteText.text_ofString_append]
    rw [← String.toList_inj]
    simp
  · rw [if_pos rfl, show ∀ t : ByteText, t ++ default = t from fun t => ByteText.ext (List.append_nil _),
      ByteText.text_ofString, ← String.toList_inj]
    simp

theorem Route.url_text {r : Route} {w : String} (kind : r.kind = .ofString w) :
    r.url.text = "ws+" ++ w ++ "://" ++ r.path.text ++
      String.join (([] : List (String × String)).map fun (k, v) => ";" ++ k ++ "=" ++ v) := by
  unfold Route.url
  rw [kind, ← ByteText.ofString_append, ← ByteText.ofString_append, ByteText.text_ofString_append]
  simp

theorem serverSegments_get? (c : Config) (w : String) :
    (Options.ofList (serverSegments c w)).get? "mode" = some "server" ∧
      (Options.ofList (serverSegments c w)).get? "name" = some "server" ∧
      (Options.ofList (serverSegments c w)).get? "dump" = some w := by
  unfold serverSegments
  cases c.server.metrics <;> cases c.server.compress <;> simp [Options.ofList, Options.get?_insert]

theorem groupSegments_get? (c : Config) :
    let o := Options.ofList (groupSegments c)
    o.get? "name" = some "client" ∧
      o.get? "max-connections" = some (toString c.client.maxConnections) ∧
      o.get? "connect-timeout" = some (toString (milliseconds c.client.connectTimeout) ++ "ms") ∧
      o.get? "expect-timeout" = none ∧
      o.get? "timeout" = some (toString (milliseconds c.client.timeout) ++ "ms") ∧
      o.get? "dump" = none ∧
      o.get? "proxy" = if c.client.proxy.isEmpty then none else some c.client.proxy.text := by
  unfold groupSegments
  cases c.client.proxy.isEmpty <;> simp [Options.ofList, Options.get?_insert, Options.get?_empty]

theorem semicolon_not_mem_toString (n : Int) : ';' ∉ (toString n).toList := by
  rw [Text.toString_int_toList]
  intro mem
  rcases List.mem_append.mp mem with sign | digit
  · split at sign <;> simp at sign
  · obtain ⟨d, small, same⟩ := Text.mem_toDigits digit
    have isDigit := (Text.digitChar_facts d small).1
    rw [← same] at isDigit
    exact absurd isDigit (by decide)

theorem milliseconds_natAbs_le {d : Int} (h : d.natAbs ≤ 2 ^ 63) :
    (milliseconds d).natAbs ≤ 9223372036854 := by
  unfold milliseconds
  rw [Int.natAbs_tdiv]
  change d.natAbs / 1000000 ≤ 9223372036854
  omega

theorem require_ne (k : String) {name : String} (other : name.toList.head? ≠ some 'r') :
    "require." ++ k ≠ name := by
  intro same
  have lead := congrArg (fun s => s.toList.head?) same
  simp at lead
  exact other lead.symm

private theorem exists_map_eq_ok {ε α β : Type} {f : α → β} {x : Except ε α} :
    (∃ b, x.map f = .ok b) ↔ ∃ a, x = .ok a := by
  cases x <;> simp [Except.map]

/-! ### Reading the addresses -/

theorem server_descriptor {c : Config} (checked : c.Checked) :
    ∃ d, Descriptor.parse c.serverUrl.text = .ok d ∧ d.transport = "ws" ∧ d.host = c.server.listen.text ∧
      d.name = "server" ∧ d.options.get? "mode" = some "server" ∧ d.dump.name = c.log.dump.text := by
  obtain ⟨w, mem, dump⟩ := checked.dump
  obtain ⟨lead, clean, filled, found, named⟩ := dump_word mem
  obtain ⟨mode, name, dumpValue⟩ := serverSegments_get? c w
  have host_clean : ';' ∉ c.server.listen.text.toList :=
    ByteText.not_mem_text (by decide) (by decide) checked.listen_clean
  have separable : ∀ e ∈ serverSegments c w, NameSpelled e.1 ∧ ';' ∉ e.2.toList := by
    unfold serverSegments
    cases c.server.metrics <;> cases c.server.compress <;> simp [NameSpelled, clean]
  have choice : (Options.ofList (serverSegments c w)).getChoice "dump" DumpMode.names = .ok w := by
    unfold Options.getChoice
    rw [Options.given?_of_get? dumpValue filled]
    dsimp only
    rw [found]
  have scheme : Descriptor.schemeParts "ws" = ("ws", "") := by decide
  rw [serverUrl_text dump lead, parse_written (by simp) (by decide) host_clean separable,
    finish_eq_ok (by simp [scheme]) choice]
  refine ⟨_, rfl, by simp [scheme], rfl, by simp [Options.getString, name], mode, ?_⟩
  show ((DumpMode.ofName? w).getD .no).name = c.log.dump.text
  rw [named, dump, ByteText.text_ofString]

theorem group_descriptor {c : Config} (checked : c.Checked) (connections : c.client.maxConnections < 2 ^ 63)
    (connectFits : c.client.connectTimeout.natAbs ≤ 2 ^ 63) (timeoutFits : c.client.timeout.natAbs ≤ 2 ^ 63) :
    ∃ d, Descriptor.parse c.groupUrl.text = .ok d ∧ d.transport = "httpc" ∧ d.name = "client" ∧
      ((∃ e, Http.Engine.ofOptions d.options = .ok e) ↔
        c.client.proxy.isEmpty = true ∨
          ∃ u, Net.WebUrl.parse c.client.proxy.text = .ok u ∧ u.host.isEmpty = false) ∧
      ∀ e, Http.Engine.ofOptions d.options = .ok e →
        e.maxConnections = c.client.maxConnections ∧
          e.connectTimeout = milliseconds c.client.connectTimeout * 1000000 ∧
          e.expectTimeout = 1000000000 ∧ e.timeout = milliseconds c.client.timeout * 1000000 := by
  obtain ⟨name, connectionsValue, connectValue, expectValue, timeoutValue, dumpValue, proxyValue⟩ :=
    groupSegments_get? c
  have proxyClean : ';' ∉ c.client.proxy.text.toList :=
    ByteText.not_mem_text (by decide) (by decide) checked.proxy_clean
  have separable : ∀ e ∈ groupSegments c, NameSpelled e.1 ∧ ';' ∉ e.2.toList := by
    unfold groupSegments
    cases c.client.proxy.isEmpty <;> simp [NameSpelled, proxyClean] <;>
      exact ⟨semicolon_not_mem_toString _, semicolon_not_mem_toString _, semicolon_not_mem_toString _⟩
  have choice : (Options.ofList (groupSegments c)).getChoice "dump" DumpMode.names = .ok "no" := by
    simp only [Options.getChoice, Options.given?, dumpValue]
    rfl
  have scheme : Descriptor.schemeParts "httpc" = ("httpc", "") := by decide
  have engine := Http.Engine.ofOptions_eq_map
    (Options.getInt_toString connectionsValue checked.connections connections) checked.connections
    (Options.getDuration_millis connectValue (milliseconds_natAbs_le connectFits))
    (Options.getDuration_absent expectValue)
    (Options.getDuration_millis timeoutValue (milliseconds_natAbs_le timeoutFits))
  rw [groupUrl_text, parse_written (by simp) (by decide) (by simp) separable,
    finish_eq_ok (by simp [scheme]) choice]
  refine ⟨_, rfl, by simp [scheme], by simp [Options.getString, name], ?_, ?_⟩
  · show (∃ e, Http.Engine.ofOptions (Options.ofList (groupSegments c)) = .ok e) ↔ _
    rw [engine, exists_map_eq_ok, Http.readProxy_ok_iff]
    simp only [Options.getString, proxyValue]
    -- a proxy that is present has a text that is not empty
    cases empty : c.client.proxy.isEmpty
    · simp [ByteText.text_ne_empty empty]
    · simp
  · intro e built
    change Http.Engine.ofOptions (Options.ofList (groupSegments c)) = .ok e at built
    rw [engine] at built
    cases read : Http.Engine.ofOptions.readProxy ((Options.ofList (groupSegments c)).getString "proxy" "") with
    | error f => simp [read, Except.map] at built
    | ok q =>
      simp only [read, Except.map, Except.ok.injEq] at built
      subst built
      exact ⟨rfl, rfl, rfl, rfl⟩

theorem route_descriptor {r : Route} (checked : r.Checked) :
    ∃ d, (Descriptor.parse r.url.text >>= fun d =>
        d.override (Options.ofList (r.props.map fun (k, v) => (k.text, v.text)))) = .ok d ∧
      d.scheme = "ws+" ++ r.kind.text ∧ d.transport = "ws" ∧ d.protocol = r.kind.text ∧
      d.host = r.path.text := by
  obtain ⟨w, mem, kind⟩ := checked.kind
  obtain ⟨parts, ends⟩ := kind_word mem
  have host_clean : ';' ∉ r.path.text.toList :=
    ByteText.not_mem_text (by decide) (by decide) checked.path_clean
  have named : r.kind.text = w := by rw [kind, ByteText.text_ofString]
  -- every required header is written under a name that starts with `require.`
  have fresh : ∀ e ∈ (Options.ofList (r.props.map fun (k, v) => (k.text, v.text))).entries,
      e.1 ≠ "host" ∧ e.1 ≠ "dump" := by
    intro e written
    obtain ⟨⟨k, v⟩, prop, rfl⟩ := List.mem_map.mp (Options.mem_ofList written)
    obtain ⟨⟨header, value⟩, -, same⟩ := List.mem_map.mp prop
    simp only [Prod.mk.injEq] at same
    dsimp only
    rw [← same.1, ByteText.text_ofString_append]
    exact ⟨require_ne _ (by simp), require_ne _ (by simp)⟩
  rw [Route.url_text kind, parse_written (by simp) ends host_clean (by simp),
    finish_eq_ok (by simp [parts]) (rfl : (Options.ofList []).getChoice "dump" DumpMode.names = .ok "no")]
  generalize Options.ofList (r.props.map fun (k, v) => (k.text, v.text)) = extra at fresh ⊢
  have host := Options.get?_merge_of_fresh (o := Options.ofList []) fun e mem => (fresh e mem).1
  have dump := Options.get?_merge_of_fresh (o := Options.ofList []) fun e mem => (fresh e mem).2
  have choice : ((Options.ofList []).merge extra).getChoice "dump" DumpMode.names = .ok "no" := by
    simp only [Options.getChoice, Options.given?, dump]
    rfl
  simp only [bind, Except.bind, Descriptor.override, named, parts]
  split
  · exact ⟨_, rfl, rfl, rfl, rfl, rfl⟩
  · rw [host, finish_eq_ok (by simp [parts]) choice, parts]
    exact ⟨_, rfl, rfl, rfl, rfl, rfl⟩

/-- Settings without problems describe channels the channel layer reads, with an engine exactly when
the proxy is absent or has a host. -/
theorem valid_settings_describe_channels (c : Config) (valid : c.problems = [])
    (connections : c.client.maxConnections < 2 ^ 63)
    (connectFits : c.client.connectTimeout.natAbs ≤ 2 ^ 63)
    (timeoutFits : c.client.timeout.natAbs ≤ 2 ^ 63) :
    (∃ d, Descriptor.parse c.serverUrl.text = .ok d ∧ d.transport = "ws" ∧
      d.host = c.server.listen.text ∧ d.name = "server" ∧ d.options.get? "mode" = some "server" ∧
      d.dump.name = c.log.dump.text) ∧
    (∃ d, Descriptor.parse c.groupUrl.text = .ok d ∧ d.transport = "httpc" ∧ d.name = "client" ∧
      ((∃ e, Http.Engine.ofOptions d.options = .ok e) ↔
        c.client.proxy.isEmpty = true ∨
          ∃ u, Net.WebUrl.parse c.client.proxy.text = .ok u ∧ u.host.isEmpty = false) ∧
      ∀ e, Http.Engine.ofOptions d.options = .ok e →
        e.maxConnections = c.client.maxConnections ∧
          e.connectTimeout = milliseconds c.client.connectTimeout * 1000000 ∧
          e.expectTimeout = 1000000000 ∧ e.timeout = milliseconds c.client.timeout * 1000000) ∧
    ∀ r ∈ c.routes, ∃ d, (Descriptor.parse r.url.text >>= fun d =>
        d.override (Options.ofList (r.props.map fun (k, v) => (k.text, v.text)))) = .ok d ∧
      d.scheme = "ws+" ++ r.kind.text ∧ d.transport = "ws" ∧ d.protocol = r.kind.text ∧
      d.host = r.path.text := by
  have checked := Config.checked_of_problems valid
  exact ⟨server_descriptor checked, group_descriptor checked connections connectFits timeoutFits,
    fun r mem => route_descriptor (checked.routes r mem)⟩

/-- Settings with the proxy `foo` pass every check, yet build no engine. -/
theorem hostless_proxy_passes_checks_but_builds_no_engine :
    let c : Config := { defaults with
      client := { defaults.client with proxy := .ofString "foo" },
      routes := [{ path := .ofString "/echo", kind := .ofString "ws" }] }
    c.problems = [] ∧ c.client.maxConnections < 2 ^ 63 ∧ c.client.connectTimeout.natAbs ≤ 2 ^ 63 ∧
      c.client.timeout.natAbs ≤ 2 ^ 63 ∧
      (∃ d, Descriptor.parse c.groupUrl.text = .ok d ∧ ∀ e, Http.Engine.ofOptions d.options ≠ .ok e) ∧
      ∀ r ∈ c.routes, ∃ d, (Descriptor.parse r.url.text >>= fun d =>
        d.override (Options.ofList (r.props.map fun (k, v) => (k.text, v.text)))) = .ok d ∧
      d.scheme = "ws+" ++ r.kind.text ∧ d.transport = "ws" ∧ d.protocol = r.kind.text ∧
      d.host = r.path.text := by
  intro c
  have valid : c.problems = [] := List.isEmpty_iff.mp (by decide +kernel)
  obtain ⟨-, ⟨d, parsed, -, -, builds, -⟩, routes⟩ :=
    valid_settings_describe_channels c valid (by decide) (by decide) (by decide)
  have hostless : (Net.WebUrl.parse "foo").toOption.map (·.host.isEmpty) = some true := by decide +kernel
  refine ⟨valid, by decide, by decide, by decide, ⟨d, parsed, fun e built => ?_⟩, routes⟩
  rcases builds.mp ⟨e, built⟩ with empty | ⟨u, read, host⟩
  · exact absurd empty (by decide +kernel)
  · rw [ByteText.text_ofString] at read
    rw [read] at hostless
    simp [Except.toOption, host] at hostless

end ChannelMux.Settings
