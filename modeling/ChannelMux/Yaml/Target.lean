import ChannelMux.Yaml.Node
import ChannelMux.Text.Quote
import ChannelMux.Text.Base64
import ChannelMux.Text.Bytes

/-! Decoding composed nodes into typed values. -/

namespace ChannelMux.Yaml

/-- Why decoding stopped: a fault it reports with a message, or a merge that met a key that
cannot be looked up (a sequence or a mapping), which brings the whole program down. -/
inductive DecodeStop where
  | fault (message : String)
  /-- The type of the key, as the runtime names it. -/
  | unhashableKey (typeName : String)
  deriving DecidableEq, Repr, Inhabited

/-- The decoder's state. -/
structure DecodeState where
  anchors : Array Node := #[]
  errors : Array String := #[]
  following : List Nat := []
  merged : Option (List Text.ByteText) := none
  visits : Nat := 0
  aliasVisits : Nat := 0
  deriving Inhabited

/-- Decoding steps; a stop ends decoding. -/
abbrev DecodeM := StateT DecodeState (Except DecodeStop)

/-- Stops decoding with a fault. -/
def fail {α : Type} (message : String) : DecodeM α := throw (.fault message)

/-- Whether the share of visits made inside aliases is too large for the number of visits: above 99
in 100 up to 400000 visits, falling evenly to 1 in 10 at 4000000 and staying there. -/
def tooMuchAliasing (visits aliasVisits : Nat) : Bool :=
  let low := 400000
  let high := 4000000
  aliasVisits > 100 && visits > 1000 &&
    (if visits ≤ low then aliasVisits * 100 > visits * 99
     else if visits ≥ high then aliasVisits * 10 > visits
     else
       -- the allowed share is 0.99 - 0.89 * (visits - low) / (high - low)
       aliasVisits * 100 * (high - low) > visits * (99 * (high - low) - 89 * (visits - low)))

/-- Counts a visit of a node, inside an alias when one is being followed; too much aliasing stops
decoding. -/
def visit : DecodeM Unit := do
  modify fun s => { s with visits := s.visits + 1,
                           aliasVisits := if s.following.isEmpty then s.aliasVisits else s.aliasVisits + 1 }
  let s ← get
  if tooMuchAliasing s.visits s.aliasVisits then fail "yaml: document contains excessive aliasing"

/-- How a type takes nodes. A mapping handler gets the keys set so far by a merge and answers
the value with the keys set after it. -/
structure Target (τ : Type) where
  name : String
  scalar : String → ScalarValue → String → τ → Option τ := fun _ _ _ _ => none
  null : τ → Option τ := fun _ => none
  mapping : Option (Nat → List (Node × Node) → Option (List Text.ByteText) → τ →
    DecodeM (τ × Option (List Text.ByteText))) := none
  sequence : Option (Nat → List Node → τ → DecodeM τ) := none

/-- The tag a node was given (empty for an alias). -/
def Node.tag : Node → String
  | .scalar t _ _ | .sequence t _ _ | .mapping t _ _ => t
  | .alias _ _ _ _ => ""

/-- The kind of a node, as a number, for comparing keys. -/
def Node.kindCode : Node → Nat
  | .scalar _ _ _ => 0
  | .sequence _ _ _ => 1
  | .mapping _ _ _ => 2
  | .alias _ _ _ _ => 3

/-- Whether a key is the merge key `<<`. -/
def Node.isMergeKey : Node → Bool
  | .scalar t s _ => s == "<<" && t == "!!merge"
  | _ => false

/-- The node an alias stands for; other nodes stand for themselves. -/
def target (n : Node) : DecodeM Node := do
  match n with
  | .alias _ slot _ _ => return (← get).anchors.getD slot n
  | _ => return n

/-- Whether a node stands for null. -/
def isNull (n : Node) : DecodeM Bool := do
  return (← target n).tag == "!!null"

/-- A text as a type error shows it: texts longer than ten bytes are cut to their first seven bytes
and marked with dots; the bytes of a character cut in two show as replacement characters. -/
def clipped (s : String) : String :=
  if s.utf8ByteSize ≤ 10 then s
  else
    let rec keep : List Char → Nat → List Char
      | c :: cs, room => if c.utf8Size ≤ room then c :: keep cs (room - c.utf8Size)
        else List.replicate room '�'
      | [], _ => []
    String.ofList (keep s.toList 7) ++ "..."

/-- Records a type error. -/
def note (message : String) : DecodeM Unit :=
  modify fun s => { s with errors := s.errors.push message }

/-- Records that a node cannot be taken into a type. -/
def typeError (n : Node) (typeName : String) : DecodeM Unit :=
  let tag := n.tag
  let shown := if tag == "!!seq" || tag == "!!map" then "" else " `" ++ clipped n.text ++ "`"
  note ("line " ++ toString n.line ++ ": cannot unmarshal " ++ tag ++ shown ++ " into " ++ typeName)

/-- Reports every later key that repeats an earlier one; answers whether there was one. -/
def reportDuplicates (entries : List (Node × Node)) : DecodeM Bool := do
  let keys := entries.map (·.1)
  let mut found := false
  for (i, ki) in keys.zipIdx.map (fun (k, i) => (i, k)) do
    for kj in keys.drop (i + 1) do
      if ki.kindCode == kj.kindCode && ki.text == kj.text then
        found := true
        note ("line " ++ toString kj.line ++ ": mapping key " ++ Text.quote kj.text ++
          " already defined at line " ++ toString ki.line)
  return found

/-- What a scalar stands for under its tag. A string-tagged scalar stands for its text, and a
binary one for the bytes its base64 text encodes. -/
def scalarValue (tag text : String) : DecodeM (String × ScalarValue) :=
  if tag == "!!str" then pure ("!!str", .text text)
  else if tag == "!!binary" then
    match Text.decodeBase64? text with
    | some bytes => pure ("!!binary", .binary ⟨bytes.toList⟩)
    | none => fail "yaml: !!binary value contains invalid base64 data"
  else match resolveTagged tag text with
    | .ok r => pure r
    | .error m => fail ("yaml: " ++ m)

/-- Whether all keys of a mapping are texts (or the merge key), so that it reads as a map from
texts. -/
def textKeyed (entries : List (Node × Node)) (anchors : Array Node) : Bool :=
  entries.all fun (k, _) =>
    let k := match k with
      | .alias _ slot _ _ => anchors.getD slot k
      | _ => k
    match k with
    | .scalar t _ _ => t == "!!str" || t == "!!merge"
    | _ => false

/-- The keys of a mapping as a merge starts from them, each visited as a value of any type. -/
def mergeKeys (entries : List (Node × Node)) : DecodeM (List Text.ByteText) := do
  let mut out := []
  for (k, _) in entries do
    visit
    if let .alias _ _ serial _ := k then
      modify fun s => { s with following := serial :: s.following }
      visit
      modify fun s => { s with following := s.following.erase serial }
    match ← target k with
    | .scalar tag text _ =>
      match ← scalarValue tag text with
      | (_, .text s) => out := out ++ [Text.ByteText.ofString s]
      | (_, .binary d) => out := out ++ [d]
      | _ => pure ()
    | .sequence _ _ _ => throw (.unhashableKey "[]interface {}")
    | .mapping _ entries _ =>
      let keyed := textKeyed entries (← get).anchors
      throw (.unhashableKey (if keyed then "map[string]interface {}" else "map[interface {}]interface {}"))
    | .alias _ _ _ _ => pure ()
  return out

/-- The value of the last merge key of a mapping. -/
def mergeSource? (entries : List (Node × Node)) : Option Node :=
  (entries.filter (·.1.isMergeKey)).getLast?.map (·.2)

/-- Fails a merge of something other than mappings. -/
def wantMap {α : Type} : DecodeM α :=
  fail "yaml: map merge requires map or sequence of maps as the value"

/-- Whether a node is a mapping or an alias of one. -/
def isMapping (n : Node) : DecodeM Bool := do
  match ← target n with
  | .mapping _ _ _ => return true
  | _ => return false

/-- Decodes a node into a value of a target, answering whether the node was taken and the
value after it. -/
def decodeInto {τ : Type} (t : Target τ) : Nat → Node → τ → DecodeM (Bool × τ)
  | 0, _, _ => fail "yaml: document contains excessive aliasing"
  | fuel + 1, n, v => do
    visit
    match n with
    | .alias name _ serial _ =>
      if (← get).following.contains serial then
        let tick := String.singleton (Char.ofNat 39)
        fail ("yaml: anchor " ++ tick ++ name ++ tick ++ " value contains itself")
      modify fun s => { s with following := serial :: s.following }
      let r ← decodeInto t fuel (← target n) v
      modify fun s => { s with following := s.following.erase serial }
      return r
    | .scalar tag text _ =>
      let (found, value) ← scalarValue tag text
      match value with
      | .null =>
        match t.null v with
        | some w => return (true, w)
        | none => return (false, v)
      | _ =>
        match t.scalar found value text v with
        | some w => return (true, w)
        | none => typeError n t.name; return (false, v)
    | .sequence _ items _ =>
      match t.sequence with
      | some take => return (true, ← take fuel items v)
      | none => typeError n t.name; return (false, v)
    | .mapping _ entries _ =>
      if ← reportDuplicates entries then return (false, v)
      match t.mapping with
      | none => typeError n t.name; return (false, v)
      | some take =>
        let outer := (← get).merged
        modify fun s => { s with merged := none }
        let (w, after) ← take fuel entries outer v
        modify fun s => { s with merged := after }
        match mergeSource? entries with
        | none => return (true, w)
        | some source =>
          if outer.isNone then
            let keys ← mergeKeys entries
            modify fun s => { s with merged := some keys }
          let mut w := w
          match source with
          | .mapping _ _ _ => w := (← decodeInto t fuel source w).2
          | .alias _ _ _ _ =>
            if !(← isMapping source) then wantMap
            w := (← decodeInto t fuel source w).2
          | .sequence _ items _ =>
            for item in items do
              if !(← isMapping item) then wantMap
              w := (← decodeInto t fuel item w).2
          | _ => wantMap
          modify fun s => { s with merged := outer }
          return (true, w)

/-- Texts: every scalar stands for its text, a binary one for its bytes. -/
def textTarget : Target Text.ByteText where
  name := "string"
  scalar _ value text _ :=
    match value with
    | .binary d => some d
    | _ => some (Text.ByteText.ofString text)

/-- Decodes a key into a text, answering none when the key is not taken. -/
def keyText (fuel : Nat) (k : Node) : DecodeM (Option Text.ByteText) := do
  let (ok, name) ← decodeInto textTarget fuel k default
  return if ok then some name else none

/-- Skips a key already set by the mapping a merge started from, and notes the others. -/
def notMergedYet (merged : Option (List Text.ByteText)) (key : Text.ByteText) :
    Bool × Option (List Text.ByteText) :=
  match merged with
  | none => (true, none)
  | some keys => if keys.contains key then (false, merged) else (true, some (keys ++ [key]))

/-- A structure type: its fields by key. A key given twice (through different nodes) is reported;
keys naming no field are ignored. -/
def structTarget {σ : Type} (name : String) (fields : List (String × (Nat → Node → σ → DecodeM σ))) :
    Target σ where
  name := name
  mapping := some fun fuel entries merged v => do
    let mut v := v
    let mut merged := merged
    let mut done : List Text.ByteText := []
    for (k, value) in entries do
      if k.isMergeKey then continue
      match ← keyText fuel k with
      | none => pure ()
      | some key =>
        let (fresh, after) := notMergedYet merged key
        merged := after
        if fresh then
          match fields.find? (Text.ByteText.ofString ·.1 == key) with
          | none => pure ()
          | some (_, field) =>
            if done.contains key then
              note ("line " ++ toString k.line ++ ": field " ++ key.text ++ " already set in type " ++ name)
            else
              done := key :: done
              v ← field fuel value v
    return (v, merged)

/-- Maps from texts to texts. Null makes the map absent. A key whose value is null gets the
empty text, unless a map that was already there has the key. -/
def textMapTarget : Target (Option (List (Text.ByteText × Text.ByteText))) where
  name := "map[string]string"
  null _ := some none
  mapping := some fun fuel entries merged v => do
    let fresh := v.isNone
    let mut m := v.getD []
    let mut merged := merged
    for (k, value) in entries do
      if k.isMergeKey then continue
      match ← keyText fuel k with
      | none => pure ()
      | some key =>
        let (isNew, after) := notMergedYet merged key
        merged := after
        if isNew then
          let (ok, text) ← decodeInto textTarget fuel value default
          if ok || ((← isNull value) && (fresh || !m.any (·.1 == key))) then
            m := if m.any (·.1 == key) then m.map fun p => if p.1 == key then (key, text) else p
              else m ++ [(key, text)]
    return (some m, merged)

/-- Lists of one target. Null makes the list empty; items that are not taken are left out. -/
def listTarget {τ : Type} [Inhabited τ] (name : String) (item : Target τ) (fresh : τ) :
    Target (List τ) where
  name := name
  null _ := some []
  sequence := some fun fuel items _ => do
    let mut out := []
    for n in items do
      let (ok, x) ← decodeInto item fuel n fresh
      if ok then out := out ++ [x]
    return out

/-- A field decoder that decodes the value node into one part of a structure. -/
def field {σ τ : Type} (t : Target τ) (get : σ → τ) (put : σ → τ → σ) :
    Nat → Node → σ → DecodeM σ :=
  fun fuel n v => do
    let (_, x) ← decodeInto t fuel n (get v)
    return put v x

/-- Decodes the first document of a YAML text into a value: a fault of the text or a stop of
decoding comes back as it is; type errors give one fault listing them all. -/
def decodeText {τ : Type} (t : Target τ) (text : String) (v : τ) : Except DecodeStop τ :=
  match readDocument text with
  | .error e => .error (.fault e)
  | .ok doc =>
    match doc.root with
    | none => .ok v
    | some root =>
      let fuel := (text.length + 2) * (text.length + 2)
      match (decodeInto t fuel root v).run { anchors := doc.anchors, visits := 1 } with
      | .error e => .error e
      | .ok ((_, w), s) =>
        if s.errors.isEmpty then .ok w
        else .error (.fault ("yaml: unmarshal errors:\n  " ++ "\n  ".intercalate s.errors.toList))

end ChannelMux.Yaml
