import ChannelMux.Failure
import ChannelMux.Text.Case
import ChannelMux.Text.Quote
import ChannelMux.Text.Decimal
import ChannelMux.Text.Real
import ChannelMux.Text.Duration

/-! Options: a finite map from option names to text values, kept as a list of entries in increasing
order of names, each name once. -/

namespace ChannelMux

/-- Option names and values, in increasing order of names. -/
structure Options where
  entries : List (String × String)
  deriving DecidableEq, Repr, Inhabited

namespace Options

/-- No options. -/
def empty : Options := ⟨[]⟩

/-- Entries in order, with `(k, v)` put in place of an entry named `k` or where `k` belongs. -/
def insertEntry (k v : String) : List (String × String) → List (String × String)
  | [] => [(k, v)]
  | (k', v') :: rest =>
    if k < k' then (k, v) :: (k', v') :: rest
    else if k = k' then (k, v) :: rest
    else (k', v') :: insertEntry k v rest

/-- The value of an option. -/
def get? (o : Options) (k : String) : Option String :=
  (o.entries.find? (·.1 == k)).map (·.2)

/-- Whether an option is present. -/
def contains (o : Options) (k : String) : Bool := (o.get? k).isSome

/-- Sets an option, replacing its value if present. -/
def insert (o : Options) (k v : String) : Options := ⟨insertEntry k v o.entries⟩

/-- Removes an option. -/
def erase (o : Options) (k : String) : Options := ⟨o.entries.filter (·.1 != k)⟩

theorem get?_empty (k : String) : empty.get? k = none := rfl

theorem find?_insertEntry (k v j : String) (es : List (String × String)) :
    ((insertEntry k v es).find? (·.1 == j)).map (·.2) =
      if j = k then some v else (es.find? (·.1 == j)).map (·.2) := by
  induction es with
  | nil =>
    by_cases h : j = k
    · subst h; simp [insertEntry]
    · simp [insertEntry, h, Ne.symm h]
  | cons e rest ih =>
    obtain ⟨k', v'⟩ := e
    by_cases hlt : k < k'
    · by_cases h : j = k
      · subst h; simp [insertEntry, hlt]
      · simp [insertEntry, hlt, h, Ne.symm h]
    · by_cases heq : k = k'
      · subst heq
        by_cases h : j = k
        · subst h; simp [insertEntry]
        · simp [insertEntry, h, Ne.symm h]
      · rw [insertEntry, if_neg hlt, if_neg heq, List.find?_cons, List.find?_cons]
        by_cases h' : k' = j
        · subst h'
          simp [Ne.symm heq]
        · have hb : (k' == j) = false := by simp [h']
          simp only [hb]
          exact ih

theorem get?_insert (o : Options) (k v j : String) :
    (o.insert k v).get? j = if j = k then some v else o.get? j :=
  find?_insertEntry k v j o.entries

theorem get?_erase (o : Options) (k j : String) :
    (o.erase k).get? j = if j = k then none else o.get? j := by
  obtain ⟨es⟩ := o
  simp only [erase, get?]
  induction es with
  | nil => simp
  | cons e rest ih =>
    obtain ⟨k', v'⟩ := e
    by_cases hk : k' = k
    · subst hk
      rw [List.filter_cons_of_neg (by simp), ih]
      by_cases h : j = k'
      · simp [h]
      · simp [h, Ne.symm h]
    · rw [List.filter_cons_of_pos (by simp [hk]), List.find?_cons, List.find?_cons]
      by_cases h' : k' = j
      · subst h'
        simp [hk]
      · have hb : (k' == j) = false := by simp [h']
        simp only [hb]
        exact ih

/-- Options from pairs written in order, later pairs winning. -/
def ofList (pairs : List (String × String)) : Options :=
  pairs.foldl (fun o p => o.insert p.1 p.2) empty

/-- `o` with every option of `other` written over it. -/
def merge (o other : Options) : Options :=
  other.entries.foldl (fun acc p => acc.insert p.1 p.2) o

/-- Option names in increasing order. -/
def keys (o : Options) : List String := o.entries.map (·.1)

/-- Number of options. -/
def size (o : Options) : Nat := o.entries.length

/-- Whether there are no options. -/
def isEmpty (o : Options) : Bool := o.entries.isEmpty

/-- The options named `pre.rest` with a non-empty `rest`, renamed to `rest`. -/
def sub (o : Options) (pre : String) : Options :=
  let p := pre ++ "."
  ⟨o.entries.filterMap fun (k, v) =>
    if k.startsWith p && p.length < k.length then some (String.ofList (k.toList.drop p.length), v)
    else none⟩

/-- A value that is present and not empty. -/
def given? (o : Options) (k : String) : Option String :=
  match o.get? k with
  | some "" => none
  | v => v

/-- The value of an option, or a default. -/
def getString (o : Options) (k dflt : String) : String := (o.get? k).getD dflt

/-- The kind of value an option was expected to hold. -/
inductive Expected where
  | flag
  | integer
  | duration
  | size
  | choice (choices : List String)
  deriving DecidableEq, Repr

/-- An option whose value does not read as expected. -/
structure OptionError where
  key : String
  value : String
  expected : Expected
  deriving DecidableEq, Repr

/-- The message of an option that does not read. -/
def OptionError.text (e : OptionError) : String :=
  let shown := e.key ++ "=" ++ Text.quote e.value
  match e.expected with
  | .flag => "invalid boolean " ++ shown
  | .integer => "invalid integer " ++ shown
  | .duration => "invalid duration " ++ shown
  | .size => "invalid size " ++ shown
  | .choice cs => "invalid value " ++ shown ++ ", expected one of " ++ "|".intercalate cs

/-- An option that does not read is a configuration failure. -/
def OptionError.failure (e : OptionError) : Failure := Failure.config e.text

/-- A yes/no flag: `yes`, `true`, `1` or `no`, `false`, `0`, in any case. -/
def getBool (o : Options) (k : String) (dflt : Bool) : Except OptionError Bool :=
  match o.given? k with
  | none => .ok dflt
  | some v =>
    match Text.lower v with
    | "yes" | "true" | "1" => .ok true
    | "no" | "false" | "0" => .ok false
    | _ => .error ⟨k, v, .flag⟩

/-- A signed 64-bit decimal integer. -/
def getInt (o : Options) (k : String) (dflt : Int) : Except OptionError Int :=
  match o.given? k with
  | none => .ok dflt
  | some v =>
    match Text.readInt64 v.toList with
    | .ok n => .ok n
    | .error _ => .error ⟨k, v, .integer⟩

/-- Nanoseconds in a plain number of seconds, truncated toward zero. -/
def secondsToNanos (f : Float) : Int := Text.truncInt64 (f * 1e9)

/-- A duration in nanoseconds: a plain number counts seconds, otherwise the text carries units. -/
def getDuration (o : Options) (k : String) (dflt : Int) : Except OptionError Int :=
  match o.given? k with
  | none => .ok dflt
  | some v =>
    match Text.readReal v with
    | some f => .ok (secondsToNanos f)
    | none =>
      match Text.readDuration v with
      | .ok d => .ok d
      | .error _ => .error ⟨k, v, .duration⟩

/-- Wraps an integer into the 64-bit two's complement range. -/
def wrap64 (n : Int) : Int := n.bmod (Nat.pow 2 64)

/-- The multiplier a size unit letter stands for. -/
def sizeUnit : Char → Nat
  | 'k' => Nat.pow 2 10
  | 'm' => Nat.pow 2 20
  | 'g' => Nat.pow 2 30
  | _ => 1

/-- A byte count: a non-negative decimal, one optional `b`, and before it an optional unit `k`, `m`
or `g` (binary multiples), any case, blanks allowed around the number. -/
def getSize (o : Options) (k : String) (dflt : Int) : Except OptionError Int :=
  match o.given? k with
  | none => .ok dflt
  | some v =>
    let cs := Text.trimChars (Text.lower v).toList
    let cs := if cs.getLast? = some 'b' then cs.dropLast else cs
    let (digits, mult) : List Char × Nat :=
      match cs.getLast? with
      | some u => if sizeUnit u ≠ 1 then (Text.trimChars cs.dropLast, sizeUnit u) else (cs, 1)
      | none => (cs, 1)
    match Text.readInt64 digits with
    | .ok n => if n < 0 then .error ⟨k, v, .size⟩ else .ok (wrap64 (n * mult))
    | .error _ => .error ⟨k, v, .size⟩

/-- One of a list of choices, matched up to case; absent gives the first choice. -/
def getChoice (o : Options) (k : String) (choices : List String) : Except OptionError String :=
  match o.given? k with
  | none => .ok (choices.headD "")
  | some v =>
    match choices.find? (Text.equalFold · v) with
    | some c => .ok c
    | none => .error ⟨k, v, .choice choices⟩

end Options

end ChannelMux
