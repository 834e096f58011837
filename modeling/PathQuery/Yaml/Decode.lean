import PathQuery.Yaml.Node

/-!
# Decoding documents

A document is decoded into values of known types. A node that does not fit is put on record and
decoding goes on, so that one run reports all of them; a few faults end it at once. A node may
also say nothing about a value, which then stays as it was: a null does so where the type has no
null of its own.

Mappings may be merged into another under a special key. What the mapping says itself comes first,
then what is merged into it, in order. The keys that were met are remembered through all mappings
that are merged into one, so the first to name a key has its say.

An alias is decoded as the node it stands for would be, but not while it is being decoded already,
and not when nearly all of the work is spent on aliases.
-/

namespace PathQuery.Yaml

/-- Why a text does not decode. -/
inductive Error where
  /-- It is no YAML, or misuses an alias, a tag or a merge. -/
  | malformed
  /-- A key that cannot be looked up stands beside a merge. -/
  | collectionKey
  /-- Some nodes do not fit. -/
  | mismatch (lines : List Text)

/-- The wording of the error. -/
def Error.message : Error → Text
  | .malformed => "yaml: malformed document"
  | .collectionKey => "runtime error: hash of unhashable type"
  | .mismatch lines => Text.join (("yaml: unmarshal errors:" : Text) :: lines.map (("\n  " : Text) ++ ·))

/-- The state of decoding. -/
structure Decoding where
  /-- The nodes with an anchor. -/
  nodes : Array Node
  /-- The nodes that do not fit, so far. -/
  reports : Array Text := #[]
  /-- The aliases that are being decoded. -/
  following : List Nat := []
  /-- How many nodes were decoded. -/
  steps : Nat := 0
  /-- How many of them inside aliases. -/
  aliasSteps : Nat := 0
  /-- The keys that are taken while mappings are merged; none before a merge. -/
  taken : Option (List Value) := none

/-- A step of decoding, which may end it at once. -/
abbrev DecodeM := StateT Decoding (Except Error)

namespace DecodeM

/-! ## Records of faults -/

/-- Ends decoding. -/
def stop {α : Type} : DecodeM α := throw .malformed

/-- Puts a node that does not fit on record. -/
def report (line : Nat) (what : Text) : DecodeM Unit :=
  modify fun d ↦
    { d with reports := d.reports.push ((("line " ++ toString line ++ ": " : String) : Text) ++ what) }

/-- The text of a scalar inside a message, cut to seven bytes when it is longer than ten. -/
def excerpt (value : String) : Text :=
  let t : Text := value
  if t.bytes.length > 10 then ⟨t.bytes.take 7⟩ ++ "..." else t

/-- Puts on record that a node is no value of a type. -/
def refuse (n : Node) (type : String) : DecodeM Unit :=
  let shown : Text :=
    if n.tag = seqTag || n.tag = mapTag then n.label
    else (" `" : Text) ++ excerpt n.label ++ "`"
  report n.line ((("cannot unmarshal " ++ n.tag : String) : Text) ++ shown ++
    ((" into " ++ type : String) : Text))

/-! ## Aliases -/

/-- Whether too much of the work is spent on aliases. They may take 99 parts of a hundred of
400,000 steps, and this share falls to 10 parts at 4,000,000 steps. -/
def isExcessive (aliasSteps steps : Nat) : Bool :=
  let low := 400000
  let high := 4000000
  aliasSteps > 100 && steps > 1000 &&
    if steps ≤ low then 100 * aliasSteps > 99 * steps
    else if high ≤ steps then 10 * aliasSteps > steps
    else 100 * (high - low) * aliasSteps + 89 * (steps - low) * steps > 99 * (high - low) * steps

/-- Counts a node that is decoded. -/
def countStep : DecodeM Unit := do
  let d ← get
  let steps := d.steps + 1
  let aliasSteps := d.aliasSteps + if d.following.isEmpty then 0 else 1
  if isExcessive aliasSteps steps then stop
  set { d with steps, aliasSteps }

/-- The node with a number. -/
def nodeAt (number : Nat) : DecodeM Node := do
  match (← get).nodes[number]? with
  | some n => return n
  | none => stop

/-- Decodes a node with a step for nodes that are no aliases. -/
def through {α : Type} (decode : Node → DecodeM α) (n : Node) : DecodeM α := do
  countStep
  match n with
  | .alias _ _ self target =>
    if (← get).following.contains self then stop
    modify fun d ↦ { d with following := self :: d.following }
    countStep
    let a ← decode (← nodeAt target)
    modify fun d ↦ { d with following := d.following.drop 1 }
    return a
  | n => decode n

/-- The tag of a node or of what it stands for. -/
def tagOf (n : Node) : DecodeM String :=
  match n with
  | .alias _ _ _ target => return (← nodeAt target).tag
  | n => return n.tag

/-! ## Targets -/

/-- How nodes become values of a type. -/
structure Target (σ : Type) where
  /-- The name of the type. -/
  type : String
  /-- The null of the type, if it has one. -/
  null : Option σ := none
  /-- The value of a scalar with its tag, the value it resolves to, and its text. -/
  scalar : String → Value → String → Option σ := fun _ _ _ ↦ none
  /-- What a sequence makes of a value. -/
  items : Option (List Node → DecodeM σ) := none
  /-- What a mapping makes of a value. -/
  pairs : Option (List (Node × Node) → σ → DecodeM σ) := none

/-- The value of a scalar, with its tag. -/
def scalarValue (tag value : String) : DecodeM (String × Value) :=
  match resolve tag value with
  | none => stop
  | some (found, v) =>
    if found = binaryTag then
      match readBinary value with
      | some t => return (found, .ofText t)
      | none => stop
    else return (found, v)

/-- The repeated keys of a mapping, each with the key it repeats. -/
def repeatedKeys : List (Node × Node) → List (Node × Node)
  | [] => []
  | (k, _) :: rest =>
    ((rest.filter fun (l, _) ↦ k.sameKind l && k.label == l.label).map fun (l, _) ↦ (k, l)) ++
      repeatedKeys rest

/-- Puts the repeated keys of a mapping on record, and tells whether there are any. -/
def reportRepeats (pairs : List (Node × Node)) : DecodeM Bool := do
  let repeats := repeatedKeys pairs
  for (k, l) in repeats do
    report l.line ("mapping key " ++ quoted l.label ++ " already defined at line " ++
      toString k.line : String)
  return !repeats.isEmpty

/-- Decodes a node that is no alias. The flag tells whether the node said anything. -/
def Target.content {σ : Type} (t : Target σ) (n : Node) (s : σ) : DecodeM (σ × Bool) := do
  match n with
  | .scalar _ tag value =>
    let (found, v) ← scalarValue tag value
    if v.isNull then return (t.null.getD s, t.null.isSome)
    match t.scalar found v value with
    | some a => return (a, true)
    | none => refuse n t.type; return (s, false)
  | .sequence _ _ items =>
    match t.items with
    | some f => return (← f items, true)
    | none => refuse n t.type; return (s, false)
  | .mapping _ _ pairs =>
    if ← reportRepeats pairs then return (s, false)
    match t.pairs with
    | some f => return (← f pairs s, true)
    | none => refuse n t.type; return (s, false)
  | .alias .. => stop

/-- Decodes a node into a value. The flag tells whether the node said anything. -/
def Target.decode {σ : Type} (t : Target σ) (n : Node) (s : σ) : DecodeM (σ × Bool) :=
  through (t.content · s) n

/-- Decodes a node into a value, which stays as it was when the node says nothing. -/
def Target.into {σ : Type} (t : Target σ) (n : Node) (s : σ) : DecodeM σ :=
  return (← t.decode n s).1

/-- Decodes a node into a fresh value. -/
def Target.fresh? {σ : Type} (t : Target σ) (zero : σ) (n : Node) : DecodeM (Option σ) := do
  let (a, said) ← t.decode n zero
  return if said then some a else none

/-! ## Single values -/

/-- A string. Any scalar but a null is one, as it is written. -/
def string : Target String where
  type := "string"
  scalar tag v text :=
    if tag ≠ binaryTag then some text
    else match v with
      | .str s => some s
      | v => some v.text.scrub

/-- An integer. A floating-point number is cut to one. -/
def integer : Target Int where
  type := "int"
  scalar _ v _ := match v with
    | .int .uint64 k => if k < Nat.pow 2 63 then some k else none
    | .int _ k => some k
    | .double x => if x.atMostInt then some x.truncate else none
    | _ => none

/-- The words for truth values that are understood where one is expected. -/
def truthWord? (s : String) : Option Bool :=
  if s ∈ ["y", "Y", "yes", "Yes", "YES", "on", "On", "ON"] then some true
  else if s ∈ ["n", "N", "no", "No", "NO", "off", "Off", "OFF"] then some false
  else none

/-- A truth value. -/
def truth : Target Bool where
  type := "bool"
  scalar _ v _ := match v with
    | .bool b => some b
    | .str s => truthWord? s
    | _ => none

/-- A list of items that say something. A null is the empty list. -/
def list {α : Type} (item : Target α) (zero : α) : Target (List α) where
  type := "[]" ++ item.type
  null := some []
  items := some fun items ↦ return (← items.mapM (item.fresh? zero)).filterMap id

/-! ## Mappings -/

/-- Whether two values are the same key. -/
def sameKey : Value → Value → Bool
  | .null, .null => true
  | .bool a, .bool b => a == b
  | .int w a, .int u b => w == u && a == b
  | .double a, .double b => a.equals b
  | .str a, .str b => a == b
  | .raw a, .raw b => a == b
  | .moment a, .moment b => a == b && a.zone == .utc
  | _, _ => false

/-- Whether a value cannot be looked up as a key. -/
def isCollection : Value → Bool
  | .list _ | .record _ | .table _ => true
  | _ => false

/-- Whether a key is taken, given those that are. -/
def isTaken (key : Value) (taken : List Value) : DecodeM Bool :=
  if isCollection key then throw .collectionKey else return taken.any (sameKey key)

/-- Goes through the pairs of a mapping but for those that merge others into it. Each pair whose
key is not taken changes a state. -/
def eachPair {σ : Type} (key : Node → DecodeM (Option Value))
    (change : Node → Value → Node → σ → DecodeM σ) (pairs : List (Node × Node)) (s : σ) :
    DecodeM σ := do
  let outer := (← get).taken
  modify ({ · with taken := none })
  let step (state : σ × Option (List Value)) (pair : Node × Node) :
      DecodeM (σ × Option (List Value)) := do
    let (s, taken) := state
    if pair.1.isMerge then return state
    match ← key pair.1, taken with
    | none, _ => return state
    | some k, none => return (← change pair.1 k pair.2 s, none)
    | some k, some keys =>
      if ← isTaken k keys then return state
      else return (← change pair.1 k pair.2 s, some (k :: keys))
  let (s, taken) ← pairs.foldlM step (s, outer)
  modify ({ · with taken })
  return s

/-- The keys of a mapping that say something. -/
def takenKeys (key : Node → DecodeM (Option Value)) :
    List (Node × Node) → List Value → DecodeM (List Value)
  | [], keys => return keys
  | (k, _) :: rest, keys => do
    match ← key k with
    | none => takenKeys key rest keys
    | some v => if isCollection v then throw .collectionKey else takenKeys key rest (v :: keys)

/-- Whether a node is a mapping or stands for one. -/
def isMapping (n : Node) : DecodeM Bool :=
  let isMap : Node → Bool
    | .mapping .. => true
    | _ => false
  match n with
  | .alias _ _ _ target => return isMap (← nodeAt target)
  | n => return isMap n

/-- Merges what the last merge key of a mapping asks for. The keys of the mapping itself are taken
from the start, as a value of any type shows them. -/
def merge {σ : Type} (anyKey : Node → DecodeM (Option Value)) (into : Node → σ → DecodeM σ)
    (pairs : List (Node × Node)) (s : σ) : DecodeM σ := do
  match (pairs.filter (·.1.isMerge)).getLast? with
  | none => return s
  | some (_, source) =>
    let outermost := (← get).taken.isNone
    if outermost then
      let keys ← takenKeys anyKey pairs []
      modify ({ · with taken := some keys })
    let one (s : σ) (n : Node) : DecodeM σ := do
      if ← isMapping n then into n s else stop
    let s ← match source with
      | .sequence _ _ items => items.foldlM one s
      | n => one s n
    if outermost then modify ({ · with taken := none })
    return s

/-- Puts an entry in the place of one with the same key, or at the end. -/
def putEntry {α β : Type} (same : α → α → Bool) (key : α) (value : β) :
    List (α × β) → List (α × β)
  | [] => [(key, value)]
  | (k, v) :: rest => if same k key then (key, value) :: rest else (k, v) :: putEntry same key value rest

/-! ## Values of any type -/

/-- Whether all keys of a mapping are strings. -/
def hasStringKeys : List (Node × Node) → DecodeM Bool
  | [] => return true
  | (k, _) :: rest => do
    let tag ← tagOf k
    if tag = strTag || tag = mergeTag then hasStringKeys rest else return false

/-- A string as a key. -/
def stringKey (n : Node) : DecodeM (Option Value) := return (← string.fresh? "" n).map .str

/-- The place of a key among the others: by kind, then by value. -/
def keyOrder : Value → Nat × Text
  | .null => (0, "")
  | .bool b => (1, if b then "1" else "0")
  | .int _ k => (2, toString (k + Nat.pow 2 64))
  | .double x => (3, x.render)
  | v => (4, v.text)

/-- The value of a mapping from its entries. -/
def mappingValue (stringKeys : Bool) (entries : List (Value × Value)) : Value :=
  let le (a b : Value × Value) : Bool :=
    let x := keyOrder a.1
    let y := keyOrder b.1
    x.1 < y.1 || (x.1 = y.1 && !y.2.lt x.2)
  let sorted := entries.mergeSort le
  if stringKeys then .record (sorted.map fun (k, v) ↦ (k.text.scrub, v)) else .table sorted

mutual

/-- A value of any type, nested at most as deeply as told. -/
def any : Nat → Target Value
  | 0 => { type := "interface \x7b\x7d", items := some fun _ ↦ stop, pairs := some fun _ _ ↦ stop }
  | fuel + 1 => {
    type := "interface \x7b\x7d"
    null := some .null
    scalar := fun _ v _ ↦ some v
    items := some fun items ↦
      return .list ((← items.mapM ((any fuel).fresh? .null)).filterMap id)
    pairs := some fun pairs _ ↦ do
      let stringKeys ← hasStringKeys pairs
      return mappingValue stringKeys (← entries stringKeys fuel pairs []) }

/-- Adds the entries of a mapping from strings, or from values of any type. -/
def entries (stringKeys : Bool) :
    Nat → List (Node × Node) → List (Value × Value) → DecodeM (List (Value × Value))
  | 0, _, _ => stop
  | fuel + 1, pairs, s => do
    let anyKey := (any fuel).fresh? .null
    let key := if stringKeys then stringKey else anyKey
    let change (_ : Node) (k : Value) (value : Node) (s : List (Value × Value)) :
        DecodeM (List (Value × Value)) := do
      if isCollection k then stop
      match ← (any fuel).fresh? .null value with
      | some v => return putEntry sameKey k v s
      | none => return s
    let s ← eachPair key change pairs s
    let source : Target (List (Value × Value)) := { type := "", pairs := some (entries stringKeys fuel) }
    merge anyKey source.into pairs s

end

/-! ## Records -/

/-- A record type: its name, whether it refuses fields it does not know, and its fields. -/
structure Fields (σ : Type) where
  /-- The name of the type. -/
  type : String
  /-- Whether unknown fields are put on record. -/
  strict : Bool
  /-- How a field changes a value. -/
  field : String → Option (Node → σ → DecodeM σ)

/-- A field of a record. -/
def Target.field {σ α : Type} (t : Target α) (get : σ → α) (set : σ → α → σ) :
    Option (Node → σ → DecodeM σ) :=
  some fun n s ↦ return set s (← t.into n (get s))

/-- Sets a field that a pair names, given the names of those that are set. -/
def Fields.change {σ : Type} (fields : Fields σ) (key : Node) (name : Value) (value : Node)
    (state : σ × List String) : DecodeM (σ × List String) := do
  let (s, done) := state
  let name := name.text.scrub
  match fields.field name with
  | some set =>
    if done.contains name then
      report key.line ("field " ++ name ++ " already set in type " ++ fields.type : String)
      return state
    return (← set value s, name :: done)
  | none =>
    if fields.strict then
      report key.line ("field " ++ name ++ " not found in type " ++ fields.type : String)
    return state

/-- A record. -/
def record {σ : Type} (fields : Fields σ) : Nat → Target σ
  | 0 => { type := fields.type, pairs := some fun _ _ ↦ stop }
  | fuel + 1 => {
    type := fields.type
    pairs := some fun pairs s ↦ do
      let (s, _) ← eachPair stringKey fields.change pairs (s, [])
      merge ((any fuel).fresh? .null) ((record fields fuel).into) pairs s }

/-- A record of a mapping, some of which may be null. A collection is none that is tagged as a
null. -/
def pointed {σ : Type} (t : Target σ) (zero : σ) (n : Node) : DecodeM (Option (Option σ)) :=
  through (fun n ↦ do
    match n with
    | .scalar _ tag _ =>
      if tag = nullTag then
        let _ ← t.content n zero
        return some none
      else return (← given n).map some
    | .alias .. => stop
    | n =>
      if n.tag = nullTag then
        if let .mapping _ _ pairs := n then
          if ← reportRepeats pairs then return none
        refuse n ("*" ++ t.type)
        return none
      else return (← given n).map some) n
where
  /-- The record of a node that is no null. -/
  given (n : Node) : DecodeM (Option σ) := do
    let (s, said) ← t.content n zero
    return if said then some s else none

/-- A mapping from names to records, some of which may be null. -/
def table {σ : Type} (item : Target σ) (zero : σ) : Nat → Target (List (String × Option σ))
  | 0 => { type := "map[string]*" ++ item.type, pairs := some fun _ _ ↦ stop }
  | fuel + 1 => {
    type := "map[string]*" ++ item.type
    null := some []
    pairs := some fun pairs s ↦ do
      let isNew := s.isEmpty
      let change (_ : Node) (k : Value) (value : Node) (s : List (String × Option σ)) :
          DecodeM (List (String × Option σ)) := do
        let name := k.text.scrub
        match ← pointed item zero value with
        | some v => return putEntry (· == ·) name v s
        | none =>
          if (← tagOf value) = nullTag && (isNew || !s.any (·.1 == name)) then
            return putEntry (· == ·) name none s
          else return s
      let s ← eachPair stringKey change pairs s
      merge ((any fuel).fresh? .null) ((table item zero fuel).into) pairs s }

/-! ## Documents -/

/-- The outcome of decoding a document. -/
def run {σ : Type} (t : Target σ) (zero : σ) (nodes : Array Node) (root : Node) :
    Except Error σ :=
  match (do countStep; t.into root zero : DecodeM σ) { nodes } with
  | .error e => .error e
  | .ok (a, d) => if d.reports.isEmpty then .ok a else .error (.mismatch d.reports.toList)

end DecodeM

/-- A bound on how deeply values are nested, aliases included: no alias is followed inside
itself. -/
def nestingBound (text : String) : Nat := (text.length + 2) * (text.length + 2)

end PathQuery.Yaml
