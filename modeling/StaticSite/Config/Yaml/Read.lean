import StaticSite.Config.Yaml.Scalar

/-!
# Configurations in YAML

Nodes are made into values by their tags.  A scalar is made at once; a collection is made
empty at first, and is filled after all that is made with it, so that it can stand within
itself.  A mapping may take over the entries of others through the key `<<`; its own entries
win.  In the end collections become values, in which a collection within itself is cut off.
-/

namespace StaticSite

namespace Config

namespace Yaml

/-- A key of a mapping with its origin: a key is the same as another one of its origin. -/
structure Key where
  value : Value
  origin : Nat

/-- What is made of a node.  What is made of the nodes within it is found by their numbers. -/
inductive Product where
  | single (key : Key)
  | list (items : List Nat)
  | mapping (entries : List (Key × Nat))
  | set (keys : List Key)
  | pairs (entries : List (Nat × Nat))

/-- What is known while values are made. -/
structure Maker where
  nodes : Array Node
  /-- What has been made of the nodes so far. -/
  products : Array (Option Product)
  /-- The collections that are still to be filled, the last one first. -/
  unfilled : List Nat := []
  /-- How many entries took over others before any did. -/
  merges : Nat

abbrev Making := StateT Maker Reading

def nodeOf (number : Nat) : Making Node :=
  return ((← get).nodes[number]?).getD (.scalar [] [])

def setProduct (number : Nat) (product : Product) : Making Unit :=
  modify fun maker => { maker with products := maker.products.set! number (some product) }

/-! ## Taking over entries -/

/-- Whether a key takes over the entries of its value. -/
def isMerge (number : Nat) : Making Bool := return (← nodeOf number).tag = standardTag "merge"

/-- Let a key that stands for the value of its mapping be a text. -/
def textForValue (number : Nat) : Making Unit := do
  match ← nodeOf number with
  | .scalar tag text =>
    if tag = standardTag "value" then
      modify fun maker =>
        { maker with nodes := maker.nodes.set! number (.scalar (standardTag "str") text) }
  | _ => return

def entriesOf (number : Nat) : Making (List (Nat × Nat)) := do
  match ← nodeOf number with
  | .mapping _ entries => return entries
  | _ => throw .malformed

def setEntries (number : Nat) (entries : List (Nat × Nat)) : Making Unit := do
  let tag := (← nodeOf number).tag
  modify fun maker => { maker with nodes := maker.nodes.set! number (.mapping tag entries) }

/-- How many mappings may take over entries within one another. -/
def deepestMerge : Nat := 977

/-- Pass over entries up to one that takes over others; the answer is how many they are. -/
def passPlain : List (Nat × Nat) → Making Nat
  | [] => return 0
  | (key, _) :: entries => do
    if ← isMerge key then return 0
    textForValue key
    return (← passPlain entries) + 1

/-- Let a mapping have the entries that it takes over, from an index on, in front of its own.
`taken` are those found so far.  Each step deletes an entry that takes over others, so that there
are not more steps than such entries. -/
def flattenFrom : (merges depth number index : Nat) → (taken : List (Nat × Nat)) → Making Unit
  | 0, _, _, _, _ => throw .malformed
  | merges + 1, depth, number, index, taken => do
    if deepestMerge < depth then throw (.fault .depth)
    let entries ← entriesOf number
    let index := index + (← passPlain (entries.drop index))
    match entries[index]? with
    | none => setEntries number (taken ++ entries)
    | some (_, value) =>
      setEntries number (entries.eraseIdx index)
      let within (item : Nat) : Making (List (Nat × Nat)) := do
        match ← nodeOf item with
        | .mapping _ _ =>
          flattenFrom merges (depth + 1) item 0 []
          entriesOf item
        | _ => throw .malformed
      -- Of several mappings the entries of the first one stand last, where they win.
      let more ←
        match ← nodeOf value with
        | .sequence _ items => items.foldlM (fun found item => return (← within item) ++ found) []
        | _ => within value
      flattenFrom merges depth number index (taken ++ more)

/-- The entries of a mapping with those that it takes over. -/
def flatEntries (number : Nat) : Making (List (Nat × Nat)) := do
  flattenFrom ((← get).merges + 1) 0 number 0 []
  entriesOf number

/-! ## Making values -/

/-- How many mappings may stand for their values within one another. -/
def deepestText : Nat := 974

/-- The text of a scalar, or of the value of a mapping, which has the key `=`. -/
def scalarText : (fuel : Nat) → Nat → Making Text
  | 0, _ => throw (.fault .depth)
  | fuel + 1, number => do
    match ← nodeOf number with
    | .scalar _ text => return text
    | .sequence _ _ => throw .malformed
    | .mapping _ entries =>
      match ← entries.findM? fun (key, _) => do
          return (← nodeOf key).tag = standardTag "value" with
      | some (_, value) => scalarText fuel value
      | none => throw .malformed

def emptyCollection? (tag : Text) : Option Product :=
  if tag = standardTag "seq" then some (.list [])
  else if tag = standardTag "map" then some (.mapping [])
  else if tag = standardTag "set" then some (.set [])
  else if tag = standardTag "omap" || tag = standardTag "pairs" then some (.pairs [])
  else none

/-- Make the value of a scalar.  What is no number by the word of the standard has one origin
wherever it stands. -/
def makeScalar (tag : Text) (number : Nat) : Making Key := do
  unless isScalarTag tag do throw .malformed
  let size := (← get).nodes.size
  let text ← scalarText deepestText number
  if tag = standardTag "timestamp" then
    if let .mapping _ _ ← nodeOf number then
      throw (.fault (.kind "expected string or bytes-like object, got 'list'"))
  let isStandard := tag = standardTag "float" && isStandardNaN text
  return ⟨← readScalar tag text, if isStandard then size else number⟩

/-- Make what a node stands for, unless it is made already. -/
def make (number : Nat) : Making Product := do
  match ((← get).products[number]?).join with
  | some product => return product
  | none =>
    let tag := (← nodeOf number).tag
    let product ←
      match emptyCollection? tag with
      | some empty => do
        modify fun maker => { maker with unfilled := number :: maker.unfilled }
        pure empty
      | none => do pure (.single (← makeScalar tag number))
    setProduct number product
    return product

def Key.same (first second : Key) : Bool :=
  first.origin = second.origin || sameKey first.value second.value

/-- Set a key of a mapping; a key that is there already keeps its place. -/
def putKey (key : Key) (value : Nat) : List (Key × Nat) → List (Key × Nat)
  | [] => [(key, value)]
  | (candidate, old) :: entries =>
    if candidate.same key then (candidate, value) :: entries
    else (candidate, old) :: putKey key value entries

/-- Make the entries of a mapping.  A collection cannot be a key. -/
def makeEntries (number : Nat) : Making (List (Key × Nat)) := do
  (← flatEntries number).foldlM
    (fun made (key, value) => do
      match ← make key with
      | .single key =>
        let _ ← make value
        return putKey key value made
      | _ => throw .malformed)
    []

/-- Make the only entry of a mapping as a pair. -/
def makePair (number : Nat) : Making (Nat × Nat) := do
  match ← entriesOf number with
  | [(key, value)] =>
    let _ ← make key
    let _ ← make value
    return (key, value)
  | _ => throw .malformed

def fillCollection (number : Nat) : Making Unit := do
  let node ← nodeOf number
  let items : Making (List Nat) :=
    match node with
    | .sequence _ items => return items
    | _ => throw .malformed
  match ← make number with
  | .single _ => return
  | .list _ =>
    let items ← items
    items.forM fun item => do let _ ← make item
    setProduct number (.list items)
  | .mapping _ => setProduct number (.mapping (← makeEntries number))
  | .set _ => setProduct number (.set ((← makeEntries number).map Prod.fst))
  | .pairs _ => setProduct number (.pairs (← (← items).mapM makePair))

/-- Fill all collections, those first that were made first.  Those that are made meanwhile are
filled after them. -/
def fillAll : (fuel : Nat) → Making Unit
  | 0 => return
  | fuel + 1 => do
    match (← get).unfilled with
    | [] => return
    | numbers =>
      modify fun maker => { maker with unfilled := [] }
      numbers.reverse.forM fillCollection
      fillAll fuel

/-! ## Values of what was made -/

/-- A value, and whether it is cut off within because it stands within itself. -/
structure Unrolled where
  value : Value
  isCut : Bool := false

/-- A step that remembers values, which must not be cut off. -/
abbrev Unrolling := StateM (Array (Option Value))

/-- The value of a node by what was made of the nodes.  It stands within the nodes of a path. -/
def unroll (products : Array (Option Product)) : (fuel : Nat) → (path : List Nat) → Nat →
    Unrolling Unrolled
  | 0, _, _ => return ⟨.null, true⟩
  | fuel + 1, path, number => do
    if let some value := ((← get)[number]?).join then return ⟨value, false⟩
    let within (number' : Nat) : Unrolling Unrolled :=
      unroll products fuel (number :: path) number'
    let isOpen := decide (number ∈ path)
    let unrolled ←
      match isOpen, (products[number]?).join with
      | _, none => pure ⟨.null, false⟩
      | _, some (.single key) => pure ⟨key.value, false⟩
      | _, some (.set keys) => pure ⟨.set (keys.map Key.value), false⟩
      | true, some (.mapping _) => pure ⟨.again false, true⟩
      | true, some _ => pure ⟨.again true, true⟩
      | false, some (.list items) => do
        let items ← items.mapM within
        pure ⟨.list (items.map Unrolled.value), items.any Unrolled.isCut⟩
      | false, some (.mapping entries) => do
        let entries ← entries.mapM fun (key, value) => do return (key.value, ← within value)
        pure ⟨.mapping (entries.map fun (key, value) => (key, value.value)),
          entries.any fun (_, value) => value.isCut⟩
      | false, some (.pairs entries) => do
        let entries ← entries.mapM fun (first, second) => do
          return (← within first, ← within second)
        pure ⟨.list (entries.map fun (first, second) => .pair first.value second.value),
          entries.any fun (first, second) => first.isCut || second.isCut⟩
    unless unrolled.isCut do modify (·.set! number (some unrolled.value))
    return unrolled

/-- The value of a node by what was made of the nodes.  Each value of a mapping stands for
itself, so it is cut off where it stands within itself and not where the mapping does. -/
def valueOf (products : Array (Option Product)) (root : Nat) : Value :=
  let unrollOne (number : Nat) : Unrolling Value := do
    return (← unroll products (products.size + 1) [] number).value
  let values : Unrolling Value := do
    match (products[root]?).join with
    | some (.mapping entries) =>
      return .mapping (← entries.mapM fun (key, value) => do
        return (key.value, ← unrollOne value))
    | _ => unrollOne root
  (values.run (Array.replicate products.size none)).1

/-- How many entries of mappings take over others. -/
def mergeCount (nodes : Array Node) : Nat :=
  let entries := nodes.toList.flatMap fun
    | .mapping _ entries => entries
    | _ => []
  entries.countP fun (key, _) => (nodes[key]?).map Node.tag = some (standardTag "merge")

/-- Read a whole configuration; nothing is answered for a text without a document. -/
def read (text : Text) : Reading Value := do
  match ← compose text with
  | (_, none) => return .null
  | (nodes, some root) =>
    let making : Making Unit := do
      let _ ← make root
      fillAll (nodes.size + 1)
    let (_, maker) ← making.run {
      nodes, products := Array.replicate nodes.size none, merges := mergeCount nodes }
    return valueOf maker.products root

end Yaml

end Config

end StaticSite
