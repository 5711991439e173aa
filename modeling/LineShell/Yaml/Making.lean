import LineShell.Value.Text
import LineShell.Yaml.Graph
import LineShell.Yaml.ScalarValue

/-!
# Making values

The nodes of a graph become things (`Thing`): a scalar becomes its value at once, a collection
becomes an empty one that is filled later. Collections are filled in the order in which they were
begun (`Making.fillAll`), so everything that lies less deep is made before what lies deeper, and of
two faults the one that is met first counts. A node is made only once, however often it is referred
to.

## Termination

A collection waits to be filled once, because its node is made only once: `fillAll` needs no more
rounds than there are nodes.
-/

namespace LineShell.Yaml

/-- What a node becomes: a value, or the collection with this number. -/
inductive Thing where
  | plain (v : Value)
  | collection (id : Nat)

/-- What a collection has been filled with. -/
inductive Filling where
  | items (ts : List Thing)
  | pairs (ps : List (Thing × Thing))
  | members (ks : List Value)
  | entries (es : List (Value × Thing))

/-- The state of making values. -/
structure Making where
  graph : Graph
  made : Array (Option Thing)
  filled : Array (Option Filling)
  /-- The collections that have been begun, in that order. -/
  begun : Array Nat := #[]

/-- A part of making values. -/
abbrev Make (α : Type) := StateT Making (Except Fault) α

namespace Making

/-- Whether a tag is one of collections. -/
def isCollection : Tag → Bool
  | .seq | .omap | .pairs | .map | .set => true
  | _ => false

/-- The thing that a vertex becomes when it is made for the first time. -/
def thingOf (g : Graph) (id : Nat) (v : Vertex) : Except Fault Thing :=
  if isCollection v.tag then .ok (.collection id)
  else
    match g.textOf Graph.maxEntered id with
    | .error f => .error f
    | .ok text =>
      (scalarOf id v.tag text (match v.content with | .mapping _ => true | _ => false)).map .plain

/-- Makes the node with a number. -/
def make (id : Nat) : Make Thing := fun m =>
  match m.made[id]?, m.graph.vertex? id with
  | some (some t), _ => .ok (t, m)
  | _, none => .error .malformed
  | _, some v =>
    match thingOf m.graph id v with
    | .error f => .error f
    | .ok t =>
      .ok (t, { m with
        made := m.made.setIfInBounds id (some t)
        begun := match t with | .collection _ => m.begun.push id | .plain _ => m.begun })

/-- Makes the node with a number, which has to become a key. -/
def makeKey (id : Nat) : Make Value := do
  match ← make id with
  | .plain v => return v
  | .collection _ => throw .malformed

/-- Makes the two nodes of a mapping that has but one entry. -/
def makePair (id : Nat) : Make (Thing × Thing) := do
  match (← get).graph.vertex? id with
  | some ⟨_, .mapping [(k, v)]⟩ =>
    let key ← make k
    return (key, ← make v)
  | _ => throw .malformed

/-- Makes the entries of a mapping, after it has been flattened. -/
def makeEntries (id : Nat) : Make (List (Value × Thing)) := do
  let m ← get
  match m.graph.flatten (m.graph.merges + 1) Graph.maxEntered id [] with
  | .error f => throw f
  | .ok g =>
    set { m with graph := g }
    (g.entriesOf id).foldlM (fun es e => do
      let key ← makeKey e.1
      return Value.setEntry key (← make e.2) es) []

/-- What a collection is to be filled with. -/
def filling (id : Nat) (v : Vertex) : Make Filling :=
  match v.tag, v.content with
  | .seq, .sequence items => do return .items (← items.mapM make)
  | .omap, .sequence items | .pairs, .sequence items => do return .pairs (← items.mapM makePair)
  | .map, .mapping _ => do return .entries (← makeEntries id)
  | .set, .mapping _ => do
    return .members (((← makeEntries id).map Prod.fst).mergeSort Value.comesBefore)
  | _, _ => throw .malformed

/-- Fills a collection. -/
def fill (id : Nat) : Make Unit := do
  match (← get).graph.vertex? id with
  | none => throw .malformed
  | some v =>
    let f ← filling id v
    modify fun m => { m with filled := m.filled.setIfInBounds id (some f) }

/-- Fills all collections from the `k`-th on that has been begun, and those that are begun
meanwhile. -/
def fillAll : (fuel k : Nat) → Make Unit
  | 0, _ => throw .malformed
  | fuel + 1, k => do
    match (← get).begun[k]? with
    | none => return
    | some id =>
      fill id
      fillAll fuel (k + 1)

/-! ## Values -/

/-- The value of a thing. `path` are the collections that hold it; where one of them comes back, the
value ends. -/
def valueOf (filled : Array (Option Filling)) : (fuel : Nat) → (path : List Nat) → Thing → Value
  | _, _, .plain v => v
  | 0, _, .collection _ => .null
  | fuel + 1, path, .collection id =>
    let value := valueOf filled fuel (id :: path)
    match filled[id]? with
    | some (some (.items ts)) =>
      if path.contains id then .again id .list else .list (some id) (ts.map value)
    | some (some (.pairs ps)) =>
      if path.contains id then .again id .list
      else .list (some id) (ps.map fun p => .tuple none [value p.1, value p.2])
    | some (some (.entries es)) =>
      if path.contains id then .again id .mapping
      else .map (some id) (es.map fun e => (e.1, value e.2))
    | some (some (.members ks)) => .set (some id) ks
    | _ => .null

/-- The value of the node with a number. -/
def valueAt (g : Graph) (root : Nat) : Except Fault Value :=
  let start : Making :=
    { graph := g, made := Array.replicate g.size none, filled := Array.replicate g.size none }
  let all : Make Thing := do
    let t ← make root
    fillAll (g.size + 1) 0
    return t
  (all.run start).map fun (t, m) => valueOf m.filled (g.size + 1) [] t

end Making

end LineShell.Yaml
