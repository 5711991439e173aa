import LineShell.Yaml.Node

/-!
# The graph of a document

The nodes of a document by their numbers. What holds other nodes holds their numbers, so that a node
that is referred to from several places, or from inside of itself, is there once.

## Merging

An entry of a mapping whose key is the merge mark brings in the entries of another mapping, or of
several (`Graph.flatten`). Flattening changes the graph for good: the mark is gone afterwards, also
for whoever comes to the mapping from elsewhere, and the value mark has become a text wherever it is
a key. Each step takes one merge mark out of the graph, so their number bounds the work.

* `Graph.ofNode` - the graph of a tree
* `Graph.textOf` - the text of a node that counts as a scalar
* `Graph.flatten` - a mapping without merge marks
-/

namespace LineShell.Yaml

/-! ## Trees -/

namespace Node

/-- The number of a node. -/
def id : Node → Nat
  | scalar id .. | sequence id .. | mapping id .. | reference id => id

mutual

/-- The nodes of a tree. -/
def nodes : Node → List Node
  | scalar id t text => [scalar id t text]
  | sequence id t items => sequence id t items :: nodesOfItems items
  | mapping id t entries => mapping id t entries :: nodesOfEntries entries
  | reference _ => []

/-- The nodes of several trees. -/
def nodesOfItems : List Node → List Node
  | [] => []
  | n :: ns => n.nodes ++ nodesOfItems ns

/-- The nodes of several pairs of trees. -/
def nodesOfEntries : List (Node × Node) → List Node
  | [] => []
  | (k, v) :: rest => k.nodes ++ (v.nodes ++ nodesOfEntries rest)

end

end Node

/-! ## Graphs -/

/-- What a node holds; other nodes by their numbers. -/
inductive Content where
  | scalar (text : List Char)
  | sequence (items : List Nat)
  | mapping (entries : List (Nat × Nat))
deriving DecidableEq, Repr

/-- A node of a graph. -/
structure Vertex where
  tag : Tag
  content : Content
deriving DecidableEq, Repr

/-- The nodes of a document, each at its number. -/
structure Graph where
  vertices : Array Vertex

namespace Graph

/-- The vertex that a node becomes. -/
def vertexOf : Node → Vertex
  | .scalar _ t text => ⟨t, .scalar text⟩
  | .sequence _ t items => ⟨t, .sequence (items.map Node.id)⟩
  | .mapping _ t entries => ⟨t, .mapping (entries.map fun e => (e.1.id, e.2.id))⟩
  | .reference _ => ⟨.null, .scalar []⟩

/-- The graph of a tree. -/
def ofNode (root : Node) : Graph :=
  let nodes := root.nodes
  let size := nodes.foldl (fun n x => max n (x.id + 1)) 0
  ⟨nodes.foldl (fun vs n => vs.setIfInBounds n.id (vertexOf n))
    (Array.replicate size ⟨.null, .scalar []⟩)⟩

/-- The vertex with a number. -/
def vertex? (g : Graph) (id : Nat) : Option Vertex := g.vertices[id]?

/-- The tag of the node with a number. -/
def tagOf (g : Graph) (id : Nat) : Option Tag := (g.vertex? id).map Vertex.tag

/-- The entries of a mapping. -/
def entriesOf (g : Graph) (id : Nat) : List (Nat × Nat) :=
  match g.vertex? id with
  | some ⟨_, .mapping entries⟩ => entries
  | _ => []

/-- How many nodes there are. -/
def size (g : Graph) : Nat := g.vertices.size

/-- Changes the vertex with a number. -/
def modify (g : Graph) (id : Nat) (f : Vertex → Vertex) : Graph := ⟨g.vertices.modify id f⟩

/-- Gives a mapping other entries. -/
def setEntries (g : Graph) (id : Nat) (entries : List (Nat × Nat)) : Graph :=
  g.modify id fun v => { v with content := .mapping entries }

/-- How many mappings may be entered from within each other. It stands for the room on the stack, of
which each of them takes a piece; how large it is, no result turns on. -/
def maxEntered : Nat := 980

/-- The text of a scalar. A mapping counts as the scalar that stands under its value mark, which may
be a mapping again. -/
def textOf (g : Graph) : (room : Nat) → Nat → Except Fault (List Char)
  | 0, _ => .error .tooDeep
  | room + 1, id =>
    match g.vertex? id with
    | some ⟨_, .scalar text⟩ => .ok text
    | some ⟨_, .mapping entries⟩ =>
      match entries.find? fun e => g.tagOf e.1 == some .value with
      | some e => g.textOf room e.2
      | none => .error .malformed
    | _ => .error .malformed

/-! ## Merging -/

/-- Whether an entry is one to merge. -/
def isMerge (g : Graph) (e : Nat × Nat) : Bool := g.tagOf e.1 == some .merge

/-- How many entries there are to merge. -/
def merges (g : Graph) : Nat :=
  g.vertices.foldl (fun n v => match v.content with
    | .mapping entries => n + (entries.filter g.isMerge).length
    | _ => n) 0

/-- Makes the value mark a text where it is the key of an entry. -/
def plainKeys (g : Graph) (entries : List (Nat × Nat)) : Graph :=
  entries.foldl (fun g e =>
    g.modify e.1 fun v => if v.tag = .value then { v with tag := .str } else v) g

/-- Does something inside of a mapping, where there is room for one less. -/
def inside {α : Type} (room : Nat) (x : Nat → Except Fault α) : Except Fault α :=
  match room with
  | 0 => .error .tooDeep
  | room + 1 => x room

/-- Flattens the mapping with a number: the entries that are merged into it come first, those of the
first merge mark in front. Of a sequence of mappings the last comes first. `brought` are the entries
that have been brought in so far. A mapping that is brought in is flattened first. -/
def flatten (fuel room : Nat) (g : Graph) (id : Nat) (brought : List (Nat × Nat)) :
    Except Fault Graph :=
  let entries := g.entriesOf id
  match entries.find? g.isMerge with
  | none => .ok ((g.setEntries id (brought ++ entries)).plainKeys (brought ++ entries))
  | some e =>
    match fuel with
    | 0 => .error .malformed
    | fuel + 1 =>
      let g := g.setEntries id (entries.eraseP g.isMerge)
      let ofMapping (g : Graph) (id : Nat) : Except Fault (Graph × List (Nat × Nat)) :=
        match g.vertex? id with
        | some ⟨_, .mapping _⟩ =>
          inside room fun room => (flatten fuel room g id []).map fun g => (g, g.entriesOf id)
        | _ => .error .malformed
      let merged : Except Fault (Graph × List (Nat × Nat)) :=
        match g.vertex? e.2 with
        | some ⟨_, .sequence items⟩ =>
          items.foldlM (fun (acc : Graph × List (Nat × Nat)) i =>
            (ofMapping acc.1 i).map fun r => (r.1, r.2 ++ acc.2)) (g, [])
        | _ => ofMapping g e.2
      match merged with
      | .error f => .error f
      | .ok (g, more) => flatten fuel room g id (brought ++ more)

end Graph

end LineShell.Yaml
