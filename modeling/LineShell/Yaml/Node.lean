import LineShell.Yaml.Tag
import LineShell.Yaml.Token

/-!
# Nodes

A document as a tree of nodes: scalars, sequences and mappings with their tags, and references to
nodes that were given a name before. Every node has a number of its own, so that a node that is
referred to can be told from an equal one.

`Node.ofTokens?` builds the tree. The grammar has one function for each construct; what they share
is the state `Building`. The functions call each other with less `fuel` each time, and start with
more than the tokens can use up (`fuelFor`). What a collection holds lies one level deeper than the
collection (`Build.deeper`), and there is room for so many levels only (`maxNesting`).
-/

namespace LineShell.Yaml

/-- A node of a document. -/
inductive Node where
  | scalar (id : Nat) (tag : Tag) (text : List Char)
  | sequence (id : Nat) (tag : Tag) (items : List Node)
  | mapping (id : Nat) (tag : Tag) (entries : List (Node × Node))
  /-- The node with this number, which was named before. -/
  | reference (id : Nat)

instance : Inhabited Node := ⟨.reference 0⟩

/-- How deep collections may lie in each other. It stands for the room on the stack, of which each
level takes a piece; how large it is, no result turns on. -/
def maxNesting : Nat := 490

/-- The state of building a tree. -/
structure Building where
  tokens : List Token
  /-- Why there are no more tokens. -/
  ranOut : Fault
  /-- The number of the next node. -/
  next : Nat := 0
  /-- The nodes that have a name. -/
  names : List (List Char × Nat) := []
  /-- What tag handles stand for. -/
  handles : List (List Char × List Char) := []
  /-- How many levels deeper there is room for. -/
  room : Nat := maxNesting

/-- A part of building a tree. -/
abbrev Build (α : Type) := StateT Building (Except Fault) α

namespace Build

/-- Gives up. -/
def fail {α : Type} : Build α := fun _ => .error .malformed

/-- The next token. -/
def peek : Build Token := fun b =>
  match b.tokens with
  | t :: _ => .ok (t, b)
  | [] => .error b.ranOut

/-- Goes on by one token. -/
def drop : Build Unit := fun b => .ok ((), { b with tokens := b.tokens.drop 1 })

/-- A new number. -/
def fresh : Build Nat := fun b => .ok (b.next, { b with next := b.next + 1 })

/-- Gives a node a name, which must be new. -/
def name (n : List Char) (id : Nat) : Build Unit := fun b =>
  if (b.names.lookup n).isSome then .error .malformed
  else .ok ((), { b with names := (n, id) :: b.names })

/-- The node with a name. -/
def named (n : List Char) : Build Node := fun b =>
  match b.names.lookup n with
  | some id => .ok (.reference id, b)
  | none => .error .malformed

/-- Builds what a collection holds, one level deeper. -/
def deeper {α : Type} (x : Build α) : Build α := fun b =>
  match b.room with
  | 0 => .error .tooDeep
  | room + 1 => (x { b with room := room }).map fun (a, b') => (a, { b' with room := b.room })

/-- A node that is left out. -/
def empty : Build Node := do
  return .scalar (← fresh) .null []

/-- The full name of a tag. -/
def fullTag (handle : Option (List Char)) (suffix : List Char) : Build (List Char) := fun b =>
  match handle with
  | none => .ok (suffix, b)
  | some h =>
    match b.handles.lookup h with
    | some pre => .ok (pre ++ suffix, b)
    | none => .error .malformed

/-- The anchor and the tag in front of a node, in either order. -/
def properties : Build (Option (List Char) × Option (List Char)) := do
  match ← peek with
  | .anchor a =>
    drop
    match ← peek with
    | .tag h s =>
      drop
      return (some a, some (← fullTag h s))
    | _ => return (some a, none)
  | .tag h s =>
    drop
    match ← peek with
    | .anchor a =>
      drop
      return (some a, some (← fullTag h s))
    | _ => return (none, some (← fullTag h s))
  | _ => return (none, none)

/-- The kind of a node with this tag, or with none. -/
def tagOr (tag : Option (List Char)) (t : Tag) : Tag :=
  match tag with
  | none => t
  | some name => if name = ['!'] then t else .ofName name

/-- The kind of a scalar. A mark alone makes it plain, however it is written. -/
def scalarTag (tag : Option (List Char)) (text : List Char) (plain : Bool) : Tag :=
  tagOr tag (if plain || tag.isSome then .ofPlain text else .str)

mutual

/-- Reads a node. Block collections are allowed only if `block` is set, and sequences that are not
indented only if `flat` is set. -/
def node (fuel : Nat) (block flat : Bool) : Build Node :=
  match fuel with
  | 0 => fail
  | fuel + 1 => do
    match ← peek with
    | .aliasOf n =>
      drop
      named n
    | _ =>
      let (anchor, tag) ← properties
      let id ← fresh
      let next ← peek
      match anchor with
      | some a => name a id
      | none => pure ()
      match next with
      | .scalar text plain =>
        drop
        return .scalar id (scalarTag tag text plain) text
      | .flowSequence =>
        drop
        return .sequence id (tagOr tag .seq) (← deeper (flowItems fuel true))
      | .flowMapping =>
        drop
        return .mapping id (tagOr tag .map) (← deeper (flowEntries fuel true))
      | .blockSequence =>
        if !block then fail
        drop
        return .sequence id (tagOr tag .seq) (← deeper (blockItems fuel))
      | .blockMapping =>
        if !block then fail
        drop
        return .mapping id (tagOr tag .map) (← deeper (blockEntries fuel))
      | .blockEntry =>
        if flat then return .sequence id (tagOr tag .seq) (← deeper (flatItems fuel))
        else if anchor.isSome || tag.isSome then return .scalar id (tagOr tag .null) []
        else fail
      | _ =>
        if anchor.isSome || tag.isSome then return .scalar id (tagOr tag .null) []
        else fail

/-- Reads the items of a block sequence, and its end. -/
def blockItems (fuel : Nat) : Build (List Node) :=
  match fuel with
  | 0 => fail
  | fuel + 1 => do
    match ← peek with
    | .blockEntry =>
      drop
      match ← peek with
      | .blockEntry | .blockEnd => return (← empty) :: (← blockItems fuel)
      | _ => return (← node fuel true false) :: (← blockItems fuel)
    | .blockEnd =>
      drop
      return []
    | _ => fail

/-- Reads the items of a sequence that is not indented. -/
def flatItems (fuel : Nat) : Build (List Node) :=
  match fuel with
  | 0 => fail
  | fuel + 1 => do
    match ← peek with
    | .blockEntry =>
      drop
      match ← peek with
      | .blockEntry | .key | .value | .blockEnd => return (← empty) :: (← flatItems fuel)
      | _ => return (← node fuel true false) :: (← flatItems fuel)
    | _ => return []

/-- Reads the entries of a block mapping, and its end. -/
def blockEntries (fuel : Nat) : Build (List (Node × Node)) :=
  match fuel with
  | 0 => fail
  | fuel + 1 => do
    match ← peek with
    | .key =>
      drop
      let k ← match ← peek with
        | .key | .value | .blockEnd => empty
        | _ => node fuel true true
      let v ← blockValue fuel
      return (k, v) :: (← blockEntries fuel)
    | .blockEnd =>
      drop
      return []
    | _ => fail

/-- Reads the value of an entry of a block mapping. -/
def blockValue (fuel : Nat) : Build Node :=
  match fuel with
  | 0 => fail
  | fuel + 1 => do
    match ← peek with
    | .value =>
      drop
      match ← peek with
      | .key | .value | .blockEnd => empty
      | _ => node fuel true true
    | _ => empty

/-- Reads the items of a flow sequence, and its end. -/
def flowItems (fuel : Nat) (first : Bool) : Build (List Node) :=
  match fuel with
  | 0 => fail
  | fuel + 1 => do
    if (← peek) == .flowSequenceEnd then
      drop
      return []
    if !first then
      if (← peek) != .flowEntry then fail
      drop
    match ← peek with
    | .flowSequenceEnd =>
      drop
      return []
    | .key =>
      drop
      let id ← fresh
      let e ← deeper (flowPair fuel)
      return .mapping id .map [e] :: (← flowItems fuel false)
    | _ => return (← node fuel false false) :: (← flowItems fuel false)

/-- Reads the entry that makes a mapping of an item of a flow sequence. -/
def flowPair (fuel : Nat) : Build (Node × Node) :=
  match fuel with
  | 0 => fail
  | fuel + 1 => do
    let k ← match ← peek with
      | .value | .flowEntry | .flowSequenceEnd => empty
      | _ => node fuel false false
    return (k, ← flowValue fuel)

/-- Reads the entries of a flow mapping, and its end. -/
def flowEntries (fuel : Nat) (first : Bool) : Build (List (Node × Node)) :=
  match fuel with
  | 0 => fail
  | fuel + 1 => do
    if (← peek) == .flowMappingEnd then
      drop
      return []
    if !first then
      if (← peek) != .flowEntry then fail
      drop
    match ← peek with
    | .flowMappingEnd =>
      drop
      return []
    | .key =>
      drop
      let k ← match ← peek with
        | .value | .flowEntry | .flowMappingEnd => empty
        | _ => node fuel false false
      let v ← flowValue fuel
      return (k, v) :: (← flowEntries fuel false)
    | _ =>
      let k ← node fuel false false
      return (k, ← empty) :: (← flowEntries fuel false)

/-- Reads the value of an entry of a flow collection. -/
def flowValue (fuel : Nat) : Build Node :=
  match fuel with
  | 0 => fail
  | fuel + 1 => do
    match ← peek with
    | .value =>
      drop
      match ← peek with
      | .flowEntry | .flowSequenceEnd | .flowMappingEnd => empty
      | _ => node fuel false false
    | _ => empty

end

/-! ## Documents -/

/-- What tag handles stand for, unless a document says otherwise. -/
def standardHandles : List (List Char × List Char) :=
  [(['!'], ['!']), (['!', '!'], Tag.known.lead)]

/-- Reads the directives of a document: at most one version, which must be 1, and each tag handle
once. The result is what tag handles stand for. -/
def directives (fuel : Nat) (version : Bool) (handles : List (List Char × List Char)) :
    Build (List (List Char × List Char)) :=
  match fuel with
  | 0 => fail
  | fuel + 1 => do
    match ← peek with
    | .directive (.version major _) =>
      drop
      if version || major != 1 then fail else directives fuel true handles
    | .directive (.tag h pre) =>
      drop
      if (handles.lookup h).isSome then fail else directives fuel version ((h, pre) :: handles)
    | .directive .reserved =>
      drop
      directives fuel version handles
    | _ => return handles ++ standardHandles

/-- More than the tokens can use up. -/
def fuelFor (ts : List Token) : Nat := 4 * ts.length + 16

/-- Reads the beginning of a document that says where it begins. -/
def opening (fuel : Nat) : Build Unit := do
  let handles ← directives fuel false []
  if (← peek) != .documentStart then fail
  drop
  modify fun b => { b with handles := handles }

/-- Skips the marks for the end of a document. -/
def skipEnds (fuel : Nat) : Build Unit :=
  match fuel with
  | 0 => fail
  | fuel + 1 => do
    if (← peek) == .documentEnd then
      drop
      skipEnds fuel

/-- Reads the only document there may be. -/
def document : Build (Option Node) := do
  let fuel := fuelFor (← get).tokens
  let root ← match ← peek with
    | .streamEnd => return none
    | .directive _ | .documentStart =>
      opening fuel
      match ← peek with
      | .directive _ | .documentStart | .documentEnd | .streamEnd => empty
      | _ => node fuel true false
    | _ =>
      modify fun b => { b with handles := standardHandles }
      node fuel true false
  skipEnds fuel
  if (← peek) == .streamEnd then return some root
  opening fuel
  fail

end Build

/-- The tree that tokens make; `none` if there is nothing at all. -/
def Node.ofTokens? (ts : Tokens) : Except Fault (Option Node) :=
  (Build.document { tokens := ts.list, ranOut := ts.fault.getD .malformed }).map (·.1)

end LineShell.Yaml
