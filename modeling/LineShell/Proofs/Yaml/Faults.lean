import LineShell.Proofs.Yaml.Tree
import LineShell.Yaml.Reading

/-!
# What can go wrong with a document

A document is read in three steps, over tokens, a tree and a graph, and each of them can fail. What
a failure can be is said once for each step, and `fault_readDocument` puts them together: the form
of the document, a flaw of its source, a fault in its characters, nodes that lie too deep, or a
scalar whose text is no value of the kind that a tag in the document names (`Fault.OfScalar`).

## How the proofs go

Making values changes the graph, but what its vertices have is what the tree holds already: the tags
of its nodes and the texts of its scalars (`Graph.MadeOf`). Flattening keeps that
(`Graph.flattens_flatten`), and so does every part of making values (`Making.Sound`).
-/

namespace LineShell.Yaml

variable {α β : Type} {ns : List Node}

/-! ## What a tree holds -/

/-- The tags of nodes. -/
def Node.tags (ns : List Node) : List Tag := ns.map fun n => (Graph.vertexOf n).tag

/-- The texts of nodes, and the empty one for what is left out. -/
def Node.texts (ns : List Node) : List (List Char) :=
  [] :: ns.filterMap fun n => match n with
    | .scalar _ _ text => some text
    | _ => none

/-- The fault of a scalar that has a text and a tag of these nodes, where the text is no value of
the kind that the tag names. -/
def Fault.OfScalar (ns : List Node) (f : Fault) : Prop :=
  ∃ tag ∈ Node.tags ns, ∃ text ∈ Node.texts ns, ∃ id isMapping,
    scalarOf id tag text isMapping = .error f

/-- A vertex has its tag and its text from nodes, unless it is a text by itself or nothing. -/
structure Vertex.MadeOf (ns : List Node) (v : Vertex) : Prop where
  tag : v.tag = .null ∨ v.tag = .str ∨ v.tag ∈ Node.tags ns
  text : ∀ text, v.content = .scalar text → text ∈ Node.texts ns

theorem Vertex.madeOf_vertexOf {n : Node} (hn : n ∈ ns) : (Graph.vertexOf n).MadeOf ns := by
  refine ⟨.inr (.inr (List.mem_map_of_mem hn)), fun text h => ?_⟩
  cases n with
  | scalar id t cs =>
    obtain rfl : cs = text := by simpa [Graph.vertexOf] using h
    exact List.mem_cons_of_mem _ (List.mem_filterMap.2 ⟨_, hn, rfl⟩)
  | reference id =>
    obtain rfl : [] = text := by simpa [Graph.vertexOf] using h
    exact List.mem_cons_self
  | sequence | mapping => cases h

/-! ## Graphs -/

namespace Graph

variable {g : Graph} {id : Nat} {f : Fault} {es : List (Nat × Nat)}

/-- A graph of which every vertex has its tag and its text from nodes. -/
def MadeOf (ns : List Node) (g : Graph) : Prop := ∀ id v, g.vertex? id = some v → v.MadeOf ns

theorem MadeOf.modify (hg : g.MadeOf ns) {f : Vertex → Vertex}
    (hf : ∀ v, v.MadeOf ns → (f v).MadeOf ns) : (g.modify id f).MadeOf ns := by
  intro i v hv
  unfold vertex? Graph.modify at hv
  dsimp only at hv
  rw [Array.getElem?_modify] at hv
  split at hv
  · obtain ⟨w, hw, rfl⟩ := Option.map_eq_some_iff.1 hv
    exact hf w (hg i w hw)
  · exact hg i v hv

theorem MadeOf.setEntries (hg : g.MadeOf ns) : (g.setEntries id es).MadeOf ns :=
  hg.modify fun _ hv => ⟨hv.tag, nofun⟩

theorem MadeOf.plainKeys (hg : g.MadeOf ns) : (g.plainKeys es).MadeOf ns := by
  refine List.foldlRecOn es _ hg fun g hg e _ => hg.modify fun v hv => ?_
  split
  · exact ⟨.inr (.inl rfl), hv.text⟩
  · exact hv

/-- The graph of a tree is made of its nodes. -/
theorem madeOf_ofNode (root : Node) : (ofNode root).MadeOf root.nodes := by
  unfold ofNode
  dsimp only
  refine List.foldlRecOn (motive := fun vs => MadeOf root.nodes ⟨vs⟩) root.nodes _ ?_ ?_
  · intro i v hv
    unfold vertex? at hv
    rw [Array.getElem?_replicate] at hv
    split at hv
    · cases hv
      exact ⟨.inl rfl, fun text h => by cases h; exact List.mem_cons_self⟩
    · cases hv
  · intro vs hvs n hn i v hv
    unfold vertex? at hv
    rw [Array.getElem?_setIfInBounds] at hv
    split at hv
    · split at hv
      · cases hv
        exact Vertex.madeOf_vertexOf hn
      · cases hv
    · exact hvs i v hv

/-- The text of a node is one of those that the graph is made of. -/
theorem MadeOf.text_mem (hg : g.MadeOf ns) {room : Nat} {text : List Char}
    (h : g.textOf room id = .ok text) : text ∈ Node.texts ns := by
  induction room generalizing id with
  | zero => cases h
  | succ room ih =>
    unfold textOf at h
    split at h
    · next hv =>
      cases h
      exact (hg _ _ hv).text _ rfl
    · split at h
      · exact ih h
      · cases h
    · cases h

/-- A node has no text only if it is none of a scalar, or too many mappings are to be entered. -/
theorem fault_textOf {room : Nat} (h : g.textOf room id = .error f) :
    f = .malformed ∨ f = .tooDeep := by
  induction room generalizing id with
  | zero =>
    cases h
    exact .inr rfl
  | succ room ih =>
    unfold textOf at h
    split at h
    · cases h
    · split at h
      · exact ih h
      · cases h
        exact .inl rfl
    · cases h
      exact .inl rfl

/-- What flattening comes to: a graph that is made of the same nodes, unless something that is
merged is no mapping, or too many mappings are to be entered. -/
structure Flattens (ns : List Node) (graph : α → Graph) (x : Except Fault α) : Prop where
  ok {a : α} (h : x = .ok a) : (graph a).MadeOf ns
  error {f : Fault} (h : x = .error f) : f = .malformed ∨ f = .tooDeep

theorem flattens_error {graph : α → Graph} (hf : f = .malformed ∨ f = .tooDeep) :
    Flattens ns graph (.error f) where
  ok h := nomatch h
  error h := by
    cases h
    exact hf

/-- A loop flattens if each of its steps does. -/
theorem flattens_foldlM {step : Graph × β → α → Except Fault (Graph × β)} (xs : List α)
    (hstep : ∀ acc x, acc.1.MadeOf ns → Flattens ns Prod.fst (step acc x)) (b : β)
    (hg : g.MadeOf ns) : Flattens ns Prod.fst (xs.foldlM step (g, b)) := by
  induction xs generalizing g b with
  | nil => exact ⟨fun h => by cases h; exact hg, nofun⟩
  | cons x xs ih =>
    rw [List.foldlM_cons]
    have hx := hstep (g, b) x hg
    cases hr : step (g, b) x with
    | error f =>
      rw [hr] at hx
      exact flattens_error (hx.error rfl)
    | ok acc =>
      rw [hr] at hx
      exact ih acc.2 (hx.ok rfl)

theorem Flattens.map {β : Type} {graph : α → Graph} {graph' : β → Graph} {x : Except Fault α}
    {k : α → β} (hx : Flattens ns graph x) (hk : ∀ a, graph' (k a) = graph a) :
    Flattens ns graph' (x.map k) := by
  cases hr : x with
  | error f =>
    exact flattens_error (hx.error hr)
  | ok a =>
    refine ⟨fun h => ?_, nofun⟩
    cases h
    rw [hk]
    exact hx.ok hr

theorem flattens_inside {graph : α → Graph} {room : Nat} {x : Nat → Except Fault α}
    (hx : ∀ room, Flattens ns graph (x room)) : Flattens ns graph (inside room x) := by
  cases room with
  | zero => exact flattens_error (.inr rfl)
  | succ room => exact hx room

theorem MadeOf.flattened (hg : g.MadeOf ns) (id : Nat) (es es' : List (Nat × Nat)) :
    Flattens ns (fun g => g) (.ok ((g.setEntries id es).plainKeys es')) where
  ok h := by
    cases h
    exact hg.setEntries.plainKeys
  error h := nomatch h

/-- Flattening keeps what a graph is made of. -/
theorem flattens_flatten {fuel room : Nat} {brought : List (Nat × Nat)} (hg : g.MadeOf ns) :
    Flattens ns (fun g => g) (flatten fuel room g id brought) := by
  induction fuel generalizing room g id brought with
  | zero =>
    unfold flatten
    dsimp only
    split
    · exact hg.flattened ..
    · exact flattens_error (.inl rfl)
  | succ fuel ih =>
    unfold flatten
    dsimp only
    split
    · exact hg.flattened ..
    · next e _ =>
      have hmapping {g : Graph} (i : Nat) (hg : g.MadeOf ns) : Flattens ns Prod.fst
          (inside room fun room => (flatten fuel room g i []).map fun g => (g, g.entriesOf i)) :=
        flattens_inside fun _ => (ih hg).map fun _ => rfl
      split
      case' h_1 f hmerged => refine flattens_error ((?_ : Flattens ns Prod.fst _).error hmerged)
      case' h_2 g more hmerged => refine ih ((?_ : Flattens ns Prod.fst _).ok hmerged)
      -- what is merged comes from one mapping or several, whatever comes of it
      all_goals
        split
        · refine flattens_foldlM _ (fun acc i hacc => ?_) _ hg.setEntries
          refine Flattens.map ?_ fun _ => rfl
          split
          · exact hmapping i hacc
          · exact flattens_error (.inl rfl)
        · split
          · exact hmapping _ hg.setEntries
          · exact flattens_error (.inl rfl)

end Graph

/-! ## Values -/

namespace Making

/-- Making values keeps what the graph is made of, and comes to no faults but those of scalars, of
values that cannot be put together, and of mappings that lie too deep. -/
abbrev Sound (ns : List Node) (x : Make α) : Prop :=
  Guarded (fun m : Making => m.graph.MadeOf ns)
    (fun f => (f = .malformed ∨ f = .tooDeep) ∨ f.OfScalar ns) x

theorem sound_throw {f : Fault} (hf : f = .malformed ∨ f = .tooDeep) :
    Sound ns (throw f : Make α) where
  ok _ h := nomatch h
  error _ h := by
    cases h
    exact .inl hf

theorem sound_fail : Sound ns (throw .malformed : Make α) := sound_throw (.inl rfl)

/-- The fault of a thing is that of a scalar: of nothing and of texts, there is none. -/
theorem fault_thingOf {g : Graph} {id : Nat} {v : Vertex} {f : Fault} (hg : g.MadeOf ns)
    (hv : g.vertex? id = some v) (h : thingOf g id v = .error f) :
    (f = .malformed ∨ f = .tooDeep) ∨ f.OfScalar ns := by
  unfold thingOf at h
  split at h
  · cases h
  · split at h
    · next htext =>
      cases h
      exact .inl (Graph.fault_textOf htext)
    · next text htext =>
      replace h := map_eq_error_iff.1 h
      rcases (hg id v hv).tag with htag | htag | htag
      · rw [htag] at h
        cases h
      · rw [htag] at h
        cases h
      · exact .inr ⟨v.tag, htag, text, hg.text_mem htext, id, _, h⟩

theorem sound_make (id : Nat) : Sound ns (make id) where
  ok hm h := by
    unfold make at h
    split at h
    · cases h
      exact hm
    · cases h
    · split at h
      · cases h
      · cases h
        exact hm
  error hm h := by
    unfold make at h
    split at h
    · cases h
    · cases h
      exact .inl (.inl rfl)
    · next hv _ =>
      split at h
      · next hthing =>
        cases h
        exact fault_thingOf hm hv hthing
      · cases h

theorem sound_makeKey (id : Nat) : Sound ns (makeKey id) := by
  refine (sound_make id).bind fun t => ?_
  split
  · exact .pure _
  · exact sound_fail

theorem sound_makePair (id : Nat) : Sound ns (makePair id) := by
  refine .get_bind fun m _ => ?_
  split
  · exact (sound_make _).bind fun _ => (sound_make _).bind fun _ => .pure _
  · exact sound_fail

theorem sound_setGraph {m : Making} {g : Graph} (hg : g.MadeOf ns) :
    Sound ns (set { m with graph := g } : Make Unit) where
  ok _ h := by
    cases h
    exact hg
  error _ h := nomatch h

theorem sound_makeEntries (id : Nat) : Sound ns (makeEntries id) := by
  refine .get_bind fun m hm => ?_
  split
  · next hflat => exact sound_throw ((Graph.flattens_flatten hm).error hflat)
  · next g hflat =>
    refine (sound_setGraph ((Graph.flattens_flatten hm).ok hflat)).bind fun _ =>
      .foldlM (fun es e => ?_) _ _
    exact (sound_makeKey _).bind fun _ => (sound_make _).bind fun _ => .pure _

theorem sound_filling (id : Nat) (v : Vertex) : Sound ns (filling id v) := by
  unfold filling
  split
  · exact (Guarded.mapM sound_make _).bind fun _ => .pure _
  iterate 2 exact (Guarded.mapM sound_makePair _).bind fun _ => .pure _
  iterate 2 exact (sound_makeEntries id).bind fun _ => .pure _
  exact sound_fail

theorem sound_fill (id : Nat) : Sound ns (fill id) := by
  refine .get_bind fun m _ => ?_
  split
  · exact sound_fail
  · refine (sound_filling ..).bind fun f => ⟨fun hm h => ?_, nofun⟩
    cases h
    exact hm

theorem sound_fillAll (fuel k : Nat) : Sound ns (fillAll fuel k) := by
  induction fuel generalizing k with
  | zero => exact sound_fail
  | succ fuel ih =>
    refine .get_bind fun m _ => ?_
    split
    · exact .pure _
    · exact (sound_fill _).bind fun _ => ih _

theorem fault_valueAt {g : Graph} {root : Nat} {f : Fault} (hg : g.MadeOf ns)
    (h : valueAt g root = .error f) : (f = .malformed ∨ f = .tooDeep) ∨ f.OfScalar ns := by
  have hall : Sound ns (do
      let t ← make root
      fillAll (g.size + 1) 0
      return t) :=
    (sound_make root).bind fun _ => (sound_fillAll _ _).bind fun _ => .pure _
  exact hall.error hg (map_eq_error_iff.1 h)

end Making

/-! ## Documents -/

/-- A document cannot be read for one of these reasons: it is badly formed, its bytes are broken off
by a flaw, there is a fault in its characters, its tree or the values of the tree lie too deep, or
there is a fault in a scalar of its tree. -/
theorem fault_readDocument {s : Source} {f : Fault} (h : readDocument s = .error f) :
    f = .malformed ∨ s.flaw = some f ∨
      (Tokens.ofSource s).fault = some f ∧ f.isLexical = true ∨
      f = .tooDeep ∧ Node.ofTokens? (Tokens.ofSource s) = .error .tooDeep ∨
      ∃ root, Node.ofTokens? (Tokens.ofSource s) = .ok (some root) ∧
        (f = .tooDeep ∧ Making.valueAt (Graph.ofNode root) root.id = .error .tooDeep ∨
          f.OfScalar root.nodes) := by
  unfold readDocument at h
  split at h
  · next htree =>
    cases h
    rcases Node.fault_ofTokens htree with rfl | rfl | hf
    · exact .inl rfl
    · exact .inr (.inr (.inr (.inl ⟨rfl, htree⟩)))
    · exact .inr ((Tokens.fault_ofSource hf).imp_right fun hl => .inl ⟨hf, hl⟩)
  · cases h
  · next root htree =>
    rcases Making.fault_valueAt (Graph.madeOf_ofNode root) h with (rfl | rfl) | hf
    · exact .inl rfl
    · exact .inr (.inr (.inr (.inr ⟨root, htree, .inl ⟨rfl, h⟩⟩)))
    · exact .inr (.inr (.inr (.inr ⟨root, htree, .inr hf⟩)))

/-- A source of which nothing is left is read as far as its flaw. -/
theorem readDocument_nil (f : Fault) : readDocument ⟨[], some f⟩ = .error f := by
  unfold readDocument
  rw [Tokens.ofSource_nil]
  rfl

end LineShell.Yaml
