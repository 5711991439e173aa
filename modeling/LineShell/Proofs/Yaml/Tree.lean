import LineShell.Proofs.Yaml.Lexing
import LineShell.Yaml.Node

/-!
# The faults of building trees

A tree is built by a computation with a state. That such a computation comes to no faults but some
is a property that goes through sequences and choices (`Guarded`), so what is proved of each
construct of the grammar follows the way in which the construct is put together. The constructs call
each other, and so all are shown to be sound at once, by induction on the fuel
(`Build.grammarSound`). There is no tree if the form is wrong, if collections lie too deep in each
other, or if the tokens end early (`Node.fault_ofTokens`).
-/

namespace LineShell.Yaml

variable {σ α β : Type}

/-! ## Computations that fail in certain ways only -/

/-- A part of a computation keeps `I`, and comes to no faults but those of which `P` holds. -/
structure Guarded (I : σ → Prop) (P : Fault → Prop) (x : StateT σ (Except Fault) α) : Prop where
  ok {s t : σ} {a : α} (hs : I s) (h : x s = .ok (a, t)) : I t
  error {s : σ} {f : Fault} (hs : I s) (h : x s = .error f) : P f

namespace Guarded

variable {I : σ → Prop} {P : Fault → Prop} {x : StateT σ (Except Fault) α}
  {f : α → StateT σ (Except Fault) β}

theorem pure (a : α) : Guarded I P (Pure.pure a : StateT σ (Except Fault) α) where
  ok hs h := by
    cases h
    exact hs
  error _ h := nomatch h

theorem bind (hx : Guarded I P x) (hf : ∀ a, Guarded I P (f a)) : Guarded I P (x >>= f) := by
  have hrun (s : σ) : (x >>= f) s = (x s).bind fun r => f r.1 r.2 := rfl
  constructor
  · intro s t b hs h
    rw [hrun] at h
    cases hr : x s with
    | error g =>
      rw [hr] at h
      cases h
    | ok r =>
      rw [hr] at h
      exact (hf r.1).ok (hx.ok hs hr) h
  · intro s g hs h
    rw [hrun] at h
    cases hr : x s with
    | error g' =>
      rw [hr] at h
      cases h
      exact hx.error hs hr
    | ok r =>
      rw [hr] at h
      exact (hf r.1).error (hx.ok hs hr) h

/-- What is done with the state may rely on what holds of it. -/
theorem get_bind {f : σ → StateT σ (Except Fault) β} (hf : ∀ s, I s → Guarded I P (f s)) :
    Guarded I P (get >>= f) where
  ok hs h := (hf _ hs).ok hs h
  error hs h := (hf _ hs).error hs h

theorem mapM {g : α → StateT σ (Except Fault) β} (hg : ∀ a, Guarded I P (g a)) (xs : List α) :
    Guarded I P (xs.mapM g) := by
  induction xs with
  | nil =>
    rw [List.mapM_nil]
    exact .pure _
  | cons x xs ih =>
    rw [List.mapM_cons]
    exact (hg x).bind fun _ => ih.bind fun _ => .pure _

theorem foldlM {g : β → α → StateT σ (Except Fault) β} (hg : ∀ b a, Guarded I P (g b a))
    (init : β) (xs : List α) : Guarded I P (xs.foldlM g init) := by
  induction xs generalizing init with
  | nil => exact .pure _
  | cons x xs ih =>
    rw [List.foldlM_cons]
    exact (hg init x).bind fun _ => ih _

end Guarded

/-! ## Trees -/

namespace Build

variable {r : Fault}

/-- Building a tree does not change the fault that the tokens end with, and comes to no other one
but that the form is wrong or collections lie too deep. -/
abbrev Sound (r : Fault) (x : Build α) : Prop :=
  Guarded (fun b : Building => b.ranOut = r) (fun f => f = .malformed ∨ f = .tooDeep ∨ f = r) x

theorem sound_of {x : Build α}
    (h : ∀ b, x b = .error .malformed ∨ x b = .error b.ranOut ∨
      ∃ a b', x b = .ok (a, b') ∧ b'.ranOut = b.ranOut) : Sound r x := by
  constructor
  · intro b b' a hb hx
    grind
  · intro b f hb hx
    grind

theorem sound_peek : Sound r peek := sound_of fun b => by
  cases ht : b.tokens with
  | nil => exact .inr (.inl (by simp only [peek, ht]))
  | cons t ts => exact .inr (.inr ⟨t, b, by simp only [peek, ht], rfl⟩)

theorem sound_fail : Sound r (fail : Build α) := sound_of fun _ => .inl rfl

theorem sound_drop : Sound r drop := sound_of fun _ => .inr (.inr ⟨_, _, rfl, rfl⟩)

theorem sound_fresh : Sound r fresh := sound_of fun _ => .inr (.inr ⟨_, _, rfl, rfl⟩)

theorem sound_name (n : List Char) (id : Nat) : Sound r (name n id) := sound_of fun b => by
  grind [name]

theorem sound_named (n : List Char) : Sound r (named n) := sound_of fun b => by
  grind [named]

theorem sound_fullTag (handle : Option (List Char)) (suffix : List Char) :
    Sound r (fullTag handle suffix) := sound_of fun b => by
  cases handle <;> grind [fullTag]

theorem sound_deeper {x : Build α} (hx : Sound r x) : Sound r (deeper x) := by
  have hrun {room : Nat} {b : Building} (hb : b.room = room + 1) :
      deeper x b = (x { b with room := room }).map fun p => (p.1, { p.2 with room := b.room }) := by
    rw [deeper, hb]
  constructor
  · intro b t a hb h
    cases hroom : b.room with
    | zero =>
      rw [deeper, hroom] at h
      cases h
    | succ room =>
      rw [hrun hroom] at h
      obtain ⟨⟨a', b'⟩, hp, hpair⟩ := map_eq_ok_iff.1 h
      have hkept : b'.ranOut = r := hx.ok (by exact hb) hp
      cases hpair
      exact hkept
  · intro b f hb h
    cases hroom : b.room with
    | zero =>
      rw [deeper, hroom] at h
      cases h
      exact .inr (.inl rfl)
    | succ room =>
      rw [hrun hroom] at h
      exact hx.error (by exact hb) (map_eq_error_iff.1 h)

theorem sound_ite {x y : Build α} {p : Prop} [Decidable p] (hx : Sound r x) (hy : Sound r y) :
    Sound r (if p then x else y) := by
  split
  · exact hx
  · exact hy

/-- A separator stands in front of whatever is not the first. -/
theorem sound_separated {x : Build α} (hx : Sound r x) (first : Bool) (t : Token) :
    Sound r (if (!first) = true then do
      let u ← peek
      if (u != t) = true then do
        let _ ← (fail : Build Unit)
        let _ ← drop
        x
      else do
        let _ ← drop
        x
    else x) := by
  refine sound_ite (sound_peek.bind fun u => sound_ite ?_ ?_) hx
  · exact sound_fail.bind fun _ => sound_drop.bind fun _ => hx
  · exact sound_drop.bind fun _ => hx

/-- A node gets its name, if it has one. -/
theorem sound_naming {x : Build α} (hx : Sound r x) (anchor : Option (List Char)) (id : Nat) :
    Sound r (match anchor with
      | some a => do
        let _ ← name a id
        x
      | none => x) := by
  split
  · exact (sound_name ..).bind fun _ => hx
  · exact hx

/-- A block is read where one is allowed. -/
theorem sound_allowed {x : Build α} (hx : Sound r x) (block : Bool) :
    Sound r (if (!block) = true then do
      let _ ← (fail : Build Unit)
      let _ ← drop
      x
    else do
      let _ ← drop
      x) :=
  sound_ite (sound_fail.bind fun _ => sound_drop.bind fun _ => hx) (sound_drop.bind fun _ => hx)

theorem sound_empty : Sound r empty := sound_fresh.bind fun _ => .pure _

theorem sound_properties : Sound r properties := by
  refine sound_peek.bind fun t => ?_
  split
  · refine sound_drop.bind fun _ => sound_peek.bind fun u => ?_
    split
    · exact sound_drop.bind fun _ => (sound_fullTag ..).bind fun _ => .pure _
    · exact .pure _
  · refine sound_drop.bind fun _ => sound_peek.bind fun u => ?_
    split
    · exact sound_drop.bind fun _ => (sound_fullTag ..).bind fun _ => .pure _
    · exact (sound_fullTag ..).bind fun _ => .pure _
  · exact .pure _

/-- All constructs of the grammar are sound when they have this much fuel. -/
structure GrammarSound (r : Fault) (fuel : Nat) : Prop where
  node (block flat : Bool) : Sound r (node fuel block flat)
  blockItems : Sound r (blockItems fuel)
  flatItems : Sound r (flatItems fuel)
  blockEntries : Sound r (blockEntries fuel)
  blockValue : Sound r (blockValue fuel)
  flowItems (first : Bool) : Sound r (flowItems fuel first)
  flowPair : Sound r (flowPair fuel)
  flowEntries (first : Bool) : Sound r (flowEntries fuel first)
  flowValue : Sound r (flowValue fuel)

section Constructs

variable {fuel : Nat}

theorem sound_node (h : GrammarSound r fuel) (block flat : Bool) :
    Sound r (node (fuel + 1) block flat) := by
  unfold node
  refine sound_peek.bind fun t => ?_
  split
  · exact sound_drop.bind fun _ => sound_named _
  · refine sound_properties.bind fun p => sound_fresh.bind fun id => sound_peek.bind fun u => ?_
    refine sound_naming ?_ p.1 id
    split
    · exact sound_drop.bind fun _ => .pure _
    · exact sound_drop.bind fun _ => (sound_deeper (h.flowItems _)).bind fun _ => .pure _
    · exact sound_drop.bind fun _ => (sound_deeper (h.flowEntries _)).bind fun _ => .pure _
    · exact sound_allowed ((sound_deeper h.blockItems).bind fun _ => .pure _) block
    · exact sound_allowed ((sound_deeper h.blockEntries).bind fun _ => .pure _) block
    · split
      · exact (sound_deeper h.flatItems).bind fun _ => .pure _
      · exact sound_ite (.pure _) sound_fail
    · exact sound_ite (.pure _) sound_fail

theorem sound_blockItems (h : GrammarSound r fuel) : Sound r (blockItems (fuel + 1)) := by
  unfold blockItems
  refine sound_peek.bind fun t => ?_
  split
  · refine sound_drop.bind fun _ => sound_peek.bind fun u => ?_
    split
    iterate 2 exact sound_empty.bind fun _ => h.blockItems.bind fun _ => .pure _
    exact (h.node ..).bind fun _ => h.blockItems.bind fun _ => .pure _
  · exact sound_drop.bind fun _ => .pure _
  · exact sound_fail

theorem sound_flatItems (h : GrammarSound r fuel) : Sound r (flatItems (fuel + 1)) := by
  unfold flatItems
  refine sound_peek.bind fun t => ?_
  split
  · refine sound_drop.bind fun _ => sound_peek.bind fun u => ?_
    split
    iterate 4 exact sound_empty.bind fun _ => h.flatItems.bind fun _ => .pure _
    exact (h.node ..).bind fun _ => h.flatItems.bind fun _ => .pure _
  · exact .pure _

theorem sound_blockEntries (h : GrammarSound r fuel) : Sound r (blockEntries (fuel + 1)) := by
  unfold blockEntries
  have hrest (k : Node) : Sound r (do
      let v ← blockValue fuel
      return (k, v) :: (← blockEntries fuel)) :=
    h.blockValue.bind fun _ => h.blockEntries.bind fun _ => .pure _
  refine sound_peek.bind fun t => ?_
  split
  · refine sound_drop.bind fun _ => sound_peek.bind fun u => ?_
    dsimp only
    split
    iterate 3 exact sound_empty.bind hrest
    exact (h.node ..).bind hrest
  · exact sound_drop.bind fun _ => .pure _
  · exact sound_fail

theorem sound_blockValue (h : GrammarSound r fuel) : Sound r (blockValue (fuel + 1)) := by
  unfold blockValue
  refine sound_peek.bind fun t => ?_
  split
  · refine sound_drop.bind fun _ => sound_peek.bind fun u => ?_
    split
    iterate 3 exact sound_empty
    exact h.node ..
  · exact sound_empty

theorem sound_flowItems (h : GrammarSound r fuel) (first : Bool) :
    Sound r (flowItems (fuel + 1) first) := by
  unfold flowItems
  refine sound_peek.bind fun t => ?_
  split
  · exact sound_drop.bind fun _ => .pure _
  refine sound_separated (sound_peek.bind fun u => ?_) first .flowEntry
  split
  · exact sound_drop.bind fun _ => .pure _
  · exact sound_drop.bind fun _ => sound_fresh.bind fun id =>
      (sound_deeper h.flowPair).bind fun _ => (h.flowItems _).bind fun _ => .pure _
  · exact (h.node ..).bind fun _ => (h.flowItems _).bind fun _ => .pure _

theorem sound_flowPair (h : GrammarSound r fuel) : Sound r (flowPair (fuel + 1)) := by
  unfold flowPair
  have hrest (k : Node) : Sound r (do return (k, ← flowValue fuel)) :=
    h.flowValue.bind fun _ => .pure _
  refine sound_peek.bind fun t => ?_
  dsimp only
  split
  iterate 3 exact sound_empty.bind hrest
  exact (h.node ..).bind hrest

theorem sound_flowEntries (h : GrammarSound r fuel) (first : Bool) :
    Sound r (flowEntries (fuel + 1) first) := by
  unfold flowEntries
  refine sound_peek.bind fun t => ?_
  split
  · exact sound_drop.bind fun _ => .pure _
  refine sound_separated (sound_peek.bind fun u => ?_) first .flowEntry
  split
  · exact sound_drop.bind fun _ => .pure _
  · refine sound_drop.bind fun _ => sound_peek.bind fun w => ?_
    have hrest (k : Node) : Sound r (do
        let v ← flowValue fuel
        return (k, v) :: (← flowEntries fuel false)) :=
      h.flowValue.bind fun _ => (h.flowEntries _).bind fun _ => .pure _
    dsimp only
    split
    iterate 3 exact sound_empty.bind hrest
    exact (h.node ..).bind hrest
  · exact (h.node ..).bind fun _ => sound_empty.bind fun _ => (h.flowEntries _).bind fun _ =>
      .pure _

theorem sound_flowValue (h : GrammarSound r fuel) : Sound r (flowValue (fuel + 1)) := by
  unfold flowValue
  refine sound_peek.bind fun t => ?_
  split
  · refine sound_drop.bind fun _ => sound_peek.bind fun u => ?_
    split
    iterate 3 exact sound_empty
    exact h.node ..
  · exact sound_empty

end Constructs

/-- All constructs of the grammar are sound: each with more fuel if all are with less. -/
theorem grammarSound (fuel : Nat) : GrammarSound r fuel := by
  induction fuel with
  | zero => constructor <;> intros <;> exact sound_fail
  | succ fuel ih =>
    exact ⟨sound_node ih, sound_blockItems ih, sound_flatItems ih, sound_blockEntries ih,
      sound_blockValue ih, sound_flowItems ih, sound_flowPair ih, sound_flowEntries ih,
      sound_flowValue ih⟩

theorem sound_directives (fuel : Nat) (version : Bool)
    (handles : List (List Char × List Char)) : Sound r (directives fuel version handles) := by
  induction fuel generalizing version handles with
  | zero => exact sound_fail
  | succ fuel ih =>
    unfold directives
    refine sound_peek.bind fun t => ?_
    split
    · exact sound_drop.bind fun _ => sound_ite sound_fail (ih ..)
    · exact sound_drop.bind fun _ => sound_ite sound_fail (ih ..)
    · exact sound_drop.bind fun _ => ih ..
    · exact .pure _

theorem sound_handles (handles : List (List Char × List Char)) :
    Sound r (modify fun b => { b with handles := handles }) :=
  sound_of fun _ => .inr (.inr ⟨_, _, rfl, rfl⟩)

theorem sound_opening (fuel : Nat) : Sound r (opening fuel) := by
  refine (sound_directives ..).bind fun handles => sound_peek.bind fun t => ?_
  dsimp only
  refine sound_ite ?_ ?_
  · exact sound_fail.bind fun _ => sound_drop.bind fun _ => sound_handles handles
  · exact sound_drop.bind fun _ => sound_handles handles

theorem sound_skipEnds (fuel : Nat) : Sound r (skipEnds fuel) := by
  induction fuel with
  | zero => exact sound_fail
  | succ fuel ih =>
    refine sound_peek.bind fun t => sound_ite ?_ (.pure _)
    exact sound_drop.bind fun _ => ih

theorem sound_document : Sound r document := by
  refine .bind (sound_of fun b => .inr (.inr ⟨b, b, rfl, rfl⟩)) fun b => sound_peek.bind fun t => ?_
  have hrest (root : Node) : Sound r (do
      skipEnds (fuelFor b.tokens)
      if (← peek) == .streamEnd then return some root
      opening (fuelFor b.tokens)
      fail) :=
    (sound_skipEnds _).bind fun _ => sound_peek.bind fun t =>
      sound_ite (.pure _) ((sound_opening _).bind fun _ => sound_fail)
  dsimp only
  split
  · exact .pure _
  iterate 2
    refine (sound_opening _).bind fun _ => sound_peek.bind fun t => ?_
    split
    iterate 4 exact sound_empty.bind hrest
    exact ((grammarSound _).node ..).bind hrest
  exact (sound_handles _).bind fun _ => ((grammarSound _).node ..).bind hrest

end Build

/-- Tokens make no tree only if they are badly put together, nested too deep, or end early. -/
theorem Node.fault_ofTokens {ts : Tokens} {f : Fault} (h : ofTokens? ts = .error f) :
    f = .malformed ∨ f = .tooDeep ∨ ts.fault = some f := by
  replace h := map_eq_error_iff.1 h
  rcases Build.sound_document.error rfl h with rfl | rfl | hf
  · exact .inl rfl
  · exact .inr (.inl rfl)
  · dsimp only at hf
    cases hfault : ts.fault with
    | none =>
      rw [hfault] at hf
      exact .inl hf
    | some g =>
      rw [hfault] at hf
      exact .inr (.inr (congrArg some hf.symm))

end LineShell.Yaml
