import LineShell.Value.Basic

/-!
# The parts of a mapping

A value that contains itself ends where it comes back. Where that is depends on where one began: a
part that is taken out of a mapping begins anew, so what it holds is unfolded again, down to the
place where it comes back in the part (`Value.parts`).

* `Value.collections` - the collections inside a value, by their labels
* `Value.unfold` - a value with the places where something comes back filled in
* `Value.parts` - the entries of a mapping, each as it is by itself

## Termination

`Value.unfold` is recursive in the value alone, and is given what is to stand where something comes
back. `Value.byItself` is recursive in its fuel: whatever is filled in bears a label that none of
the collections around it has, so there are no more rounds than labels.
-/

namespace LineShell.Value

/-! ## Collections by label -/

/-- What a value is found under, if it has a label. -/
def labelled (label : Option Nat) (v : Value) : List (Nat × Value) :=
  match label with
  | some l => [(l, v)]
  | none => []

mutual

/-- The collections inside a value, each in full, by their labels. -/
def collections : Value → List (Nat × Value)
  | list l items => labelled l (list l items) ++ collectionsOf items
  | tuple l items => labelled l (tuple l items) ++ collectionsOf items
  | map l entries => labelled l (map l entries) ++ collectionsUnder entries
  | _ => []

/-- The collections inside the values of a list. -/
def collectionsOf : List Value → List (Nat × Value)
  | [] => []
  | v :: vs => v.collections ++ collectionsOf vs

/-- The collections inside the values of entries. Keys are none and hold none. -/
def collectionsUnder : List (Value × Value) → List (Nat × Value)
  | [] => []
  | (_, v) :: rest => v.collections ++ collectionsUnder rest

end

/-! ## Unfolding -/

/-- The labels around what a collection with this label holds. -/
def within (label : Option Nat) (path : List Nat) : List Nat := label.toList ++ path

/-- Whether a label is one of those around it. -/
def comesBack (label : Option Nat) (path : List Nat) : Bool := label.any path.contains

mutual

/-- A value inside of collections with the labels of `path`: it ends where one of these comes back,
and holds what `fill` gives where something else does. -/
def unfold (fill : List Nat → Nat → Shape → Value) (path : List Nat) : Value → Value
  | list l items =>
    if comesBack l path then again (l.getD 0) .list
    else list l (unfoldAll fill (within l path) items)
  | tuple l items => tuple l (unfoldAll fill path items)
  | map l entries =>
    if comesBack l path then again (l.getD 0) .mapping
    else map l (unfoldUnder fill (within l path) entries)
  | again l shape => if path.contains l then again l shape else fill path l shape
  | v => v

/-- Unfolds the values of a list. -/
def unfoldAll (fill : List Nat → Nat → Shape → Value) (path : List Nat) : List Value → List Value
  | [] => []
  | v :: vs => v.unfold fill path :: unfoldAll fill path vs

/-- Unfolds the values of entries. -/
def unfoldUnder (fill : List Nat → Nat → Shape → Value) (path : List Nat) :
    List (Value × Value) → List (Value × Value)
  | [] => []
  | (k, v) :: rest => (k, v.unfold fill path) :: unfoldUnder fill path rest

end

/-- A value as it is by itself: where something comes back that is not around it, there stands the
one of `whole` with that label. -/
def byItself (whole : List (Nat × Value)) : (fuel : Nat) → (path : List Nat) → Value → Value
  | 0, _, v => v
  | fuel + 1, path, v =>
    v.unfold (fun path l shape =>
      match whole.lookup l with
      | some c => byItself whole fuel path c
      | none => again l shape) path

/-! ## Parts -/

mutual

/-- Whether nothing in a value comes back. -/
def isTree : Value → Bool
  | list _ items => areTrees items
  | tuple _ items => areTrees items
  | map _ entries => entriesAreTrees entries
  | again .. => false
  | _ => true

/-- Whether nothing in the values of a list comes back. -/
def areTrees : List Value → Bool
  | [] => true
  | v :: vs => v.isTree && areTrees vs

/-- Whether nothing in the values of entries comes back. -/
def entriesAreTrees : List (Value × Value) → Bool
  | [] => true
  | (_, v) :: rest => v.isTree && entriesAreTrees rest

end

/-- The entries of a mapping, each as it is by itself. Where nothing comes back, they are so
already. -/
def parts : Value → List (Value × Value)
  | map l entries =>
    if (map l entries).isTree then entries
    else
      let whole := collections (map l entries)
      entries.map fun e => (e.1, byItself whole (whole.length + 1) [] e.2)
  | _ => []

theorem parts_of_isTree {l : Option Nat} {entries : List (Value × Value)}
    (h : (map l entries).isTree = true) : (map l entries).parts = entries := by
  rw [parts, if_pos h]

end LineShell.Value
