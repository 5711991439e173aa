/-!
# Paths

A path as a text, taken apart at its slashes. Empty steps and single dots say nothing and are
dropped; steps up (`..`) stay, because what they mean depends on the files.
-/

namespace LineShell

/-- A path: the slashes that make it absolute, and its steps. -/
structure Path where
  root : String
  steps : List String
deriving DecidableEq, Repr, Inhabited

namespace Path

/-- Cuts a text at every slash. -/
def cut : List Char → List (List Char)
  | [] => [[]]
  | c :: cs =>
    if c = '/' then [] :: cut cs
    else match cut cs with
      | [] => [[c]]
      | s :: ss => (c :: s) :: ss

/-- Whether a step leads anywhere. -/
def leads (s : List Char) : Bool := s != [] && s != ['.']

/-- The slashes that a path begins with, as far as they count: two mean something of their own,
three are one. -/
def rootOf : List Char → String
  | '/' :: '/' :: '/' :: _ => "/"
  | '/' :: '/' :: _ => "//"
  | '/' :: _ => "/"
  | _ => ""

/-- Takes a text apart. -/
def ofString (s : String) : Path :=
  ⟨rootOf s.toList, ((cut s.toList).filter leads).map String.ofList⟩

/-- The path as a text; one that leads nowhere is a dot. -/
def render (p : Path) : String :=
  if p.root.isEmpty && p.steps.isEmpty then "."
  else p.root ++ "/".intercalate p.steps

/-- The path without its last step. -/
def parent (p : Path) : Path := { p with steps := p.steps.dropLast }

/-- One step further. -/
def child (p : Path) (name : String) : Path := { p with steps := p.steps ++ [name] }

@[simp] theorem parent_child (p : Path) (name : String) : (p.child name).parent = p := by
  simp [parent, child]

end Path

end LineShell
