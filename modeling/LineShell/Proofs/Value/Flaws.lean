import LineShell.Value.Text

/-!
# Values without a text

A value has a text unless a whole number in it is too long or it has too many levels, whatever is
met first in showing it (`flaw?_eq_none_iff`); and the flaw that is met is one that it has
(`of_flaw?`).

Values hold lists of values and of entries, so each fact is proved of all three at once, by
recursion on the value.
-/

namespace LineShell.Value

variable {v : Value} {w : Flaw}

mutual

/-- How many levels a value has: one, and those of the deepest thing that it holds. -/
def levels : Value → Nat
  | list _ items => levelsOf items + 1
  | tuple _ items => levelsOf items + 1
  | set _ items => levelsOf items + 1
  | map _ entries => levelsAmong entries + 1
  | _ => 1

/-- The most levels of the values of a list. -/
def levelsOf : List Value → Nat
  | [] => 0
  | v :: vs => max v.levels (levelsOf vs)

/-- The most levels of the keys and values of entries. -/
def levelsAmong : List (Value × Value) → Nat
  | [] => 0
  | (k, v) :: rest => max k.levels (max v.levels (levelsAmong rest))

end

mutual

/-- The whole numbers in a value. -/
def numbers : Value → List Int
  | int n => [n]
  | list _ items => numbersOf items
  | tuple _ items => numbersOf items
  | set _ items => numbersOf items
  | map _ entries => numbersAmong entries
  | _ => []

/-- The whole numbers in the values of a list. -/
def numbersOf : List Value → List Int
  | [] => []
  | v :: vs => v.numbers ++ numbersOf vs

/-- The whole numbers in the keys and values of entries. -/
def numbersAmong : List (Value × Value) → List Int
  | [] => []
  | (k, v) :: rest => k.numbers ++ (v.numbers ++ numbersAmong rest)

end

/-- What a flaw is, of something with these whole numbers and so many levels, where there is room
for so many. -/
def Flaw.Of (numbers : List Int) (levels room : Nat) : Flaw → Prop
  | longNumber => ∃ n ∈ numbers, isLong n = true
  | tooDeep => room < levels

/-- What was found tells the flaws of such a thing: it is one of them, or there are none. -/
def Tells (found : Option Flaw) (numbers : List Int) (levels room : Nat) : Prop :=
  match found with
  | some w => w.Of numbers levels room
  | none => ∀ w : Flaw, ¬w.Of numbers levels room

section Tells

variable {f g : Option Flaw} {ns ms : List Int} {j k room : Nat}

/-- Where nothing is held, there is nothing to find. -/
theorem tells_nothing (room : Nat) : Tells none [] 0 room := by
  rintro (_ | _)
  · rintro ⟨_, hn, -⟩
    cases hn
  · exact Nat.not_lt_zero _

/-- What several things hold together has a flaw exactly if one of them has it. -/
theorem of_append_iff : w.Of (ns ++ ms) (max j k) room ↔ w.Of ns j room ∨ w.Of ms k room := by
  cases w with
  | longNumber => simp [Flaw.Of, or_and_right, exists_or]
  | tooDeep =>
    simp only [Flaw.Of]
    omega

/-- What is found first tells the flaws of several things. -/
theorem Tells.or (hf : Tells f ns j room) (hg : Tells g ms k room) :
    Tells (f.or g) (ns ++ ms) (max j k) room := by
  cases f with
  | some w => exact of_append_iff.2 (.inl hf)
  | none =>
    cases g with
    | some w => exact of_append_iff.2 (.inr hg)
    | none => exact fun w h => (of_append_iff.1 h).elim (hf w) (hg w)

/-- What is held lies one level deeper, where there is room for one level less. -/
theorem Tells.deeper (hf : Tells f ns k room) : Tells f ns (k + 1) (room + 1) := by
  have hiff (w : Flaw) : w.Of ns (k + 1) (room + 1) ↔ w.Of ns k room := by
    cases w with
    | longNumber => exact Iff.rfl
    | tooDeep => exact Nat.add_lt_add_iff_right
  cases f with
  | some w => exact (hiff w).2 hf
  | none => exact fun w h => hf w ((hiff w).1 h)

/-- A whole number has a flaw if it is too long. -/
theorem tells_number (room : Nat) {n : Int} {long : Bool} (h : isLong n = long) :
    Tells (if long then some .longNumber else none) [n] 1 (room + 1) := by
  cases long with
  | true => exact ⟨n, List.mem_singleton_self n, h⟩
  | false =>
    rintro (_ | _)
    · rintro ⟨m, hm, hlong⟩
      rw [List.mem_singleton.1 hm, h] at hlong
      cases hlong
    · exact Nat.not_lt.2 (Nat.le_add_left 1 room)

theorem levels_pos (v : Value) : 0 < v.levels := by
  cases v <;> simp [levels]

mutual

/-- What is met first in showing a value tells its flaws. -/
theorem tells_flawWithin : (room : Nat) → (v : Value) →
    Tells (v.flawWithin room) v.numbers v.levels room
  | 0, v => by
    rw [flawWithin]
    exact v.levels_pos
  | room + 1, int n => by
    simp only [flawWithin, numbers, levels]
    exact tells_number room rfl
  | room + 1, list _ items => (tells_flawOf room items).deeper
  | room + 1, tuple _ items => (tells_flawOf room items).deeper
  | room + 1, set _ items => (tells_flawOf room items).deeper
  | room + 1, map _ entries => (tells_flawAmong room entries).deeper
  | room + 1, null | room + 1, bool _ | room + 1, float _ | room + 1, nan _ | room + 1, str _
  | room + 1, bytes _ | room + 1, date .. | room + 1, stamp .. | room + 1, again .. =>
    (tells_nothing room).deeper

theorem tells_flawOf (room : Nat) : (vs : List Value) →
    Tells (flawOf room vs) (numbersOf vs) (levelsOf vs) room
  | [] => tells_nothing room
  | v :: vs => (tells_flawWithin room v).or (tells_flawOf room vs)

theorem tells_flawAmong (room : Nat) : (es : List (Value × Value)) →
    Tells (flawAmong room es) (numbersAmong es) (levelsAmong es) room
  | [] => tells_nothing room
  | (k, v) :: es =>
    (tells_flawWithin room k).or ((tells_flawWithin room v).or (tells_flawAmong room es))

end

end Tells

/-- **A value has a text exactly if no whole number in it is too long and it has not too many
levels.** -/
theorem flaw?_eq_none_iff : v.flaw? = none ↔
    (∀ n ∈ v.numbers, isLong n = false) ∧ v.levels ≤ maxLevels := by
  have htells := tells_flawWithin maxLevels v
  rw [flaw?]
  cases h : v.flawWithin maxLevels with
  | none =>
    rw [h] at htells
    refine iff_of_true rfl ⟨fun n hn => ?_, Nat.not_lt.1 (htells .tooDeep)⟩
    exact Bool.eq_false_iff.2 fun hlong => htells .longNumber ⟨n, hn, hlong⟩
  | some w =>
    rw [h] at htells
    refine iff_of_false nofun ?_
    rintro ⟨hshort, hlevels⟩
    cases w with
    | longNumber =>
      obtain ⟨n, hn, hlong⟩ := htells
      cases (hshort n hn).symm.trans hlong
    | tooDeep => exact Nat.not_lt.2 hlevels htells

/-- The flaw that keeps a value from having a text is one that it has. -/
theorem of_flaw? (h : v.flaw? = some w) : w.Of v.numbers v.levels maxLevels := by
  have htells := tells_flawWithin maxLevels v
  rw [show v.flawWithin maxLevels = some w from h] at htells
  exact htells

end LineShell.Value
