import LineShell.Text.LetterCase
import Mathlib.Data.List.Basic
import Mathlib.Data.Nat.Bitwise

/-!
# Text in upper case

Raising a text twice is the same as raising it once (`upper_upper`): no character is raised to one
that is raised further.

## How the proof goes

The characters that change (`movedPoints`) and those that something is raised to (`raisedPoints`)
are read off the tables, and no code point is among both. There are too many of them to compare each
with each. So either set is written as one number that has a binary digit for every code point
(`digitsOf`), and the two numbers have no digit in common.
-/

namespace LineShell.Text

variable {c d : Char} {n : Nat} {ns ms : List Nat}

/-! ## Sets of code points as numbers -/

/-- The number whose binary digits say which numbers are in a list. -/
def digitsOf (ns : List Nat) : Nat := ns.foldr (fun n m => 2 ^ n ||| m) 0

theorem testBit_digitsOf (ns : List Nat) (n : Nat) :
    (digitsOf ns).testBit n = true ↔ n ∈ ns := by
  induction ns with
  | nil => simp [digitsOf]
  | cons m ns ih =>
    have hcons : digitsOf (m :: ns) = 2 ^ m ||| digitsOf ns := rfl
    rw [hcons, Nat.testBit_or, Bool.or_eq_true, ih, Nat.testBit_two_pow, decide_eq_true_iff,
      List.mem_cons, eq_comm]

/-- Lists whose numbers have no digit in common have nothing in common. -/
theorem notMem_of_digitsOf (h : digitsOf ns &&& digitsOf ms = 0) (hn : n ∈ ns) : n ∉ ms := by
  intro hm
  have hboth : (digitsOf ns &&& digitsOf ms).testBit n = true := by
    rw [Nat.testBit_and, (testBit_digitsOf ns n).2 hn, (testBit_digitsOf ms n).2 hm]
    rfl
  rw [h, Nat.zero_testBit] at hboth
  cases hboth

/-! ## What is raised, and to what -/

/-- The code points on a run. -/
def Run.points (r : Run) : List Nat := List.range' r.first ((r.last - r.first) / r.step + 1) r.step

theorem Run.mem_points {r : Run} (h : r.covers n) : n ∈ r.points := by
  simp only [covers, Bool.and_eq_true, decide_eq_true_eq, beq_iff_eq] at h
  obtain ⟨⟨hfirst, hlast⟩, hstep⟩ := h
  refine List.mem_range'.2 ⟨(n - r.first) / r.step, ?_, ?_⟩
  · exact Nat.lt_succ_of_le (Nat.div_le_div_right (Nat.sub_le_sub_right hlast r.first))
  · have hdiv := Nat.div_add_mod (n - r.first) r.step
    omega

/-- The code points that change when they are raised. -/
def movedPoints : List Nat :=
  List.range' 0x61 26 ++ (upperRuns.flatMap Run.points ++ upperExpansions.map Prod.fst)

/-- The code points that ASCII and all that changes are raised to. -/
def raisedPoints : List Nat :=
  (List.range 0x80).map (fun n => (Char.ofNat n).toUpper.toNat) ++
    (upperRuns.flatMap (fun r => r.points.map fun n : Nat => (n + r.shift).toNat) ++
      upperExpansions.flatMap Prod.snd)

/-- Nothing is raised to a code point that changes. -/
theorem notMem_movedPoints (h : n ∈ raisedPoints) : n ∉ movedPoints :=
  notMem_of_digitsOf (by decide +kernel) h

/-! ## Raising again -/

theorem mem_upperRuns_points {r : Run} (h : upperRuns.find? (·.covers n) = some r) :
    r ∈ upperRuns ∧ n ∈ r.points := by
  have hcovers := List.find?_some h
  exact ⟨List.mem_of_find?_eq_some h, Run.mem_points hcovers⟩

theorem mem_of_lookup {l : List (Nat × List Nat)} (h : l.lookup n = some ns) : (n, ns) ∈ l := by
  obtain ⟨l₁, l₂, rfl, -⟩ := List.lookup_eq_some_iff.1 h
  exact List.mem_append_right l₁ List.mem_cons_self

/-- A character that does not change is raised to itself. -/
theorem upperChar_of_notMem (h : c.toNat ∉ movedPoints) : upperChar c = [c] := by
  simp only [movedPoints, List.mem_append, not_or] at h
  obtain ⟨hascii, hruns, hexpansions⟩ := h
  unfold upperChar
  split
  · next hc =>
    have hall : ∀ n < 0x80, n ∉ List.range' 0x61 26 → (Char.ofNat n).toUpper = Char.ofNat n := by
      decide
    have hfixed := hall c.toNat hc hascii
    rw [Char.ofNat_toNat] at hfixed
    rw [hfixed]
  · split
    · next ns hlookup =>
      exact absurd (List.mem_map_of_mem (mem_of_lookup hlookup)) hexpansions
    · unfold shiftBy
      split
      · next r hr =>
        obtain ⟨hrun, hpoint⟩ := mem_upperRuns_points hr
        exact absurd (List.mem_flatMap.2 ⟨r, hrun, hpoint⟩) hruns
      · rw [Char.ofNat_toNat]

/-- A character is raised to itself or to what the tables and ASCII say. -/
theorem upperChar_cases (c : Char) :
    upperChar c = [c] ∨
      ∃ ns : List Nat, upperChar c = ns.map Char.ofNat ∧ ∀ n ∈ ns, n ∈ raisedPoints := by
  unfold upperChar
  split
  · next hc =>
    refine .inr ⟨[c.toUpper.toNat], ?_, ?_⟩
    · rw [List.map_singleton, Char.ofNat_toNat]
    · intro n hn
      obtain rfl := List.mem_singleton.1 hn
      refine List.mem_append_left _ (List.mem_map.2 ⟨c.toNat, List.mem_range.2 hc, ?_⟩)
      rw [Char.ofNat_toNat]
  · split
    · next ns hlookup =>
      refine .inr ⟨ns, rfl, fun n hn => List.mem_append_right _ (List.mem_append_right _ ?_)⟩
      exact List.mem_flatMap.2 ⟨_, mem_of_lookup hlookup, hn⟩
    · unfold shiftBy
      split
      · next r hr =>
        obtain ⟨hrun, hpoint⟩ := mem_upperRuns_points hr
        refine .inr ⟨[(c.toNat + r.shift).toNat], rfl, fun n hn => ?_⟩
        obtain rfl := List.mem_singleton.1 hn
        refine List.mem_append_right _ (List.mem_append_left _ ?_)
        exact List.mem_flatMap.2 ⟨r, hrun, List.mem_map.2 ⟨c.toNat, hpoint, rfl⟩⟩
      · left
        rw [Char.ofNat_toNat]

/-- A number that is no character's code point is written as the first character. -/
theorem toNat_ofNat_or (n : Nat) : (Char.ofNat n).toNat = n ∨ (Char.ofNat n).toNat = 0 := by
  by_cases h : n.isValidChar
  · left
    rw [Char.ofNat, dif_pos h]
    rfl
  · right
    rw [Char.ofNat, dif_neg h]
    rfl

/-- What something is raised to does not change any more. -/
theorem upperChar_ofNat (h : n ∈ raisedPoints) : upperChar (Char.ofNat n) = [Char.ofNat n] := by
  have hzero : 0 ∈ raisedPoints := List.mem_append_left _ (List.mem_map.2 ⟨0, by decide, by decide⟩)
  refine upperChar_of_notMem (notMem_movedPoints ?_)
  rcases toNat_ofNat_or n with hn | hn
  · rwa [hn]
  · rwa [hn]

theorem upperChar_of_mem_upperChar (h : d ∈ upperChar c) : upperChar d = [d] := by
  rcases upperChar_cases c with hself | ⟨ns, hns, hraised⟩
  · obtain rfl : d = c := List.mem_singleton.1 (hself ▸ h)
    exact hself
  · rw [hns] at h
    obtain ⟨n, hn, rfl⟩ := List.mem_map.1 h
    exact upperChar_ofNat (hraised n hn)

/-- **A text in upper case stays as it is.** -/
theorem upper_upper (s : String) : upper (upper s) = upper s := by
  have hchars : ∀ c, (upperChar c).flatMap upperChar = upperChar c := by
    intro c
    have hall : (upperChar c).flatMap upperChar = (upperChar c).flatMap fun d => [d] :=
      List.flatMap_congr fun d hd => upperChar_of_mem_upperChar hd
    rw [hall, List.flatMap_singleton']
  rw [upper, upper, String.toList_ofList, List.flatMap_assoc]
  exact congrArg String.ofList (List.flatMap_congr fun c _ => hchars c)

end LineShell.Text
