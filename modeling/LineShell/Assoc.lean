/-!
# Maps that keep the order of insertion

`Assoc κ α` is a finite map whose keys stand in the order in which they were first given a value.
Giving a key a new value leaves it where it is. The entries are a list of pairs, and no key occurs
twice, which the type itself guarantees (`nodup`).

## The view

Everything is described by `get?` and `keys`:

* `get?_insert` - the key that was written has the new value, all others keep theirs
* `keys_insert` - a new key comes last, a known one stays where it is
* `get?_mapValues`, `keys_mapValues` - changing the values changes nothing else
* `ext_get?` - a map is determined by the two
-/

namespace LineShell

/-- A finite map in order of insertion. -/
structure Assoc (κ : Type) (α : Type) where
  entries : List (κ × α)
  nodup : (entries.map Prod.fst).Nodup
deriving DecidableEq

namespace Assoc

variable {κ α β : Type}

/-- The map without entries. -/
def empty : Assoc κ α := ⟨[], List.nodup_nil⟩

instance : Inhabited (Assoc κ α) := ⟨empty⟩

instance : EmptyCollection (Assoc κ α) := ⟨empty⟩

/-- The keys, in the order in which they came. -/
def keys (m : Assoc κ α) : List κ := m.entries.map Prod.fst

theorem nodup_keys (m : Assoc κ α) : m.keys.Nodup := m.nodup

@[simp] theorem keys_empty : (∅ : Assoc κ α).keys = [] := rfl

theorem ext_entries {m n : Assoc κ α} (h : m.entries = n.entries) : m = n := by
  cases m; cases n; simp_all

/-! ## Looking up -/

section Lookup

variable [DecidableEq κ]

/-- The value that the first pair with the key has. -/
def find? (k : κ) : List (κ × α) → Option α
  | [] => none
  | (k', v) :: rest => if k' = k then some v else find? k rest

/-- The value of a key, if it has one. -/
def get? (m : Assoc κ α) (k : κ) : Option α := find? k m.entries

/-- Whether a key has a value. -/
def contains (m : Assoc κ α) (k : κ) : Bool := (m.get? k).isSome

@[simp] theorem get?_empty (k : κ) : (∅ : Assoc κ α).get? k = none := rfl

theorem find?_isSome_iff {k : κ} {l : List (κ × α)} :
    (find? k l).isSome = true ↔ k ∈ l.map Prod.fst := by
  induction l with
  | nil => simp [find?]
  | cons p rest ih =>
    obtain ⟨k', v⟩ := p
    by_cases h : k' = k
    · simp [find?, h]
    · simp [find?, h, ih, Ne.symm h]

/-- A key has a value exactly when it is among the keys. -/
theorem contains_iff {m : Assoc κ α} {k : κ} : m.contains k = true ↔ k ∈ m.keys :=
  find?_isSome_iff

end Lookup

/-! ## Writing -/

section Insert

variable [DecidableEq κ]

/-- Writes a value into a list of pairs: in place for a known key, at the end for a new one. -/
def write (k : κ) (v : α) : List (κ × α) → List (κ × α)
  | [] => [(k, v)]
  | (k', v') :: rest => if k' = k then (k, v) :: rest else (k', v') :: write k v rest

theorem map_fst_write (k : κ) (v : α) (l : List (κ × α)) :
    (write k v l).map Prod.fst
      = if k ∈ l.map Prod.fst then l.map Prod.fst else l.map Prod.fst ++ [k] := by
  induction l with
  | nil => simp [write]
  | cons p rest ih =>
    obtain ⟨k', v'⟩ := p
    by_cases h : k' = k
    · subst h; simp [write]
    · simp only [write, if_neg h, List.map_cons, ih, List.mem_cons, Ne.symm h, false_or]
      split <;> simp

theorem nodup_write {k : κ} {v : α} {l : List (κ × α)} (h : (l.map Prod.fst).Nodup) :
    ((write k v l).map Prod.fst).Nodup := by
  rw [map_fst_write]
  split
  · exact h
  · next hk =>
    rw [List.nodup_append]
    exact ⟨h, by simp, by intro a ha b hb; simp at hb; subst hb; intro hab; subst hab; exact hk ha⟩

/-- Gives a key a value. A known key keeps its place, a new one comes last. -/
def insert (m : Assoc κ α) (k : κ) (v : α) : Assoc κ α :=
  ⟨write k v m.entries, nodup_write m.nodup⟩

theorem find?_write (k : κ) (v : α) (l : List (κ × α)) (j : κ) :
    find? j (write k v l) = if j = k then some v else find? j l := by
  induction l with
  | nil =>
    by_cases h : j = k
    · simp [write, find?, h]
    · simp [write, find?, h, Ne.symm h]
  | cons p rest ih =>
    obtain ⟨k', v'⟩ := p
    by_cases h : k' = k
    · subst h
      by_cases hj : j = k'
      · simp [write, find?, hj]
      · simp [write, find?, hj, Ne.symm hj]
    · by_cases hj : k' = j
      · subst hj; simp [write, find?, h]
      · simp [write, find?, h, hj, ih]

/-- The key that was written has the new value, and all others keep theirs. -/
theorem get?_insert (m : Assoc κ α) (k : κ) (v : α) (j : κ) :
    (m.insert k v).get? j = if j = k then some v else m.get? j :=
  find?_write k v m.entries j

/-- A known key stays where it is, a new one comes last. -/
theorem keys_insert (m : Assoc κ α) (k : κ) (v : α) :
    (m.insert k v).keys = if k ∈ m.keys then m.keys else m.keys ++ [k] :=
  map_fst_write k v m.entries

theorem mem_keys_insert {m : Assoc κ α} {k j : κ} {v : α} :
    j ∈ (m.insert k v).keys ↔ j = k ∨ j ∈ m.keys := by
  rw [keys_insert]
  split
  · next h => exact ⟨.inr, fun hj => hj.elim (fun he => he ▸ h) id⟩
  · rw [List.mem_append, List.mem_singleton, or_comm]

/-- Writes a list of pairs, one after the other. -/
def insertAll (m : Assoc κ α) (l : List (κ × α)) : Assoc κ α :=
  l.foldl (fun m p => m.insert p.1 p.2) m

@[simp] theorem insertAll_nil (m : Assoc κ α) : m.insertAll [] = m := rfl

@[simp] theorem insertAll_cons (m : Assoc κ α) (p : κ × α) (l : List (κ × α)) :
    m.insertAll (p :: l) = (m.insert p.1 p.2).insertAll l := rfl

theorem insertAll_append (m : Assoc κ α) (l l' : List (κ × α)) :
    m.insertAll (l ++ l') = (m.insertAll l).insertAll l' := by
  simp [insertAll, List.foldl_append]

/-- A key is one that was there before, or one of those that were written. -/
theorem mem_keys_insertAll {m : Assoc κ α} {l : List (κ × α)} {j : κ} :
    j ∈ (m.insertAll l).keys ↔ j ∈ m.keys ∨ j ∈ l.map Prod.fst := by
  induction l generalizing m with
  | nil => simp
  | cons p l ih =>
    rw [insertAll_cons, ih, mem_keys_insert, List.map_cons, List.mem_cons, or_comm (a := j = p.1),
      or_assoc]

/-- A key that is not written keeps its value. -/
theorem get?_insertAll_of_notMem {l : List (κ × α)} {k : κ} (h : k ∉ l.map Prod.fst)
    (m : Assoc κ α) : (m.insertAll l).get? k = m.get? k := by
  induction l generalizing m with
  | nil => rfl
  | cons p l ih =>
    rw [List.map_cons, List.mem_cons, not_or] at h
    rw [insertAll_cons, ih h.2, get?_insert, if_neg h.1]

/-- A key has the value with which it is written last. -/
theorem get?_insertAll_last {k : κ} {back : List (κ × α)} (h : k ∉ back.map Prod.fst)
    (m : Assoc κ α) (front : List (κ × α)) (v : α) :
    (m.insertAll (front ++ (k, v) :: back)).get? k = some v := by
  rw [insertAll_append, insertAll_cons, get?_insertAll_of_notMem h, get?_insert, if_pos rfl]

/-- The map that a list of pairs describes: the last value of a key counts, its first place too. -/
def ofList (l : List (κ × α)) : Assoc κ α := empty.insertAll l

theorem mem_keys_ofList {l : List (κ × α)} {j : κ} :
    j ∈ (ofList l).keys ↔ j ∈ l.map Prod.fst :=
  mem_keys_insertAll.trans (or_iff_right List.not_mem_nil)

theorem write_of_notMem {k : κ} {l : List (κ × α)} (h : k ∉ l.map Prod.fst) (v : α) :
    write k v l = l ++ [(k, v)] := by
  induction l with
  | nil => rfl
  | cons p rest ih =>
    rw [List.map_cons, List.mem_cons, not_or] at h
    rw [write, if_neg (Ne.symm h.1), ih h.2, List.cons_append]

/-- Pairs with new keys come behind what is there. -/
theorem entries_insertAll {m : Assoc κ α} {l : List (κ × α)}
    (h : ((m.entries ++ l).map Prod.fst).Nodup) : (m.insertAll l).entries = m.entries ++ l := by
  induction l generalizing m with
  | nil => exact (List.append_nil _).symm
  | cons p l ih =>
    have hk : p.1 ∉ m.entries.map Prod.fst := by
      rw [List.map_append, List.nodup_append] at h
      exact fun hp => h.2.2 _ hp _ (List.mem_map_of_mem List.mem_cons_self) rfl
    have hentries : (m.insert p.1 p.2).entries = m.entries ++ [p] := write_of_notMem hk p.2
    rw [insertAll_cons, ih, hentries, List.append_assoc, List.singleton_append]
    rw [hentries, List.append_assoc, List.singleton_append]
    exact h

/-- A map is described by its own entries. -/
theorem ofList_entries (m : Assoc κ α) : ofList m.entries = m :=
  ext_entries (entries_insertAll m.nodup)

end Insert

/-! ## Changing the values -/

/-- Applies a function to every value. -/
def mapValues (f : α → β) (m : Assoc κ α) : Assoc κ β :=
  ⟨m.entries.map fun p => (p.1, f p.2), by
    rw [List.map_map]; exact m.nodup⟩

@[simp] theorem keys_mapValues (f : α → β) (m : Assoc κ α) : (m.mapValues f).keys = m.keys := by
  simp [keys, mapValues]

theorem find?_map [DecidableEq κ] (f : α → β) (l : List (κ × α)) (k : κ) :
    find? k (l.map fun p => (p.1, f p.2)) = (find? k l).map f := by
  induction l with
  | nil => rfl
  | cons p rest ih =>
    by_cases h : p.1 = k
    · simp [find?, h]
    · simp [find?, h, ih]

@[simp] theorem get?_mapValues [DecidableEq κ] (f : α → β) (m : Assoc κ α) (k : κ) :
    (m.mapValues f).get? k = (m.get? k).map f :=
  find?_map f m.entries k

/-! ## Equal maps -/

section Determined

variable [DecidableEq κ] {m n : Assoc κ α} {k : κ} {v : α} {l : List (κ × α)}

theorem find?_append (k : κ) (l l' : List (κ × α)) :
    find? k (l ++ l') = (find? k l).or (find? k l') := by
  induction l with
  | nil => rfl
  | cons p l ih =>
    by_cases h : p.1 = k
    · simp [find?, h]
    · simp [find?, h, ih]

/-- Lists of pairs with the same keys, each of them once, and the same values are the same. -/
theorem eq_of_find? {l l' : List (κ × α)} (hkeys : l.map Prod.fst = l'.map Prod.fst)
    (hnodup : (l.map Prod.fst).Nodup) (h : ∀ k ∈ l.map Prod.fst, find? k l = find? k l') :
    l = l' := by
  induction l generalizing l' with
  | nil => exact (List.map_eq_nil_iff.1 hkeys.symm).symm
  | cons p l ih =>
    cases l' with
    | nil => cases hkeys
    | cons q l' =>
      obtain ⟨k, v⟩ := p
      obtain ⟨j, w⟩ := q
      rw [List.map_cons, List.map_cons] at hkeys
      obtain ⟨rfl, hrest⟩ := List.cons.inj hkeys
      rw [List.map_cons, List.nodup_cons] at hnodup
      rw [List.map_cons, List.forall_mem_cons] at h
      obtain rfl : v = w := by simpa [find?] using h.1
      rw [ih hrest hnodup.2]
      intro i hi
      have hne : k ≠ i := fun he => hnodup.1 (he ▸ hi)
      simpa [find?, hne] using h.2 i hi

/-- A map is determined by its keys and their values. -/
theorem ext_get? (hkeys : m.keys = n.keys) (h : ∀ k, m.get? k = n.get? k) : m = n :=
  ext_entries (eq_of_find? hkeys m.nodup fun k _ => h k)

/-! ## Writing again -/

/-- Of two values for one key, the second one stays. -/
theorem insert_insert (m : Assoc κ α) (k : κ) (v w : α) :
    (m.insert k v).insert k w = m.insert k w := by
  refine ext_get? ?_ fun j => ?_
  · rw [keys_insert, if_pos (mem_keys_insert.2 (.inl rfl)), keys_insert, keys_insert]
  · simp only [get?_insert]
    split <;> rfl

/-- A known key may be written at any time. -/
theorem insert_comm {j : κ} (hk : k ∈ m.keys) (hne : j ≠ k) (w v : α) :
    (m.insert j w).insert k v = (m.insert k v).insert j w := by
  refine ext_get? ?_ fun i => ?_
  · have hkeys : (m.insert k v).keys = m.keys := by rw [keys_insert, if_pos hk]
    rw [keys_insert, if_pos (mem_keys_insert.2 (.inr hk)), keys_insert, keys_insert, hkeys]
  · simp only [get?_insert]
    by_cases hi : i = k
    · simp [hi, Ne.symm hne]
    · simp [hi]

theorem insert_insertAll (hk : k ∈ m.keys) (hl : k ∉ l.map Prod.fst) (v : α) :
    (m.insertAll l).insert k v = (m.insert k v).insertAll l := by
  induction l generalizing m with
  | nil => rfl
  | cons p l ih =>
    rw [List.map_cons, List.mem_cons, not_or] at hl
    rw [insertAll_cons, ih (mem_keys_insert.2 (.inr hk)) hl.2, insert_comm hk (Ne.symm hl.1),
      insertAll_cons]

theorem insertAll_write {l : List (κ × α)} (hl : (l.map Prod.fst).Nodup) (m : Assoc κ α) (k : κ)
    (v : α) : m.insertAll (write k v l) = (m.insertAll l).insert k v := by
  induction l generalizing m with
  | nil => rfl
  | cons p l ih =>
    rw [List.map_cons, List.nodup_cons] at hl
    rw [write]
    split
    · next hp =>
      subst hp
      rw [insertAll_cons, insertAll_cons, insert_insertAll (mem_keys_insert.2 (.inl rfl)) hl.1,
        insert_insert]
    · rw [insertAll_cons, ih hl.2, insertAll_cons]

/-- Pairs may be written into a map first, and the map then into another one. -/
theorem insertAll_entries_insertAll (m n : Assoc κ α) (l : List (κ × α)) :
    m.insertAll (n.insertAll l).entries = (m.insertAll n.entries).insertAll l := by
  induction l generalizing n with
  | nil => rfl
  | cons p l ih => rw [insertAll_cons, ih, insert, insertAll_write n.nodup, insertAll_cons]

theorem insertAll_entries_ofList (m : Assoc κ α) (l : List (κ × α)) :
    m.insertAll (ofList l).entries = m.insertAll l :=
  insertAll_entries_insertAll m ∅ l

/-- The last of the pairs with a key gives it its value. -/
theorem get?_insertAll (m : Assoc κ α) (l : List (κ × α)) (k : κ) :
    (m.insertAll l).get? k = (find? k l.reverse).or (m.get? k) := by
  induction l generalizing m with
  | nil => rfl
  | cons p l ih =>
    rw [insertAll_cons, ih, get?_insert, List.reverse_cons, find?_append, Option.or_assoc]
    by_cases hk : k = p.1
    · simp [find?, hk]
    · simp [find?, hk, Ne.symm hk]

/-- Known keys stay where they are. -/
theorem keys_prefix_insertAll (m : Assoc κ α) (l : List (κ × α)) :
    m.keys <+: (m.insertAll l).keys := by
  induction l generalizing m with
  | nil => exact List.prefix_refl _
  | cons p l ih =>
    refine List.IsPrefix.trans ?_ (ih _)
    rw [keys_insert]
    split
    · exact List.prefix_refl _
    · exact List.prefix_append _ _

theorem keys_insertAll_of_subset (h : ∀ k ∈ l.map Prod.fst, k ∈ m.keys) :
    (m.insertAll l).keys = m.keys := by
  induction l generalizing m with
  | nil => rfl
  | cons p l ih =>
    rw [List.map_cons, List.forall_mem_cons] at h
    have hkeys : (m.insert p.1 p.2).keys = m.keys := by rw [keys_insert, if_pos h.1]
    rw [insertAll_cons, ih (by rw [hkeys]; exact h.2), hkeys]

/-- Pairs that were written once may be written again. -/
theorem insertAll_insertAll (m : Assoc κ α) (l : List (κ × α)) :
    (m.insertAll l).insertAll l = m.insertAll l := by
  refine ext_get? (keys_insertAll_of_subset fun k hk => mem_keys_insertAll.2 (.inr hk)) fun k => ?_
  rw [get?_insertAll, get?_insertAll, ← Option.or_assoc, Option.or_self]

end Determined

section Map

variable [DecidableEq κ]

theorem mapValues_insert (f : α → β) (m : Assoc κ α) (k : κ) (v : α) :
    (m.insert k v).mapValues f = (m.mapValues f).insert k (f v) := by
  refine ext_get? ?_ fun j => ?_
  · rw [keys_mapValues, keys_insert, keys_insert, keys_mapValues]
  · rw [get?_mapValues, get?_insert, get?_insert, get?_mapValues, apply_ite (Option.map f)]
    rfl

theorem mapValues_insertAll (f : α → β) (m : Assoc κ α) (l : List (κ × α)) :
    (m.insertAll l).mapValues f = (m.mapValues f).insertAll (l.map fun p => (p.1, f p.2)) := by
  induction l generalizing m with
  | nil => rfl
  | cons p l ih => rw [insertAll_cons, ih, mapValues_insert, List.map_cons, insertAll_cons]

theorem mapValues_ofList (f : α → β) (l : List (κ × α)) :
    (ofList l).mapValues f = ofList (l.map fun p => (p.1, f p.2)) :=
  mapValues_insertAll f empty l

end Map

end Assoc

end LineShell
