import LineShell.Value.Parts
import LineShell.Yaml.Reading
import LineShell.Yaml.Writing

/-!
# Values as data

Most values of documents are built of texts, numbers, truth values, nothing, lists, and mappings
whose keys are texts. Such a value is a tree of data once its labels are left out
(`Value.datum?`). Two values are the same data if they have one tree (`Value.Same`).

* `Value.Same.exists_map`, `Value.SameEntries.exists_cons` - what is the same as a mapping is a
  mapping with the same keys in the same order
* `Value.isTree_of_datum` - data do not contain themselves
* `Yaml.ReadsBack` - whether the document of a value alone is read as the same data, which can be
  found out for values without floats (`Yaml.isReadBack`)
-/

namespace LineShell

/-- A tree of data. -/
inductive Datum where
  | null
  | bool (b : Bool)
  | int (n : Int)
  | float (x : Float)
  | nan
  | str (s : String)
  | list (items : List Datum)
  | map (entries : List (String × Datum))

/-- Whether data count as yes. -/
def Datum.holds : Datum → Bool
  | .null => false
  | .bool b => b
  | .int n => n != 0
  | .float x => !(x == 0)
  | .nan => true
  | .str s => !s.isEmpty
  | .list items => !items.isEmpty
  | .map entries => !entries.isEmpty

namespace Datum

mutual

/-- Whether two data are found to be equal. Floats never are. -/
def agrees : Datum → Datum → Bool
  | null, null => true
  | bool a, bool b => a == b
  | int m, int n => m == n
  | nan, nan => true
  | str s, str t => s == t
  | list as, list bs => agree as bs
  | map as, map bs => agreeAt as bs
  | _, _ => false

/-- Whether all items of two lists are found to be equal. -/
def agree : List Datum → List Datum → Bool
  | [], [] => true
  | a :: as, b :: bs => a.agrees b && agree as bs
  | _, _ => false

/-- Whether all entries of two mappings are found to be equal, in their order. -/
def agreeAt : List (String × Datum) → List (String × Datum) → Bool
  | [], [] => true
  | (k, a) :: as, (l, b) :: bs => k == l && a.agrees b && agreeAt as bs
  | _, _ => false

end

mutual

/-- What is found to be equal is equal. -/
theorem eq_of_agrees {a b : Datum} (h : a.agrees b = true) : a = b := by
  cases a with
  | list as =>
    cases b with
    | list bs => rw [eq_of_agree h]
    | null | bool | int | float | nan | str | map => cases h
  | map as =>
    cases b with
    | map bs => rw [eq_of_agreeAt h]
    | null | bool | int | float | nan | str | list => cases h
  | null | bool | int | float | nan | str =>
    cases b <;> simp_all [agrees]

theorem eq_of_agree {as bs : List Datum} (h : agree as bs = true) : as = bs := by
  cases as with
  | nil =>
    cases bs with
    | nil => rfl
    | cons => cases h
  | cons a as =>
    cases bs with
    | nil => cases h
    | cons b bs =>
      obtain ⟨ha, has⟩ := Bool.and_eq_true_iff.1 h
      rw [eq_of_agrees ha, eq_of_agree has]

theorem eq_of_agreeAt {as bs : List (String × Datum)} (h : agreeAt as bs = true) : as = bs := by
  cases as with
  | nil =>
    cases bs with
    | nil => rfl
    | cons => cases h
  | cons e as =>
    cases bs with
    | nil => cases h
    | cons f bs =>
      obtain ⟨he, has⟩ := Bool.and_eq_true_iff.1 h
      obtain ⟨hk, hv⟩ := Bool.and_eq_true_iff.1 he
      rw [Prod.ext (eq_of_beq hk) (eq_of_agrees hv), eq_of_agreeAt has]

end

end Datum

namespace Value

mutual

/-- The data that a value is, if it is nothing but data. -/
def datum? : Value → Option Datum
  | null => some .null
  | bool b => some (.bool b)
  | int n => some (.int n)
  | float x => some (.float x)
  | nan _ => some .nan
  | str s => some (.str s)
  | list _ items => (data? items).map .list
  | map _ entries => (entryData? entries).map .map
  | _ => none

/-- The data that the values of a list are. -/
def data? : List Value → Option (List Datum)
  | [] => some []
  | v :: vs =>
    match v.datum?, data? vs with
    | some d, some ds => some (d :: ds)
    | _, _ => none

/-- The data that the values of entries are, if all keys are texts. -/
def entryData? : List (Value × Value) → Option (List (String × Datum))
  | [] => some []
  | (str k, v) :: rest =>
    match v.datum?, entryData? rest with
    | some d, some ds => some ((k, d) :: ds)
    | _, _ => none
  | _ :: _ => none

end

variable {v w : Value} {es fs : List (Value × Value)} {l : Option Nat} {k s : String} {d : Datum}
  {ds : List (String × Datum)}

/-! ## What data look like -/

theorem eq_str_of_datum (h : v.datum? = some (.str s)) : v = str s := by
  cases v with
  | str t =>
    obtain ⟨rfl⟩ := Option.some.inj h
    rfl
  | list | map =>
    obtain ⟨_, _, h⟩ := Option.map_eq_some_iff.1 h
    cases h
  | null | bool | int | float | nan | bytes | date | stamp | tuple | set | again => cases h

theorem exists_map_of_datum (h : v.datum? = some (.map ds)) :
    ∃ l es, v = map l es ∧ entryData? es = some ds := by
  cases v with
  | map l es =>
    obtain ⟨_, hes, h⟩ := Option.map_eq_some_iff.1 h
    cases h
    exact ⟨l, es, rfl, hes⟩
  | list =>
    obtain ⟨_, _, h⟩ := Option.map_eq_some_iff.1 h
    cases h
  | null | bool | int | float | nan | str | bytes | date | stamp | tuple | set | again => cases h

theorem data?_cons_eq_some {vs : List Value} {ds : List Datum} (h : data? (v :: vs) = some ds) :
    ∃ d rest, ds = d :: rest ∧ v.datum? = some d ∧ data? vs = some rest := by
  rw [data?] at h
  split at h
  · next d rest hd hrest =>
    obtain rfl := Option.some.inj h
    exact ⟨d, rest, rfl, hd, hrest⟩
  · cases h

theorem entryData?_cons_eq_some {e : Value × Value} (h : entryData? (e :: es) = some ds) :
    ∃ k d rest, ds = (k, d) :: rest ∧ e.1 = str k ∧ e.2.datum? = some d ∧
      entryData? es = some rest := by
  obtain ⟨key, v⟩ := e
  cases key with
  | str k =>
    rw [entryData?] at h
    split at h
    · next d rest hd hrest =>
      obtain rfl := Option.some.inj h
      exact ⟨k, d, rest, rfl, rfl, hd, hrest⟩
    · cases h
  | null | bool | int | float | nan | bytes | date | stamp | list | tuple | set | map | again =>
    cases h

/-! ## Counting as yes -/

theorem holds_of_datum (h : v.datum? = some d) : v.holds = d.holds := by
  cases v with
  | list l items =>
    obtain ⟨ds, hds, rfl⟩ := Option.map_eq_some_iff.1 h
    cases items with
    | nil =>
      obtain rfl := Option.some.inj hds
      rfl
    | cons v vs =>
      obtain ⟨_, _, rfl, _⟩ := data?_cons_eq_some hds
      rfl
  | map l entries =>
    obtain ⟨ds, hds, rfl⟩ := Option.map_eq_some_iff.1 h
    cases entries with
    | nil =>
      obtain rfl := Option.some.inj hds
      rfl
    | cons e es =>
      obtain ⟨_, _, _, rfl, _⟩ := entryData?_cons_eq_some hds
      rfl
  | null | bool | int | float | nan | str =>
    obtain rfl := Option.some.inj h
    rfl
  | bytes | date | stamp | tuple | set | again => cases h

/-! ## Trees -/

mutual

/-- Data do not contain themselves. -/
theorem isTree_of_datum (v : Value) {d : Datum} (h : v.datum? = some d) : v.isTree = true := by
  cases v with
  | list l items =>
    obtain ⟨ds, hds, _⟩ := Option.map_eq_some_iff.1 h
    exact areTrees_of_data items hds
  | map l entries =>
    obtain ⟨ds, hds, _⟩ := Option.map_eq_some_iff.1 h
    exact entriesAreTrees_of_data entries hds
  | null | bool | int | float | nan | str => rfl
  | bytes | date | stamp | tuple | set | again => cases h

/-- The values of a list of data do not contain themselves. -/
theorem areTrees_of_data (vs : List Value) {ds : List Datum} (h : data? vs = some ds) :
    areTrees vs = true := by
  cases vs with
  | nil => rfl
  | cons v vs =>
    obtain ⟨d, rest, _, hd, hrest⟩ := data?_cons_eq_some h
    rw [areTrees, isTree_of_datum v hd, areTrees_of_data vs hrest]
    rfl

/-- The values of entries of data do not contain themselves. -/
theorem entriesAreTrees_of_data (es : List (Value × Value)) {ds : List (String × Datum)}
    (h : entryData? es = some ds) : entriesAreTrees es = true := by
  cases es with
  | nil => rfl
  | cons e es =>
    obtain ⟨_, v⟩ := e
    obtain ⟨k, d, rest, _, _, hd, hrest⟩ := entryData?_cons_eq_some h
    rw [entriesAreTrees, isTree_of_datum v hd, entriesAreTrees_of_data es hrest]
    rfl

end

/-! ## The same data -/

/-- Whether two values are the same data. -/
def Same (v w : Value) : Prop := ∃ d, v.datum? = some d ∧ w.datum? = some d

/-- Whether two lists of entries have the same names and the same data. -/
def SameEntries (es fs : List (Value × Value)) : Prop :=
  ∃ ds, entryData? es = some ds ∧ entryData? fs = some ds

theorem Same.eq_str (h : Same (str s) w) : w = str s := by
  obtain ⟨d, hv, hw⟩ := h
  obtain rfl := Option.some.inj hv
  exact eq_str_of_datum hw

theorem Same.exists_map (h : Same (map l es) w) : ∃ m fs, w = map m fs ∧ SameEntries es fs := by
  obtain ⟨d, hv, hw⟩ := h
  obtain ⟨ds, hds, rfl⟩ := Option.map_eq_some_iff.1 hv
  obtain ⟨m, fs, rfl, hfs⟩ := exists_map_of_datum hw
  exact ⟨m, fs, rfl, ds, hds, hfs⟩

theorem SameEntries.eq_nil (h : SameEntries [] fs) : fs = [] := by
  obtain ⟨ds, hes, hfs⟩ := h
  obtain rfl := Option.some.inj hes
  cases fs with
  | nil => rfl
  | cons e fs =>
    obtain ⟨_, _, _, h, _⟩ := entryData?_cons_eq_some hfs
    cases h

/-- Entries that are the same data come in the same order and have the same names. -/
theorem SameEntries.exists_cons (h : SameEntries ((str k, v) :: es) fs) :
    ∃ w gs, fs = (str k, w) :: gs ∧ Same v w ∧ SameEntries es gs := by
  obtain ⟨ds, hes, hfs⟩ := h
  obtain ⟨_, d, rest, rfl, ⟨rfl⟩, hd, hrest⟩ := entryData?_cons_eq_some hes
  cases fs with
  | nil => cases hfs
  | cons e gs =>
    obtain ⟨key, w⟩ := e
    obtain ⟨_, _, _, hds, hkey, hw, hgs⟩ := entryData?_cons_eq_some hfs
    -- both entries have the first name of the data, and the rest agrees with the rest
    obtain ⟨⟨rfl, rfl⟩, rfl⟩ := List.cons.inj hds
    obtain rfl : key = str k := hkey
    exact ⟨w, gs, rfl, ⟨d, hd, hw⟩, ⟨rest, hrest, hgs⟩⟩

/-- What counts as yes is seen from the data. -/
theorem Same.holds_eq (h : Same v w) : v.holds = w.holds := by
  obtain ⟨d, hv, hw⟩ := h
  rw [holds_of_datum hv, holds_of_datum hw]

end Value

namespace Yaml

/-- Whether the document that is written for a value is read as the same data, if there is nothing
else to read. -/
def ReadsBack (v : Value) : Prop :=
  ∃ w, readDocument ⟨writeDocument v, none⟩ = .ok w ∧ Value.Same v w

/-- Whether the document of a value is found to be read as the same data. -/
def isReadBack (v : Value) : Bool :=
  match readDocument ⟨writeDocument v, none⟩ with
  | .error _ => false
  | .ok w =>
    match v.datum?, w.datum? with
    | some a, some b => a.agrees b
    | _, _ => false

/-- What is found to be read back is read back. -/
theorem readsBack_of_isReadBack {v : Value} (h : isReadBack v = true) : ReadsBack v := by
  unfold isReadBack at h
  split at h
  · cases h
  · next w hw =>
    split at h
    · next a b ha hb =>
      obtain rfl := Datum.eq_of_agrees h
      exact ⟨w, hw, a, ha, hb⟩
    · cases h

end Yaml

end LineShell
