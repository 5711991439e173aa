import LineShell.Calendar
import LineShell.Decimal.Reading
import LineShell.Decimal.Shortest

/-!
# Values

What a configuration document can hold. Collections, days and times carry a *label*: two parts of a
document with one label are one and the same thing, written once and referred to again. A value that
contains itself is unfolded down to the place where it comes back; there stands `again`.

* `Value.holds` - whether a value counts as yes
* `Value.sameKey` - whether two values are one key of a mapping
* `Value.find?` - looking a key up
* `Value.flaw?` - what keeps a value from being shown as a text
-/

namespace LineShell

/-- The shape of a collection that contains itself. -/
inductive Shape where
  | list
  | mapping
deriving DecidableEq, Repr

/-- A value of a document. -/
inductive Value where
  | null
  | bool (b : Bool)
  | int (n : Int)
  | float (x : Float)
  /-- Not a number. Two of these are the same only if they have one label. -/
  | nan (label : Option Nat)
  | str (s : String)
  | bytes (bs : List UInt8)
  | date (label : Option Nat) (d : Date)
  | stamp (label : Option Nat) (t : Stamp)
  | list (label : Option Nat) (items : List Value)
  | tuple (label : Option Nat) (items : List Value)
  | set (label : Option Nat) (items : List Value)
  | map (label : Option Nat) (entries : List (Value × Value))
  /-- The enclosing collection with this label. -/
  | again (label : Nat) (shape : Shape)

namespace Value

instance : Inhabited Value := ⟨null⟩

/-- Whether a value counts as yes: it is not null, no, zero and not empty. -/
def holds : Value → Bool
  | null => false
  | bool b => b
  | int n => n != 0
  | float x => !(x == 0)
  | nan _ => true
  | str s => !s.isEmpty
  | bytes bs => !bs.isEmpty
  | list _ items => !items.isEmpty
  | tuple _ items => !items.isEmpty
  | set _ items => !items.isEmpty
  | map _ entries => !entries.isEmpty
  | date .. => true
  | stamp .. => true
  | again .. => true

/-! ## Keys -/

/-- The whole number that a float is, if it is one. -/
def wholePart? (x : Float) : Option Int :=
  if x.isNaN || x.isInf || x.floor != x then none
  else
    let b := Decimal.decode x.toBits
    let r := (Decimal.Ratio.power 2 b.exponent).scale b.mantissa
    let n : Nat := r.num / r.den
    some (if Decimal.isNegative x.toBits then -n else n)

/-- The number that a value counts as, among keys: yes is one and no is zero. -/
def whole? : Value → Option Int
  | bool b => some (if b then 1 else 0)
  | int n => some n
  | float x => wholePart? x
  | _ => none

/-- Whether two values are one key: numbers by their value, times by their instant, all else by
being the same. Collections are no keys. -/
def sameKey (a b : Value) : Bool :=
  match a.whole?, b.whole? with
  | some m, some n => m == n
  | none, none =>
    match a, b with
    | null, null => true
    | float x, float y => x == y
    | nan l, nan m => l == m
    | str s, str t => s == t
    | bytes s, bytes t => s == t
    | date _ d, date _ e => d == e
    | stamp _ t, stamp _ u => t.same u
    | _, _ => false
  | _, _ => false

/-- Whether a value may be a key. -/
def isKey : Value → Bool
  | list .. | set .. | map .. | again .. => false
  | _ => true

/-- Writes an entry: in place for a known key, which stays as it is, at the end for a new one. -/
def setEntry {α : Type} (k : Value) (v : α) : List (Value × α) → List (Value × α)
  | [] => [(k, v)]
  | (k', v') :: rest =>
    if k'.sameKey k then (k', v) :: rest else (k', v') :: setEntry k v rest

/-- What stands under a name in a list of entries. -/
def find? (name : String) : List (Value × Value) → Option Value
  | [] => none
  | (.str k, v) :: rest => if k = name then some v else find? name rest
  | _ :: rest => find? name rest

/-- Whether a value is a text. -/
def isStr : Value → Bool
  | str _ => true
  | _ => false

/-- The name of the kind of a value, for messages. -/
def kind : Value → String
  | null => "NoneType"
  | bool _ => "bool"
  | int _ => "int"
  | float _ => "float"
  | nan _ => "float"
  | str _ => "str"
  | bytes _ => "bytes"
  | date .. => "date"
  | stamp .. => "datetime"
  | list .. => "list"
  | tuple .. => "tuple"
  | set .. => "set"
  | map .. => "dict"
  | again _ .list => "list"
  | again _ .mapping => "dict"

/-! ## Values without a text -/

/-- Why a value has no text. -/
inductive Flaw where
  /-- A whole number in it has more than `Decimal.maxDigits` digits. -/
  | longNumber
  /-- It is nested too deep. -/
  | tooDeep
deriving DecidableEq, Repr

/-- How many levels a value may have to be shown. It stands for the room on the stack, of which each
level takes a piece; how large it is, no result turns on. -/
def maxLevels : Nat := 985

/-- Whether a whole number is too long to be written. No proof should compute the bound. -/
@[irreducible]
def isLong (n : Int) : Bool := Nat.pow 10 Decimal.maxDigits ≤ n.natAbs

mutual

/-- The first flaw that is met in showing a value, where there is room for so many levels. -/
def flawWithin : (room : Nat) → Value → Option Flaw
  | 0, _ => some .tooDeep
  | _ + 1, int n => if isLong n then some .longNumber else none
  | room + 1, list _ items => flawOf room items
  | room + 1, tuple _ items => flawOf room items
  | room + 1, set _ items => flawOf room items
  | room + 1, map _ entries => flawAmong room entries
  | _ + 1, _ => none

/-- The first flaw among the values of a list. -/
def flawOf (room : Nat) : List Value → Option Flaw
  | [] => none
  | v :: vs => (v.flawWithin room).or (flawOf room vs)

/-- The first flaw among the entries of a mapping. -/
def flawAmong (room : Nat) : List (Value × Value) → Option Flaw
  | [] => none
  | (k, v) :: rest => (k.flawWithin room).or ((v.flawWithin room).or (flawAmong room rest))

end

/-- Why a value has no text, if so. -/
def flaw? (v : Value) : Option Flaw := v.flawWithin maxLevels

end Value

end LineShell
