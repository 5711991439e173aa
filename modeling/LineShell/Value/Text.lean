import LineShell.Text.Quoted
import LineShell.Value.Basic

/-!
# Values as text

Two ways to show a value in running text. `Value.literal` shows what it is: texts stand between
quotes, days and times name their kind. `Value.display` shows a text as it stands, and a day or a
time as it is read; everything else, and everything inside a collection, is shown by its literal.
-/

namespace LineShell

/-- A number is written in place while its point lies within sixteen digits and at most three zeros
before them; otherwise it has an exponent. -/
def floatFormat : Decimal.Format := ⟨-3, 16, false⟩

namespace Date

/-- What a day is. -/
def literal (d : Date) : String := s!"datetime.date({d.year}, {d.month}, {d.day})"

end Date

namespace Stamp

/-- What an offset is. -/
def offsetLiteral (o : Int) : String :=
  if o = 0 then "datetime.timezone.utc" else s!"datetime.timezone({spanText o})"

/-- What a time is. Seconds are left out when they and what follows them are zero. -/
def literal (t : Stamp) : String :=
  let parts := [t.date.year, t.date.month, t.date.day, t.hour, t.minute] ++
    (if t.micro != 0 then [t.second, t.micro] else if t.second != 0 then [t.second] else [])
  "datetime.datetime(" ++ ", ".intercalate (parts.map toString) ++
    (match t.offset with
      | none => ""
      | some o => ", tzinfo=" ++ offsetLiteral o) ++ ")"

end Stamp

namespace Value

/-- A float in running text. -/
def floatLiteral (x : Float) : String := Decimal.floatText floatFormat ⟨"nan", "inf"⟩ x

mutual

/-- What a value is. -/
def literal : Value → String
  | null => "None"
  | bool b => if b then "True" else "False"
  | int n => toString n
  | float x => floatLiteral x
  | nan _ => "nan"
  | str s => Text.quoted s
  | bytes bs => Text.quotedBytes bs
  | date _ d => d.literal
  | stamp _ t => t.literal
  | list _ items => "[" ++ ", ".intercalate (literals items) ++ "]"
  | tuple _ items =>
    "(" ++ ", ".intercalate (literals items) ++ (if items.length = 1 then ",)" else ")")
  | set _ items =>
    if items.isEmpty then "set()"
    else "\x7b" ++ ", ".intercalate (literals items) ++ "\x7d"
  | map _ entries => "\x7b" ++ ", ".intercalate (entryLiterals entries) ++ "\x7d"
  | again _ .list => "[...]"
  | again _ .mapping => "\x7b...\x7d"

/-- What the values of a list are. -/
def literals : List Value → List String
  | [] => []
  | v :: vs => v.literal :: literals vs

/-- What the entries of a mapping are. -/
def entryLiterals : List (Value × Value) → List String
  | [] => []
  | (k, v) :: rest => (k.literal ++ ": " ++ v.literal) :: entryLiterals rest

end

/-- A value in running text. -/
def display : Value → String
  | str s => s
  | date _ d => d.text
  | stamp _ t => t.text
  | v => v.literal

@[simp] theorem display_str (s : String) : (str s).display = s := rfl

/-- A value in running text, if it has one. -/
def display? (v : Value) : Option String := if v.flaw?.isNone then some v.display else none

@[simp] theorem display?_str (s : String) : (str s).display? = some s := rfl

/-! ## Order -/

/-- The order in which the members of a set are shown: whole numbers by size, then texts by their
code points, then all else by their literals. -/
def comesBefore (a b : Value) : Bool :=
  match a.whole?, b.whole? with
  | some m, some n => m ≤ n
  | some _, none => true
  | none, some _ => false
  | none, none =>
    match a, b with
    | str s, str t => s ≤ t
    | str _, _ => true
    | _, str _ => false
    | _, _ => a.literal ≤ b.literal

end Value

end LineShell
