import LineShell.Text.Blank
import LineShell.Text.Digits

/-!
# Reading numbers

Whole numbers in a base, and floats, from their texts. Both may stand between blanks, have a sign,
and be written in the digits of any script. A whole number in base 2, 8 or 16 may repeat the mark of
its base; in base 10 it may not have more than `maxDigits` digits.
-/

namespace LineShell.Decimal

/-- The most digits with which a whole number is read, and written, in base 10. -/
def maxDigits : Nat := 4300

/-- Why a text is no whole number. -/
inductive WholeFlaw where
  | notWhole
  /-- There are too many digits: this many. -/
  | tooLong (count : Nat)
deriving DecidableEq, Repr

/-- The value of a digit in the bases up to 36. -/
def digitValue? (c : Char) : Option Nat :=
  if c.isDigit then some (c.toNat - 0x30)
  else if c.isLower then some (c.toNat - 0x57)
  else if c.isUpper then some (c.toNat - 0x37)
  else none

/-- The number with these digits. -/
def digits? (base : Nat) (cs : List Char) : Option Nat :=
  if cs.isEmpty then none
  else cs.foldl (fun n c =>
    match n, digitValue? c with
    | some n, some d => if d < base then some (n * base + d) else none
    | _, _ => none) (some 0)

/-- The letter that marks a base. -/
def baseMark (base : Nat) : Option Char :=
  match base with
  | 2 => some 'b'
  | 8 => some 'o'
  | 16 => some 'x'
  | _ => none

/-- The text without the mark of its base. -/
def dropMark (base : Nat) (cs : List Char) : List Char :=
  match cs with
  | '0' :: x :: rest => if baseMark base == some x.toLower then rest else cs
  | _ => cs

/-- A text as a sign and what follows it. -/
def splitSign : List Char → Bool × List Char
  | '-' :: cs => (true, cs)
  | '+' :: cs => (false, cs)
  | cs => (false, cs)

/-- Whether a character is a blank of ASCII, not counting the separator controls. -/
def isPlainBlank (c : Char) : Bool := c == ' ' || (0x09 ≤ c.toNat && c.toNat ≤ 0x0D)

/-- A text in ASCII: other blanks are spaces, other digits are ASCII digits, and anything else is
replaced by a mark that no number has, with which the text ends. -/
def toAscii : List Char → List Char
  | [] => []
  | c :: cs =>
    if c.toNat < 0x7F then c :: toAscii cs
    else if Text.isBlank c then ' ' :: toAscii cs
    else if Text.asciiDigit c != c then Text.asciiDigit c :: toAscii cs
    else ['?']

/-- A text in ASCII without the blanks around it. -/
def plain (text : List Char) : List Char :=
  ((((toAscii text).dropWhile isPlainBlank).reverse).dropWhile isPlainBlank).reverse

/-- The whole number that a text is, in a base. Too many digits are a flaw even if something that
is no digit follows them. -/
def whole (base : Nat) (text : List Char) : Except WholeFlaw Int :=
  let (negative, body) := splitSign (plain text)
  let body := dropMark base body
  let run := body.takeWhile fun c => (digitValue? c).any (· < base)
  if base = 10 && maxDigits < run.length then .error (.tooLong run.length)
  else if run.length < body.length then .error .notWhole
  else match digits? base run with
    | some n => .ok (if negative then -(n : Int) else n)
    | none => .error .notWhole

/-- The float that is nearest to `digits * 10 ^ exponent`. Exponents that are far out of range are
not worked out. -/
def nearest (digits : Nat) (exponent : Int) : Float :=
  let size : Int := (Nat.toDigits 10 digits).length + exponent
  if digits = 0 || size < -400 then 0.0
  else if 400 < size then 1.0 / 0.0
  else if exponent < 0 then Float.ofScientific digits true exponent.natAbs
  else Float.ofScientific digits false exponent.natAbs

/-- The float that is nearest to a whole number, if there is one. -/
def ofNat? (n : Nat) : Option Float :=
  let x := nearest n 0
  if x.isInf then none else some x

/-- The exponent at the end of a float, if it is one. -/
def exponent? : List Char → Option Int
  | [] => some 0
  | e :: rest =>
    if e == 'e' || e == 'E' then
      let (negative, ds) := splitSign rest
      if ds.all Char.isDigit then
        (digits? 10 ds).map fun n => if negative then -(n : Int) else n
      else none
    else none

/-- The float that a text without a sign is. -/
def unsigned? (cs : List Char) : Option Float :=
  let word := String.ofList (cs.map Char.toLower)
  if word = "inf" || word = "infinity" then some (1.0 / 0.0)
  else if word = "nan" then some (0.0 / 0.0)
  else
    let whole := cs.takeWhile Char.isDigit
    let rest := cs.drop whole.length
    let (fraction, rest) := match rest with
      | '.' :: r => (r.takeWhile Char.isDigit, r.dropWhile Char.isDigit)
      | r => ([], r)
    if whole.isEmpty && fraction.isEmpty then none
    else
      match digits? 10 (whole ++ fraction), exponent? rest with
      | some n, some e => some (nearest n (e - fraction.length))
      | _, _ => none

/-- The float that a text is. -/
def float? (text : List Char) : Option Float :=
  let (negative, body) := splitSign (plain text)
  (unsigned? body).map fun x => if negative then -x else x

end LineShell.Decimal
