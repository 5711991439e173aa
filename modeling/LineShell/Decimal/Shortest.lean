/-!
# The shortest decimal of a float

A finite float stands for an interval of numbers: all that are nearer to it than to any other float.
Its shortest decimal is the one with the fewest digits in that interval, and the nearest of those.

## How it is found

`decode` takes the float apart into `m * 2 ^ q`. For 1, 2, … digits, `onGrid?` looks at the two
neighbours of the value among the decimals with that many digits; the first count with a neighbour
in the interval wins. Everything is exact: both sides of a comparison are brought to whole numbers
(`Ratio`). Seventeen digits always suffice.
-/

namespace LineShell.Decimal

/-- A decimal `digits * 10 ^ exponent`. -/
structure Scientific where
  digits : Nat
  exponent : Int
deriving DecidableEq, Repr

/-- A positive fraction. -/
structure Ratio where
  num : Nat
  den : Nat

namespace Ratio

/-- The power of a base. -/
def power (base : Nat) (e : Int) : Ratio :=
  if 0 ≤ e then ⟨Nat.pow base e.toNat, 1⟩ else ⟨1, Nat.pow base (-e).toNat⟩

/-- A multiple of a fraction. -/
def scale (n : Nat) (r : Ratio) : Ratio := ⟨n * r.num, r.den⟩

/-- How often one fraction goes into another. -/
def quotient (a b : Ratio) : Nat := a.num * b.den / (a.den * b.num)

/-- Whether one fraction is less than another. -/
def less (a b : Ratio) : Bool := a.num * b.den < b.num * a.den

end Ratio

/-- How many decimal digits a number has; zero has one. -/
def countDigits (n : Nat) : Nat := (Nat.toDigits 10 n).length

/-- The exponent of the first digit of a positive fraction. -/
def leading (r : Ratio) : Int :=
  if r.den ≤ r.num then (countDigits (r.num / r.den) : Int) - 1
  else -(countDigits ((r.den + r.num - 1) / r.num - 1) : Int)

/-- A positive float taken apart: its value is `mantissa * 2 ^ exponent`. -/
structure Binary where
  mantissa : Nat
  exponent : Int
  /-- Whether the next smaller float is only half as far as the next greater one. -/
  atPower : Bool

/-- The weight of the first bit of a mantissa, which is not stored. -/
def leadingBit : Nat := 1 <<< 52

/-- Takes the bits of a finite float apart, without its sign. -/
def decode (bits : UInt64) : Binary :=
  let field := (bits.toNat >>> 52) % 2048
  let fraction := bits.toNat % leadingBit
  if field = 0 then ⟨fraction, -1074, false⟩
  else ⟨leadingBit + fraction, (field : Int) - 1075, fraction == 0 && field != 1⟩

/-- Whether the bits of a float have a minus sign. -/
def isNegative (bits : UInt64) : Bool := bits >>> 63 == 1

namespace Binary

/-- The numbers that are nearer to the float than to any other, in quarters of its last place. -/
def low (b : Binary) : Nat := if b.atPower then 4 * b.mantissa - 1 else 4 * b.mantissa - 2

/-- The upper end of the interval of a float. -/
def high (b : Binary) : Nat := 4 * b.mantissa + 2

/-- A quarter of the last place. -/
def quarter (b : Binary) : Ratio := .power 2 (b.exponent - 2)

/-- Whether a fraction lies in the interval of a float. The ends belong to floats whose mantissa is
even. -/
def covers (b : Binary) (r : Ratio) : Bool :=
  let lo := b.quarter.scale b.low
  let hi := b.quarter.scale b.high
  if b.mantissa % 2 = 0 then !r.less lo && !hi.less r else lo.less r && r.less hi

/-- The better of the two neighbours of a float among the decimals with `count` digits, if one of
them lies in its interval. Of two the nearer is better, and of two that are equally near the even
one. -/
def onGrid? (b : Binary) (count : Nat) : Option Scientific :=
  let value := b.quarter.scale (4 * b.mantissa)
  let exponent := leading value - count + 1
  let unit := Ratio.power 10 exponent
  let d := value.quotient unit
  let below := b.covers (unit.scale d) && d != 0
  let above := b.covers (unit.scale (d + 1))
  if below && above then
    let middle := (Ratio.mk unit.num (2 * unit.den)).scale (2 * d + 1)
    if value.less middle then some ⟨d, exponent⟩
    else if middle.less value then some ⟨d + 1, exponent⟩
    else if d % 2 = 0 then some ⟨d, exponent⟩ else some ⟨d + 1, exponent⟩
  else if below then some ⟨d, exponent⟩
  else if above then some ⟨d + 1, exponent⟩
  else none

/-- The shortest decimal of a positive float. -/
def shortest (b : Binary) : Scientific :=
  ((List.range 17).findSome? fun n => b.onGrid? (n + 1)).getD ⟨b.mantissa, 0⟩

end Binary

/-! ## Text -/

/-- How a decimal is written. -/
structure Format where
  /-- The least position of the point, counted from the first digit, that is written in place. -/
  least : Int
  /-- The greatest such position. -/
  greatest : Int
  /-- Whether a number with an exponent always has a fraction. -/
  pointed : Bool

/-- Zeros at the end say nothing. -/
def trimZeros : List Char → List Char
  | cs => (cs.reverse.dropWhile (· == '0')).reverse

/-- The exponent, with its sign and two digits at least. -/
def exponentText (e : Int) : List Char :=
  let ds := Nat.toDigits 10 e.natAbs
  'e' :: (if e < 0 then '-' else '+') :: (if ds.length < 2 then '0' :: ds else ds)

/-- Writes a positive decimal. -/
def render (f : Format) (d : Scientific) : List Char :=
  let all := Nat.toDigits 10 d.digits
  let ds := trimZeros all
  let point : Int := all.length + d.exponent
  if f.least ≤ point && point ≤ f.greatest then
    if point ≤ 0 then '0' :: '.' :: List.replicate (-point).toNat '0' ++ ds
    else if ds.length ≤ point.toNat then
      ds ++ List.replicate (point.toNat - ds.length) '0' ++ ['.', '0']
    else ds.take point.toNat ++ '.' :: ds.drop point.toNat
  else
    let fraction := match ds.drop 1 with
      | [] => if f.pointed then ['.', '0'] else []
      | r => '.' :: r
    ds.take 1 ++ fraction ++ exponentText (point - 1)

/-- The spellings of what is no finite number. -/
structure Specials where
  nan : String
  infinite : String

/-- Writes a float. -/
def floatText (f : Format) (sp : Specials) (x : Float) : String :=
  if x.isNaN then sp.nan
  else
    let bits := x.toBits
    let sign := if isNegative bits then "-" else ""
    if x.isInf then sign ++ sp.infinite
    else
      let b := decode bits
      if b.mantissa = 0 then sign ++ "0.0"
      else sign ++ String.ofList (render f b.shortest)

end LineShell.Decimal
