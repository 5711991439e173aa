/-!
# Base 64

Three bytes are written as four characters of 64; what is missing at the end is filled with `=`.

* `encodeLines` - the text in lines of 76 characters
* `decode` - the bytes of a text, characters outside the alphabet being passed over
-/

namespace LineShell.Text.Base64

/-- The 64 characters. -/
def alphabet : List Char :=
  "ABCDEFGHIJKLMNOPQRSTUVWXYZabcdefghijklmnopqrstuvwxyz0123456789+/".toList

/-- The character of a value below 64. -/
def digit (n : Nat) : Char := alphabet.getD n '='

/-- The value of a character. -/
def value? (c : Char) : Option Nat := alphabet.findIdx? (· == c)

/-- Writes bytes. -/
def encode : List UInt8 → List Char
  | [] => []
  | [a] =>
    let n := a.toNat * 16
    [digit (n / 64), digit (n % 64), '=', '=']
  | [a, b] =>
    let n := (a.toNat * 256 + b.toNat) * 4
    [digit (n / 4096), digit (n / 64 % 64), digit (n % 64), '=']
  | a :: b :: c :: rest =>
    let n := (a.toNat * 256 + b.toNat) * 256 + c.toNat
    digit (n / 262144) :: digit (n / 4096 % 64) :: digit (n / 64 % 64) :: digit (n % 64) ::
      encode rest

/-- Writes bytes in lines, each of which ends with a line feed. -/
def encodeLines (bs : List UInt8) : List Char :=
  match bs with
  | [] => []
  | b :: rest => encode ((b :: rest).take 57) ++ '\n' :: encodeLines ((b :: rest).drop 57)
termination_by bs.length
decreasing_by
  rw [List.length_drop, List.length_cons]
  omega

/-- Reads characters: `held` are the values since the last whole group, last first, and `pads` the
signs at its end. Nothing is read after a group that is filled up. -/
def decodeFrom (held : List Nat) (pads : Nat) : List Char → Option (List UInt8)
  | [] => if held.isEmpty then some [] else none
  | c :: cs =>
    if c == '=' then
      if 2 ≤ held.length && 4 ≤ held.length + pads + 1 then some [] else
        decodeFrom held (if 2 ≤ held.length then pads + 1 else pads) cs
    else match value? c, held with
      | none, _ => decodeFrom held pads cs
      | some v, [] => decodeFrom [v] 0 cs
      | some v, [a] =>
        (decodeFrom [v, a] 0 cs).map (UInt8.ofNat ((a * 4 + v / 16) % 256) :: ·)
      | some v, [b, a] =>
        (decodeFrom [v, b, a] 0 cs).map (UInt8.ofNat ((b * 16 + v / 4) % 256) :: ·)
      | some v, b :: _ =>
        (decodeFrom [] 0 cs).map (UInt8.ofNat ((b * 64 + v) % 256) :: ·)

/-- Reads a text; `none` if its last group is not whole. -/
def decode (cs : List Char) : Option (List UInt8) := decodeFrom [] 0 cs

end LineShell.Text.Base64
