import LineShell.Decimal.Reading
import LineShell.Text.Base64
import LineShell.Text.LetterCase
import LineShell.Value.Basic
import LineShell.Yaml.Fault
import LineShell.Yaml.Tag

/-!
# The values of scalars

A scalar makes a value of the kind that its tag names (`scalarOf`). Numbers may hold underscores,
and may be written in sixtieths.
-/

namespace LineShell.Yaml

/-- The truth value of a text. -/
def truthOf (text : List Char) : Except Fault Bool :=
  let word := Text.lower (String.ofList text)
  if ["yes", "true", "on"].contains word then .ok true
  else if ["no", "false", "off"].contains word then .ok false
  else .error (.truth word)

/-- The whole number of a text in a base. -/
def wholeOf (base : Nat) (text : List Char) : Except Fault Int :=
  (Decimal.whole base text).mapError fun
    | .notWhole => .whole base (String.ofList text)
    | .tooLong count => .digits count

/-- The number whose digits in base sixty these are, last first. -/
def sixtieths : List Int → Int
  | [] => 0
  | d :: ds => d + 60 * sixtieths ds

/-- The whole number of a text, in the notation that it begins with. -/
def intOf (text : List Char) : Except Fault Int :=
  match text.filter (· != '_') with
  | [] => .error .emptyNumber
  | c :: cs =>
    let (negative, body) := Decimal.splitSign (c :: cs)
    let signed (r : Except Fault Int) : Except Fault Int :=
      r.map fun n => if negative then -n else n
    match body with
    | [] => .error .emptyNumber
    | ['0'] => .ok 0
    | '0' :: 'b' :: rest => signed (wholeOf 2 rest)
    | '0' :: 'x' :: rest => signed (wholeOf 16 rest)
    | '0' :: _ => signed (wholeOf 8 body)
    | _ =>
      if body.contains ':' then
        signed (((Tag.cutAt ':' body).mapM (wholeOf 10)).map fun ds => sixtieths ds.reverse)
      else signed (wholeOf 10 body)

/-- The float of a text that has no notation of its own. -/
def plainFloatOf (text : List Char) : Except Fault Float :=
  match Decimal.float? text with
  | some x => .ok x
  | none => .error (.float (String.ofList text))

/-- Adds up the float whose digits in base sixty these are, last first; the next one counts `weight`
times. A weight that is no float is a fault, even of a zero. -/
def floatSixtieths (sum : Float) (weight : Nat) : List Float → Except Fault Float
  | [] => .ok sum
  | d :: ds =>
    match Decimal.ofNat? weight with
    | some w => floatSixtieths (sum + d * w) (weight * 60) ds
    | none => .error .weight

/-- A float as a value. What is not a number is so for itself. -/
def floatValue (id : Nat) (negative : Bool) (x : Float) : Value :=
  if x.isNaN then .nan (some id) else .float (if negative then -x else x)

/-- The float of a text. -/
def floatOf (id : Nat) (text : List Char) : Except Fault Value :=
  match (Text.lower (String.ofList (text.filter (· != '_')))).toList with
  | [] => .error .emptyNumber
  | c :: cs =>
    let (negative, body) := Decimal.splitSign (c :: cs)
    if body = ".inf".toList then .ok (floatValue id negative (1.0 / 0.0))
    else if body = ".nan".toList then .ok (.nan none)
    else
      let x : Except Fault Float :=
        if body.contains ':' then
          ((Tag.cutAt ':' body).mapM plainFloatOf).bind fun ds => floatSixtieths 0.0 1 ds.reverse
        else plainFloatOf body
      x.map (floatValue id negative)

/-- The number with these digits; no digits are zero. -/
def numberOf (ds : List Char) : Nat := ds.foldl (fun n d => n * 10 + (d.toNat - 0x30)) 0

/-- The day or time of a text; a line feed may follow. -/
def timeOf (id : Nat) (text : List Char) : Except Fault Value :=
  match Tag.readTime (Tag.dropFinalFeed text) with
  | none => .error .time
  | some t =>
    match t.clock with
    | none =>
      ((Date.of? (numberOf t.year) (numberOf t.month) (numberOf t.day)).mapError .calendar).map
        (.date (some id))
    | some (h, m, s) =>
      let micro := numberOf ((t.fraction ++ List.replicate 6 '0').take 6)
      let offset := t.zone.map fun (sign, h, m) =>
        let minutes : Int := numberOf h * 60 + numberOf m
        if sign == some '-' then -minutes else minutes
      ((Stamp.of? (numberOf t.year, numberOf t.month, numberOf t.day) (numberOf h) (numberOf m)
        (numberOf s) micro offset).mapError .calendar).map (.stamp (some id))

/-- The bytes of a text. -/
def bytesOf (text : List Char) : Except Fault (List UInt8) :=
  if text.all (·.toNat < 0x80) then
    match Text.Base64.decode text with
    | some bs => .ok bs
    | none => .error .malformed
  else .error .malformed

/-- The value of a scalar, which may be one only by the value mark of a mapping. -/
def scalarOf (id : Nat) (tag : Tag) (text : List Char) (isMapping : Bool) : Except Fault Value :=
  match tag with
  | .null => .ok .null
  | .bool => (truthOf text).map .bool
  | .int => (intOf text).map .int
  | .float => floatOf id text
  | .binary => (bytesOf text).map .bytes
  | .timestamp => if isMapping then .error .timeOfMapping else timeOf id text
  | .str => .ok (.str (String.ofList text))
  | _ => .error .malformed

end LineShell.Yaml
