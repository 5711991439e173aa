/-!
# Reading UTF-8

Bytes become characters, up to the first sequence that is none (`decodeFrom`). The fault says where
that sequence starts, which of its bytes are to blame, and why; what was read before stays.

Only the shortest encodings of characters are accepted: no surrogates, nothing above the last
character, and no overlong forms. The second byte of a sequence already shows all three, so its
range depends on the first (`secondRange`).
-/

namespace LineShell.Text.Utf8

/-- Why bytes are no character. -/
inductive Flaw where
  | badStart
  | badContinuation
  | truncated
deriving DecidableEq, Repr

/-- A sequence of bytes that is no character, and where it starts. -/
structure Fault where
  start : Nat
  bytes : List UInt8
  flaw : Flaw
deriving DecidableEq, Repr

namespace Flaw

/-- The flaw in words. -/
def words : Flaw → String
  | badStart => "invalid start byte"
  | badContinuation => "invalid continuation byte"
  | truncated => "unexpected end of data"

end Flaw

/-- Two hexadecimal digits of a byte. -/
def hexByte (b : UInt8) : String :=
  let digit (n : Nat) : Char := if n < 10 then Char.ofNat (0x30 + n) else Char.ofNat (0x57 + n)
  String.ofList [digit (b.toNat / 16), digit (b.toNat % 16)]

namespace Fault

/-- The fault in words. -/
def message (f : Fault) : String :=
  match f.bytes with
  | [b] => s!"'utf-8' codec can't decode byte 0x{hexByte b} in position {f.start}: {f.flaw.words}"
  | bs => s!"'utf-8' codec can't decode bytes in position {f.start}-" ++
      s!"{f.start + bs.length - 1}: {f.flaw.words}"

end Fault

/-- Whether a byte continues a sequence. -/
def isContinuation (b : UInt8) : Bool := 0x80 ≤ b && b ≤ 0xBF

/-- The second bytes that may follow the first byte of a sequence. -/
def secondRange (b : UInt8) : UInt8 × UInt8 :=
  if b == 0xE0 then (0xA0, 0xBF)
  else if b == 0xED then (0x80, 0x9F)
  else if b == 0xF0 then (0x90, 0xBF)
  else if b == 0xF4 then (0x80, 0x8F)
  else (0x80, 0xBF)

/-- Whether a second byte may follow a first one. -/
def isSecond (first b : UInt8) : Bool := (secondRange first).1 ≤ b && b ≤ (secondRange first).2

/-- The character whose sequence has this first byte and these continuations; `lead` is what the
first byte contributes. -/
def assemble (lead : Nat) (more : List UInt8) : Char :=
  Char.ofNat (more.foldl (fun n b => n * 64 + (b.toNat - 0x80)) lead)

/-- What was read, and the sequence that stopped it. -/
structure Decoded where
  text : List Char
  fault : Option Fault
deriving DecidableEq

/-- Puts a character in front. -/
def Decoded.cons (c : Char) (d : Decoded) : Decoded := { d with text := c :: d.text }

/-- Stops at a sequence that is no character. -/
def Decoded.stop (start : Nat) (bytes : List UInt8) (flaw : Flaw) : Decoded :=
  ⟨[], some ⟨start, bytes, flaw⟩⟩

/-- Reads bytes from a position on, up to the first that are no character. -/
def decodeFrom (pos : Nat) : List UInt8 → Decoded
  | [] => ⟨[], none⟩
  | a :: rest =>
    if a < 0x80 then (decodeFrom (pos + 1) rest).cons (Char.ofNat a.toNat)
    else if a < 0xC2 || 0xF5 ≤ a then .stop pos [a] .badStart
    else match rest with
      | [] => .stop pos [a] .truncated
      | b :: rest =>
        if !isSecond a b then .stop pos [a] .badContinuation
        else if a < 0xE0 then
          (decodeFrom (pos + 2) rest).cons (assemble (a.toNat - 0xC0) [b])
        else match rest with
          | [] => .stop pos [a, b] .truncated
          | c :: rest =>
            if !isContinuation c then .stop pos [a, b] .badContinuation
            else if a < 0xF0 then
              (decodeFrom (pos + 3) rest).cons (assemble (a.toNat - 0xE0) [b, c])
            else match rest with
              | [] => .stop pos [a, b, c] .truncated
              | d :: rest =>
                if !isContinuation d then .stop pos [a, b, c] .badContinuation
                else (decodeFrom (pos + 4) rest).cons (assemble (a.toNat - 0xF0) [b, c, d])

/-- Reads all bytes, or says where they stop to be text. -/
def decode (bs : List UInt8) : Except Fault (List Char) :=
  let d := decodeFrom 0 bs
  match d.fault with
  | none => .ok d.text
  | some f => .error f

/-- ASCII is read byte by byte. -/
theorem decodeFrom_ascii {bs : List UInt8} (h : ∀ b ∈ bs, b < 0x80) (pos : Nat) :
    decodeFrom pos bs = ⟨bs.map fun b => Char.ofNat b.toNat, none⟩ := by
  induction bs generalizing pos with
  | nil => rfl
  | cons b bs ih =>
    unfold decodeFrom
    rw [if_pos (h b List.mem_cons_self), ih fun x hx => h x (List.mem_cons_of_mem _ hx)]
    rfl

end LineShell.Text.Utf8
