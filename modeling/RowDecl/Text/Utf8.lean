import RowDecl.Number.Decimal
import RowDecl.Text.Quoted

/-! # UTF-8

`decode` reads bytes as text. A byte sequence that is no character is a fault, which tells where the
sequence begins and how many of its bytes could still have begun a character. `unifyNewlines` gives
all lines the same ending. -/

namespace RowDecl.Text

/-- Why bytes are no character. -/
inductive Utf8Reason
  | startByte
  | continuationByte
  | endOfData
  deriving DecidableEq, Repr

def Utf8Reason.message : Utf8Reason → String
  | .startByte => "invalid start byte"
  | .continuationByte => "invalid continuation byte"
  | .endOfData => "unexpected end of data"

/-- The first sequence of bytes that is no character: its place, its first byte and its length. -/
structure Utf8Fault where
  reason : Utf8Reason
  offset : Nat
  first : UInt8
  count : Nat
  deriving DecidableEq, Repr

def Utf8Fault.message (f : Utf8Fault) : String :=
  let place :=
    if f.count = 1 then
      "byte 0x" ++ String.ofList (hexDigits 2 f.first.toNat) ++ " in position " ++ natText f.offset
    else
      "bytes in position " ++ natText f.offset ++ "-" ++ natText (f.offset + f.count - 1)
  "'utf-8' codec can't decode " ++ place ++ ": " ++ f.reason.message

/-- A character that has begun: its first byte, the number of bytes read, the number of bytes owed
after the next one, the range of the next one and the value so far. -/
structure Begun where
  first : UInt8
  taken : Nat
  owed : Nat
  low : Nat
  high : Nat
  value : Nat

/-- A character of one byte, the beginning of a longer one, or none for a byte that begins nothing.
-/
def begin? (b : UInt8) : Option (Char ⊕ Begun) :=
  let n := b.toNat
  if n < 0x80 then some (.inl (Char.ofNat n))
  else if n < 0xC2 then none
  else if n < 0xE0 then some (.inr ⟨b, 1, 0, 0x80, 0xBF, n - 0xC0⟩)
  else if n < 0xF0 then
    let low := if n = 0xE0 then 0xA0 else 0x80
    let high := if n = 0xED then 0x9F else 0xBF
    some (.inr ⟨b, 1, 1, low, high, n - 0xE0⟩)
  else if n < 0xF5 then
    let low := if n = 0xF0 then 0x90 else 0x80
    let high := if n = 0xF4 then 0x8F else 0xBF
    some (.inr ⟨b, 1, 2, low, high, n - 0xF0⟩)
  else none

/-- Decodes from a position on. `done` holds the characters before it, the last one first, and
`begun` the character that it lies in, if it lies in one. -/
def decodeFrom (position : Nat) (done : List Char) (begun : Option Begun) :
    List UInt8 → Except Utf8Fault (List Char)
  | [] =>
    match begun with
    | none => .ok done.reverse
    | some g => .error ⟨.endOfData, position - g.taken, g.first, g.taken⟩
  | b :: r =>
    match begun with
    | none =>
      match begin? b with
      | none => .error ⟨.startByte, position, b, 1⟩
      | some (.inl c) => decodeFrom (position + 1) (c :: done) none r
      | some (.inr g) => decodeFrom (position + 1) done (some g) r
    | some g =>
      if g.low ≤ b.toNat ∧ b.toNat ≤ g.high then
        let value := 0x40 * g.value + (b.toNat - 0x80)
        match g.owed with
        | 0 => decodeFrom (position + 1) (Char.ofNat value :: done) none r
        | owed + 1 =>
          decodeFrom (position + 1) done (some ⟨g.first, g.taken + 1, owed, 0x80, 0xBF, value⟩) r
      else .error ⟨.continuationByte, position - g.taken, g.first, g.taken⟩

/-- The text that the bytes encode. -/
def decode (bytes : ByteArray) : Except Utf8Fault (List Char) :=
  decodeFrom 0 [] none bytes.data.toList

/-- Turns a carriage return, with the line feed after it if there is one, into a line feed. -/
def unifyNewlines : List Char → List Char
  | [] => []
  | '\r' :: '\n' :: r => '\n' :: unifyNewlines r
  | '\r' :: r => '\n' :: unifyNewlines r
  | c :: r => c :: unifyNewlines r

/-- The text of a file: its bytes decoded, every line ended by a line feed. -/
def ofBytes (bytes : ByteArray) : Except Utf8Fault String :=
  (decode bytes).map fun s => String.ofList (unifyNewlines s)

end RowDecl.Text
