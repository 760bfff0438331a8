import RowDecl.Text.Printable

/-! # Quoted text

A text between two quotation marks, as it is shown inside lists and messages. The mark is the
apostrophe unless the text has one and has no double quote; the mark, the backslash and all that is
not printable are escaped. -/

namespace RowDecl.Text

def apostrophe : Char := '\x27'

/-- The mark that is put around a text. -/
def quotationMark (s : List Char) : Char :=
  if s.contains apostrophe && !s.contains '"' then '"' else apostrophe

/-- A number in base sixteen, filled up with zeros to a width. -/
def hexDigits (width n : Nat) : List Char :=
  let ds := Nat.toDigits 16 n
  List.replicate (width - ds.length) '0' ++ ds

/-- The escape of a character by its code point, in two, four or eight digits. -/
def codePointEscape (n : Nat) : List Char :=
  if n ≤ 0xFF then '\\' :: 'x' :: hexDigits 2 n
  else if n ≤ 0xFFFF then '\\' :: 'u' :: hexDigits 4 n
  else '\\' :: 'U' :: hexDigits 8 n

/-- One character between two marks. -/
def quotedChar (mark c : Char) : List Char :=
  if c = mark ∨ c = '\\' then ['\\', c]
  else if c = '\n' then ['\\', 'n']
  else if c = '\r' then ['\\', 'r']
  else if c = '\t' then ['\\', 't']
  else if c.toNat < 0x20 ∨ c.toNat = 0x7F then codePointEscape c.toNat
  else if c.toNat < 0x7F ∨ isPrintable c then [c]
  else codePointEscape c.toNat

/-- The text between its marks. -/
def quoted (s : List Char) : List Char :=
  let mark := quotationMark s
  mark :: (s.flatMap (quotedChar mark) ++ [mark])

end RowDecl.Text
