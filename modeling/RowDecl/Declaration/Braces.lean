import RowDecl.Error
import RowDecl.Text.Without

/-! # Balanced braces

A document is checked before it is put in place: as many braces must open as close. Braces in quoted
names and in comments do not count, so `code` first takes quoted names and comments out. -/

namespace RowDecl

/-- The length of the rest of a quoted name behind its opening quote, the closing one included, if
the name ends on its line. -/
def quotedLength? : List Char → Option Nat
  | [] => none
  | '"' :: _ => some 1
  | '\n' :: _ => none
  | '\\' :: c :: r => if c = '\n' then none else (quotedLength? r).map (· + 2)
  | ['\\'] => none
  | _ :: r => (quotedLength? r).map (· + 1)

/-- The length of the comment that a text goes on with up to the end of the line. -/
def lineLength (s : List Char) : Nat := (s.takeWhile (· ≠ '\n')).length

/-- The length of the quoted name or comment at the front of a text, zero if there is none. -/
def hiddenLength : List Char → Nat
  | '"' :: r => match quotedLength? r with | some n => n + 1 | none => 0
  | '/' :: '/' :: r => lineLength r + 2
  | _ => 0

/-- The text without quoted names and comments. -/
def code (s : List Char) : List Char := Text.without hiddenLength s

def openingBraces (content : String) : Nat := (code content.toList).count '\x7b'

def closingBraces (content : String) : Nat := (code content.toList).count '\x7d'

/-- Refuses a document whose braces do not balance. -/
def checkBraces (content : String) : Except Error Unit :=
  let opened := openingBraces content
  let closed := closingBraces content
  if opened = closed then .ok () else .error (.unbalancedBraces opened closed)

end RowDecl
