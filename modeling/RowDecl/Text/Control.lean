import RowDecl.Text.Without

/-! # Control sequences

A control sequence tells a terminal how to show what follows: an escape character and an opening
bracket, then parameters, then one letter. `plain` is a text without its control sequences. A
sequence that another one leaves behind when it goes stays. -/

namespace RowDecl.Text

/-- The characters that parameters are made of. -/
def isParameter (c : Char) : Bool := c.isDigit || c = ';' || c = '?'

/-- The length of the parameters and the letter behind them, if a text begins with such. -/
def parametersLength? : List Char → Option Nat
  | [] => none
  | c :: r =>
    if c.isAlpha then some 1
    else if isParameter c then (parametersLength? r).map (· + 1)
    else none

/-- The length of the control sequence at the front of a text, zero if there is none. -/
def controlLength : List Char → Nat
  | '\x1b' :: '[' :: r => match parametersLength? r with | some n => n + 2 | none => 0
  | _ => 0

/-- The text without control sequences. -/
def plain (s : List Char) : List Char := without controlLength s

end RowDecl.Text
