import RowDecl.Json.Basic
import RowDecl.Number.Decimal
import RowDecl.Text.Half

/-! # Reading a document

`Json.read` reads a text as one value, within the bounds of a `Reader`. Each step returns what is
left of the text together with the fact that it is shorter, which is why reading ends; a fault is
placed by the number of characters that are left where it was met. -/

namespace RowDecl.Json

/-- What is wrong with a document. -/
inductive Complaint
  | byteOrderMark
  | valueExpected
  | nameExpected
  | colonExpected
  | commaExpected
  | unterminatedString
  | controlCharacter
  | badEscape
  | badCodePoint
  | extraData
  deriving DecidableEq, Repr

def Complaint.message : Complaint → String
  | .byteOrderMark => "Unexpected UTF-8 BOM (decode using utf-8-sig)"
  | .valueExpected => "Expecting value"
  | .nameExpected => "Expecting property name enclosed in double quotes"
  | .colonExpected => "Expecting ':' delimiter"
  | .commaExpected => "Expecting ',' delimiter"
  | .unterminatedString => "Unterminated string starting at"
  | .controlCharacter => "Invalid control character at"
  | .badEscape => "Invalid \\escape"
  | .badCodePoint => "Invalid \\uXXXX escape"
  | .extraData => "Extra data"

/-- What a reader can take in: how many digits of a whole number, how many arrays and objects inside
each other, and which characters it has for the halves of surrogate pairs. -/
structure Reader where
  digits : Nat
  depth : Nat
  halves : Text.Halves

/-- What values are nested in. -/
inductive Nest
  | array
  | object
  deriving DecidableEq, Repr

def Nest.word : Nest → String
  | .array => "array"
  | .object => "object"

/-- What goes beyond a bound: a whole number with its digits, a value inside others that is read,
or one that is shown. -/
inductive Overrun
  | digits (bound given : Nat)
  | depth (nest : Nest)
  | display
  deriving DecidableEq, Repr

def Overrun.message : Overrun → String
  | .digits bound given =>
    "Exceeds the limit (" ++ natText bound ++ " digits) for integer string conversion: value has "
      ++ natText given ++ " digits; use sys.set_int_max_str_digits() to increase the limit"
  | .depth nest =>
    "maximum recursion depth exceeded while decoding a JSON " ++ nest.word
      ++ " from a unicode string"
  | .display => "maximum recursion depth exceeded while getting the repr of an object"

/-- Why reading stops: a complaint and the number of characters that are left where it applies, or
what goes beyond a bound. -/
inductive Stop
  | wrong (complaint : Complaint) (left : Nat)
  | overrun (o : Overrun)

/-- What is left of a text after some of it has been read. -/
abbrev Rest (s : List Char) := { r : List Char // r.length < s.length }

/-- The outcome of reading a part of a text. -/
abbrev Reading (α : Type) (s : List Char) := Except Stop (α × Rest s)

def isGap (c : Char) : Bool := c = ' ' || c = '\t' || c = '\n' || c = '\r'

/-- The text after the gap at its front. -/
def skipGap (s : List Char) : List Char := s.dropWhile isGap

theorem skipGap_le (s : List Char) : (skipGap s).length ≤ s.length :=
  (List.dropWhile_sublist isGap).length_le

theorem length_lt_of_skipGap {s t : List Char} {c : Char} (h : skipGap s = c :: t) :
    t.length < s.length := by
  have := skipGap_le s
  rw [h] at this
  exact this

/-! ## Strings -/

def hexValue? (c : Char) : Option Nat :=
  if '0' ≤ c ∧ c ≤ '9' then some (c.toNat - 0x30)
  else if 'a' ≤ c ∧ c ≤ 'f' then some (c.toNat - 0x57)
  else if 'A' ≤ c ∧ c ≤ 'F' then some (c.toNat - 0x37)
  else none

/-- The number that four hexadecimal digits make. -/
def hexQuad? (a b c d : Char) : Option Nat := do
  let a ← hexValue? a
  let b ← hexValue? b
  let c ← hexValue? c
  let d ← hexValue? d
  return 0x1000 * a + 0x100 * b + 0x10 * c + d

/-- The character of an escape by one letter. -/
def shortEscape? : Char → Option Char
  | '"' => some '"'
  | '\\' => some '\\'
  | '/' => some '/'
  | 'b' => some '\x08'
  | 'f' => some '\x0c'
  | 'n' => some '\n'
  | 'r' => some '\r'
  | 't' => some '\t'
  | _ => none

/-- The character of two code units that form a surrogate pair. -/
def pairChar? (high low : Nat) : Option Char :=
  if 0xD800 ≤ high ∧ high < 0xDC00 ∧ 0xDC00 ≤ low ∧ low < 0xE000 then
    some (Char.ofNat (0x10000 + (high - 0xD800) * 0x400 + (low - 0xDC00)))
  else none

/-- The second half of a surrogate pair, if the text goes on with one. -/
def lowHalf? (high : Nat) : List Char → Option Char
  | '\\' :: 'u' :: a :: b :: c :: d :: _ :: _ => (hexQuad? a b c d).bind (pairChar? high)
  | _ => none

section
variable (m : Reader)

/-- Reads a string from behind its opening mark. `opening` is the number of characters left at the
mark, `done` holds the characters read so far, the last one first. -/
def readString (opening : Nat) (done : List Char) (s : List Char) : Reading String s :=
  match s with
  | [] => .error (.wrong .unterminatedString opening)
  | '"' :: r => .ok (String.ofList done.reverse, ⟨r, by simp⟩)
  | ['\\'] => .error (.wrong .unterminatedString opening)
  | '\\' :: 'u' :: r =>
    match r with
    | a :: b :: c :: d :: e :: t =>
      match hexQuad? a b c d with
      | none => .error (.wrong .badCodePoint (r.length + 1))
      | some n =>
        match lowHalf? n (e :: t) with
        | some x =>
          match readString opening (x :: done) ((e :: t).drop 6) with
          | .ok (v, rest) => .ok (v, ⟨rest.1, by have := rest.2; simp at *; omega⟩)
          | .error stop => .error stop
        | none =>
          match readString opening (m.halves.unitChar n :: done) (e :: t) with
          | .ok (v, rest) => .ok (v, ⟨rest.1, by have := rest.2; simp at *; omega⟩)
          | .error stop => .error stop
    | _ => .error (.wrong .badCodePoint (r.length + 1))
  | '\\' :: c :: r =>
    match shortEscape? c with
    | none => .error (.wrong .badEscape (r.length + 2))
    | some x =>
      match readString opening (x :: done) r with
      | .ok (v, rest) => .ok (v, ⟨rest.1, by have := rest.2; simp at *; omega⟩)
      | .error stop => .error stop
  | c :: r =>
    if c.toNat ≤ 0x1F then .error (.wrong .controlCharacter (r.length + 1))
    else
      match readString opening (c :: done) r with
      | .ok (v, rest) => .ok (v, ⟨rest.1, by have := rest.2; simp at *; omega⟩)
      | .error stop => .error stop
termination_by s.length
decreasing_by all_goals simp; try omega

/-! ## Numbers -/

/-- The digits at the front of a text and what follows them. -/
def spanDigits (s : List Char) : List Char × List Char := s.span Char.isDigit

/-- The number that a list of decimal digits makes. -/
def digitsValue (ds : List Char) : Nat := ds.foldl (fun n c => 10 * n + (c.toNat - 0x30)) 0

/-- The digits of the whole part: a zero alone or digits that do not begin with one. -/
def wholePart? (s : List Char) : Option (List Char × List Char) :=
  match s with
  | '0' :: r => some (['0'], r)
  | _ => match spanDigits s with | ([], _) => none | p => some p

/-- The digits of the fraction, none if there is no fraction. -/
def fractionPart (s : List Char) : Option (List Char) × List Char :=
  match s with
  | '.' :: r => match spanDigits r with | ([], _) => (none, s) | (ds, t) => (some ds, t)
  | _ => (none, s)

/-- The exponent, none if there is no exponent. -/
def exponentPart (s : List Char) : Option Int × List Char :=
  match s with
  | e :: r =>
    if e = 'e' ∨ e = 'E' then
      let (negative, t) := match r with
        | '-' :: t => (true, t)
        | '+' :: t => (false, t)
        | _ => (false, r)
      match spanDigits t with
      | ([], _) => (none, s)
      | (ds, u) => (some (if negative then -(digitsValue ds : Int) else digitsValue ds), u)
    else (none, s)
  | [] => (none, s)

/-- Reads the longest number at the front of a text. Only the digits of a whole number are bounded.
-/
def readNumber (s : List Char) : Except Stop (Json × List Char) :=
  let (negative, t) := match s with | '-' :: t => (true, t) | _ => (false, s)
  match wholePart? t with
  | none => .error (.wrong .valueExpected s.length)
  | some (whole, t) =>
    let (fraction, t) := fractionPart t
    let (exponent, t) := exponentPart t
    match fraction, exponent with
    | none, none =>
      if m.digits < whole.length then .error (.overrun (.digits m.digits whole.length))
      else .ok (.int (if negative then -(digitsValue whole : Int) else digitsValue whole), t)
    | _, _ =>
      let fraction := fraction.getD []
      let value := Binary64.ofDecimal negative (digitsValue (whole ++ fraction))
        (exponent.getD 0 - fraction.length)
      .ok (.float value, t)

/-! ## Values -/

/-- The words that stand for a value. -/
def words : List (List Char × Json) :=
  [("null".toList, .null), ("true".toList, .bool true), ("false".toList, .bool false),
    ("NaN".toList, .float .nan), ("Infinity".toList, .float (.infinite false)),
    ("-Infinity".toList, .float (.infinite true))]

/-- Reads a word or a number. -/
def readScalar (s : List Char) : Reading Json s :=
  match words.find? fun (w, _) => w.isPrefixOf s with
  | some (w, v) =>
    if h : (s.drop w.length).length < s.length then .ok (v, ⟨s.drop w.length, h⟩)
    else .error (.wrong .valueExpected s.length)
  | none =>
    match readNumber m s with
    | .error stop => .error stop
    | .ok (v, r) =>
      if h : r.length < s.length then .ok (v, ⟨r, h⟩) else .error (.wrong .valueExpected s.length)

/-- What is left of a text is less than any longer text. -/
def Rest.weaken {s t : List Char} (h : s.length ≤ t.length) (r : Rest s) : Rest t :=
  ⟨r.1, Nat.lt_of_lt_of_le r.2 h⟩

mutual

/-- Reads one value, which starts at the first character; `room` is the number of arrays and objects
that may still be gone into. -/
def readValue (room : Nat) (s : List Char) : Reading Json s :=
  match s with
  | '"' :: r =>
    match readString m (r.length + 1) [] r with
    | .ok (v, rest) => .ok (.str v, rest.weaken (by simp))
    | .error stop => .error stop
  | '[' :: r =>
    match room with
    | 0 => .error (.overrun (.depth .array))
    | room + 1 =>
      match h : skipGap r with
      | ']' :: t => .ok (.arr [], ⟨t, Nat.lt_succ_of_lt (length_lt_of_skipGap h)⟩)
      | _ =>
        match readItems room [] (skipGap r) with
        | .ok (v, rest) => .ok (v, rest.weaken (Nat.le_succ_of_le (skipGap_le r)))
        | .error stop => .error stop
  | '\x7b' :: r =>
    match room with
    | 0 => .error (.overrun (.depth .object))
    | room + 1 =>
      match h : skipGap r with
      | '\x7d' :: t => .ok (.obj [], ⟨t, Nat.lt_succ_of_lt (length_lt_of_skipGap h)⟩)
      | _ =>
        match readMembers room [] (skipGap r) with
        | .ok (v, rest) => .ok (v, rest.weaken (Nat.le_succ_of_le (skipGap_le r)))
        | .error stop => .error stop
  | s => readScalar m s
termination_by (s.length, 0)
decreasing_by all_goals
  have := skipGap_le r
  simp only [List.length_cons]
  exact Prod.Lex.left _ _ (by omega)

/-- Reads the items of an array from the next one on; `done` holds the earlier ones, the last one
first. -/
def readItems (room : Nat) (done : List Json) (s : List Char) : Reading Json s :=
  match readValue room s with
  | .error stop => .error stop
  | .ok (v, ⟨r, hr⟩) =>
    match h : skipGap r with
    | ']' :: t =>
      .ok (.arr (v :: done).reverse, ⟨t, Nat.lt_trans (length_lt_of_skipGap h) hr⟩)
    | ',' :: t =>
      have : (skipGap t).length < s.length :=
        Nat.lt_of_le_of_lt (skipGap_le t) (Nat.lt_trans (length_lt_of_skipGap h) hr)
      match readItems room (v :: done) (skipGap t) with
      | .ok (w, rest) => .ok (w, rest.weaken (Nat.le_of_lt this))
      | .error stop => .error stop
    | r' => .error (.wrong .commaExpected r'.length)
termination_by (s.length, 1)
decreasing_by
  · exact Prod.Lex.right _ (by decide)
  · exact Prod.Lex.left _ _ this

/-- Reads the members of an object from the next one on; `done` holds the earlier ones. -/
def readMembers (room : Nat) (done : List (String × Json)) (s : List Char) : Reading Json s :=
  match s with
  | '"' :: r =>
    match readString m (r.length + 1) [] r with
    | .error stop => .error stop
    | .ok (name, ⟨a, ha⟩) =>
      match hb : skipGap a with
      | ':' :: b =>
        have hlt : (skipGap b).length < r.length :=
          Nat.lt_of_le_of_lt (skipGap_le b) (Nat.lt_trans (length_lt_of_skipGap hb) ha)
        match readValue room (skipGap b) with
        | .error stop => .error stop
        | .ok (v, ⟨c, hc⟩) =>
          match ht : skipGap c with
          | '\x7d' :: t =>
            .ok (.obj (put done name v), ⟨t, Nat.lt_succ_of_lt
              (Nat.lt_trans (length_lt_of_skipGap ht) (Nat.lt_trans hc hlt))⟩)
          | ',' :: t =>
            have htlt : (skipGap t).length < r.length :=
              Nat.lt_of_le_of_lt (skipGap_le t)
                (Nat.lt_trans (length_lt_of_skipGap ht) (Nat.lt_trans hc hlt))
            match readMembers room (put done name v) (skipGap t) with
            | .ok (w, rest) => .ok (w, rest.weaken (Nat.le_succ_of_le (Nat.le_of_lt htlt)))
            | .error stop => .error stop
          | c' => .error (.wrong .commaExpected c'.length)
      | a' => .error (.wrong .colonExpected a'.length)
  | s => .error (.wrong .nameExpected s.length)
termination_by (s.length, 1)
decreasing_by all_goals exact Prod.Lex.left _ _ (by simp; omega)

end

/-! ## Documents -/

/-- A complaint about a document and the number of characters before the place it applies to. -/
structure Fault where
  complaint : Complaint
  offset : Nat
  line : Nat
  column : Nat
  deriving DecidableEq, Repr

/-- The place of a fault in words. -/
def Fault.message (f : Fault) : String :=
  f.complaint.message ++ ": line " ++ natText f.line ++ " column " ++ natText f.column ++ " (char "
    ++ natText f.offset ++ ")"

/-- Why a document is not read. -/
inductive Failure
  | fault (f : Fault)
  | overrun (o : Overrun)
  deriving DecidableEq, Repr

/-- A stop in a text as a failure: lines and columns are counted from one. -/
def Stop.failure (doc : List Char) : Stop → Failure
  | .wrong complaint left =>
    let before := doc.take (doc.length - left)
    .fault ⟨complaint, before.length, before.count '\n' + 1,
      (before.reverse.takeWhile (· ≠ '\n')).length + 1⟩
  | .overrun o => .overrun o

/-- Reads a text that holds one value and nothing else. -/
def readAll (doc : List Char) : Except Stop Json :=
  match doc with
  | '\ufeff' :: _ => .error (.wrong .byteOrderMark doc.length)
  | _ => do
    let (v, rest) ← readValue m m.depth (skipGap doc)
    match skipGap rest.1 with
    | [] => return v
    | r => throw (.wrong .extraData r.length)

/-- Reads a text as one value. -/
def read (doc : String) : Except Failure Json :=
  (readAll m doc.toList).mapError (·.failure doc.toList)

end

/-- A reader as most surroundings have it. -/
def Reader.standard : Reader where
  digits := 4300
  depth := 990
  halves := .standard

end RowDecl.Json
