import RowDecl.Error
import RowDecl.Store.Basic

/-! # Writing all or nothing

A file is written beside its place under a name of its own, checked, and only then put in place, so
that a failure leaves every file as it was. Missing directories on the way are made first and stay.
`node?_fresh` says that the name of the temporary file is taken by nothing. -/

namespace RowDecl.Store

/-! ## Directories -/

/-- The longest name in bytes that a directory can hold. -/
def longestName : Nat := 255

/-- The longest path in bytes that is followed at all. -/
def longestPath : Nat := 4095

/-- Follows steps from a directory and makes those directories that are missing, where something may
be made. A file in the way of a further step is no directory; where it is the last step, or where
directories were made before it, it exists already. -/
def makeDirectories (s : Store) (here : Address) (made : Bool) :
    List String → Store × Except FileFault Address
  | [] => (s, .ok here)
  | step :: r =>
    if step = stepUp then makeDirectories s here.dropLast made r
    else if step.utf8ByteSize > longestName then (s, .error .nameTooLong)
    else
      match s.node? (here ++ [step]) with
      | some .directory => makeDirectories s (here ++ [step]) made r
      | some (.file _) => (s, .error (if made ∨ r = [] then .alreadyExists else .notDirectory))
      | none =>
        if here ∈ s.unwritable then (s, .error .notPermitted)
        else makeDirectories (s.put (here ++ [step]) .directory) (here ++ [step]) true r

/-! ## Temporary files -/

/-- A length that no name in the store has. -/
def nameBound (s : Store) : Nat :=
  s.entries.foldr (fun e n => (e.1.getLast?.getD "").length + 1 + n) 0

/-- The name of a temporary file for a file of a given name. -/
def freshName (s : Store) (name : String) : String :=
  "." ++ name ++ "." ++ String.ofList (List.replicate s.nameBound '_') ++ ".tmp"

/-- The bytes that a name of a temporary file has more than the name it is made for. -/
def temporaryExtra : Nat := 14

/-- Why no temporary file can be made in a directory for a name. -/
def temporaryFault? (s : Store) (dir : Address) (name : String) : Option Error :=
  let path := Address.text (dir ++ [name])
  if name.toList.contains '\x00' then some (.badValue .nulByte)
  else if name.utf8ByteSize + temporaryExtra > longestName then some (.file .nameTooLong)
  else if path.utf8ByteSize + temporaryExtra > longestPath then some (.file .nameTooLong)
  else if dir ∈ s.unwritable then some (.file .notPermitted)
  else none

theorem length_le_nameBound {s : Store} {a : Address} {n : Node} (h : (a, n) ∈ s.entries) :
    (a.getLast?.getD "").length < s.nameBound := by
  have key : ∀ (es : List (Address × Node)), (a, n) ∈ es →
      (a.getLast?.getD "").length <
        es.foldr (fun e n => (e.1.getLast?.getD "").length + 1 + n) 0 := by
    intro es
    induction es with
    | nil => simp
    | cons e r ih =>
      intro he
      rcases List.mem_cons.mp he with rfl | hr
      · simp only [List.foldr_cons]; omega
      · have := ih hr
        simp only [List.foldr_cons]; omega
  exact key _ h

/-- Nothing has the address of a temporary file. -/
theorem node?_fresh (s : Store) (dir : Address) (name : String) :
    s.node? (dir ++ [s.freshName name]) = none := by
  rw [node?, if_neg (by simp)]
  rw [List.lookup_eq_none_iff]
  intro e he
  have hlen := length_le_nameBound (n := e.2) he
  simp only [bne_iff_ne, ne_eq]
  intro heq
  rw [← heq] at hlen
  simp [freshName, String.length] at hlen
  omega

/-! ## Writing -/

/-- Moves a file with a known content to the name that a route ends in, in the same directory. -/
def rename (s : Store) (dir : Address) (source : String) (target : Route) (content : ByteArray) :
    Except FileFault Store :=
  if target.text.utf8ByteSize > longestPath then .error .nameTooLong
  else if target.name = "" ∨ target.name = stepUp then .error .busy
  else
    match s.node? (dir ++ [target.name]) with
    | some .directory => .error .isDirectory
    | _ => .ok ((s.erase (dir ++ [source])).put (dir ++ [target.name]) (.file content))

/-- Writes a text into a directory under the name that a route ends in, unless the check refuses
it. -/
def writeIn (s : Store) (dir : Address) (target : Route) (content : String)
    (check : String → Except Error Unit) : Store × Except Error Unit :=
  match s.temporaryFault? dir target.name with
  | some e => (s, .error e)
  | none =>
    let source := s.freshName target.name
    let bytes := content.toUTF8
    let written := s.put (dir ++ [source]) (.file bytes)
    match check content with
    | .error e => (written.erase (dir ++ [source]), .error e)
    | .ok () =>
      match written.rename dir source target bytes with
      | .error fault => (written.erase (dir ++ [source]), .error (.file fault))
      | .ok moved => (moved, .ok ())

/-- Writes a text to where a route leads from a working directory, unless the check refuses it. A
path that is too long is not followed, so nothing is made on the way. -/
def write (s : Store) (cwd : Address) (target : Route) (content : String)
    (check : String → Except Error Unit) : Store × Except Error Unit :=
  if target.parent.hasNul then (s, .error (.badValue .nulByte))
  else if target.parent.text.utf8ByteSize > longestPath then (s, .error (.file .nameTooLong))
  else
    match s.makeDirectories (target.start cwd) false target.parent.steps with
    | (made, .error fault) => (made, .error (.file fault))
    | (made, .ok dir) => made.writeIn dir target content check

end RowDecl.Store
