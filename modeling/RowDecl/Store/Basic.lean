import RowDecl.Store.Route

/-! # File stores

A store holds files and directories by their addresses; the root is always a directory. It also
tells what may not be read, and in which directories nothing may be made. After a node is put or
erased, its address shows that and all others are as before (`node?_put`, `node?_erase`). -/

namespace RowDecl

/-- A file with its bytes, or a directory. -/
inductive Node
  | file (content : ByteArray)
  | directory

instance : DecidableEq Node
  | .file a, .file b =>
    match ByteArray.instDecidableEq a b with
    | isTrue h => isTrue (congrArg Node.file h)
    | isFalse h => isFalse fun e => h (Node.file.inj e)
  | .directory, .directory => isTrue rfl
  | .file _, .directory => isFalse nofun
  | .directory, .file _ => isFalse nofun

structure Store where
  entries : List (Address × Node)
  unreadable : List Address := []
  unwritable : List Address := []

namespace Store

def empty : Store where
  entries := []

/-- The node at an address, if there is one. -/
def node? (s : Store) (a : Address) : Option Node :=
  if a = [] then some .directory else s.entries.lookup a

/-- Whether what is at an address may be read. -/
def isReadable (s : Store) (a : Address) : Bool := !s.unreadable.contains a

/-- The store without the node at an address. -/
def erase (s : Store) (a : Address) : Store := { s with entries := s.entries.filter (·.1 ≠ a) }

/-- The store with a node at an address. -/
def put (s : Store) (a : Address) (n : Node) : Store :=
  { s with entries := (a, n) :: (s.erase a).entries }

@[simp] theorem node?_nil (s : Store) : s.node? [] = some .directory := rfl

@[simp] theorem unwritable_erase (s : Store) (a : Address) :
    (s.erase a).unwritable = s.unwritable :=
  rfl

theorem lookup_filter_ne (a b : Address) (entries : List (Address × Node)) :
    (entries.filter (·.1 ≠ a)).lookup b = if b = a then none else entries.lookup b := by
  induction entries with
  | nil => simp
  | cons e r ih =>
    obtain ⟨c, n⟩ := e
    by_cases hc : c = a
    · subst hc
      by_cases hb : b = c
      · subst hb; simpa using ih
      · have : (b == c) = false := beq_false_of_ne hb
        simpa [hb, List.lookup_cons, this] using ih
    · by_cases hb : b = c
      · subst hb; simp [hc]
      · have : (b == c) = false := beq_false_of_ne hb
        simp only [ne_eq, decide_not] at ih
        simp [hc, List.lookup_cons, this, ih]

theorem node?_erase {a : Address} (ha : a ≠ []) (s : Store) (b : Address) :
    (s.erase a).node? b = if b = a then none else s.node? b := by
  by_cases hb : b = []
  · subst hb
    simp [node?, Ne.symm ha]
  · simp only [node?, hb, if_false, erase]
    exact lookup_filter_ne a b s.entries

theorem node?_put {a : Address} (ha : a ≠ []) (s : Store) (n : Node) (b : Address) :
    (s.put a n).node? b = if b = a then some n else s.node? b := by
  by_cases hb : b = a
  · subst hb
    simp [node?, put, ha]
  · have hbeq : (b == a) = false := beq_false_of_ne hb
    have := node?_erase ha s b
    simp only [node?, hb, if_false] at this
    simp [node?, put, hb, List.lookup_cons, hbeq, this]

/-- The nodes that are new or differ from those of an earlier store. -/
def changedSince (s before : Store) : List (Address × Node) :=
  s.entries.filter fun e => s.node? e.1 = some e.2 ∧ before.node? e.1 ≠ some e.2

/-- The addresses of an earlier store that have no node any more. -/
def removedSince (s before : Store) : List Address :=
  (before.entries.map (·.1)).filter fun a => s.node? a = none

end Store

end RowDecl
