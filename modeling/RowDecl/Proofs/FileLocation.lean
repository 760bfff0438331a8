import Mathlib.Data.List.TakeWhile
import Mathlib.Logic.Relation
import RowDecl.Catalog.Location
import RowDecl.Proofs.Splitting

/-!
# Namespaces that mirror locations

The namespace of a statement mirrors the location of its file: behind the package the directories
and the stem of the file, all in lower case (`Mirrors`). What counts are the pieces between the
slashes (`pieces`), not how the slashes are written: `pieces_append` cuts a text at any slash into
the pieces before and behind it, so that leading, doubled and trailing slashes, single points and
the kind of slash make no difference (`Respells`).

`statementNamespace_mirrors_iff`: this is so exactly for the files that do not begin with two
slashes. Two slashes are a root of their own, which stands as a segment behind the package.
-/

namespace RowDecl.Catalog

/-! ## Pieces -/

def isSlash (c : Char) : Bool := c = '/' || c = '\\'

/-- The pieces of a file between slashes of either kind, but for the empty ones and single
points. -/
def pieces (file : List Char) : List (List Char) :=
  (file.splitOnP isSlash).filter fun piece => piece ≠ [] ∧ piece ≠ ['.']

theorem isSlash_iff {c : Char} : isSlash c = true ↔ forwardSlash c = '/' := by
  unfold isSlash forwardSlash
  by_cases h : c = '\\' <;> simp [h]

theorem forwardSlash_of_not_isSlash {c : Char} (h : isSlash c = false) : forwardSlash c = c := by
  unfold isSlash at h
  simp_all [forwardSlash]

/-- A slash of either kind cuts a file like a forward slash. -/
theorem split_forwardSlash (file : List Char) :
    Text.split ['/'] (file.map forwardSlash) = file.splitOnP isSlash := by
  induction file with
  | nil => rfl
  | cons c file ih =>
    rw [List.map_cons, Text.split_singleton_cons, List.splitOnP_cons_eq_if_modifyHead, ih]
    by_cases h : isSlash c = true
    · rw [if_pos h, if_pos (isSlash_iff.1 h)]
    · have hc : forwardSlash c = c := forwardSlash_of_not_isSlash (by simpa using h)
      rw [if_neg h, if_neg (mt isSlash_iff.2 h), hc]

theorem components_parse (file : List Char) : (Location.parse file).components = pieces file := by
  show componentsOf (file.map forwardSlash) = pieces file
  rw [componentsOf, split_forwardSlash, pieces]

/-- The pieces on both sides of a slash. -/
theorem pieces_append {c : Char} (hc : isSlash c = true) (s t : List Char) :
    pieces (s ++ c :: t) = pieces s ++ pieces t := by
  rw [pieces, List.splitOnP_append_cons s t hc, List.filter_append]
  rfl

theorem pieces_nil : pieces [] = [] := rfl

theorem pieces_point : pieces ['.'] = [] := by decide

/-- A slash in front makes no piece. -/
theorem pieces_cons {c : Char} (hc : isSlash c = true) (t : List Char) :
    pieces (c :: t) = pieces t := by
  show pieces ([] ++ c :: t) = pieces t
  rw [pieces_append hc, pieces_nil, List.nil_append]

/-- A single point before a slash makes no piece. -/
theorem pieces_point_cons {c : Char} (hc : isSlash c = true) (t : List Char) :
    pieces ('.' :: c :: t) = pieces t := by
  show pieces (['.'] ++ c :: t) = pieces t
  rw [pieces_append hc, pieces_point, List.nil_append]

/-! ## Spellings -/

/-- One way to spell a location otherwise: another slash, a slash more in front, at the end or
where one is, or a single point between slashes. -/
inductive Respells : List Char → List Char → Prop
  | other (s t : List Char) {c d : Char} :
    isSlash c = true → isSlash d = true → Respells (s ++ c :: t) (s ++ d :: t)
  | leading (t : List Char) {c : Char} : isSlash c = true → Respells t (c :: t)
  | doubled (s t : List Char) {c d : Char} :
    isSlash c = true → isSlash d = true → Respells (s ++ c :: t) (s ++ c :: d :: t)
  | trailing (s : List Char) {c : Char} : isSlash c = true → Respells s (s ++ [c])
  | point (s t : List Char) {c d : Char} :
    isSlash c = true → isSlash d = true → Respells (s ++ c :: t) (s ++ c :: '.' :: d :: t)
  | leadingPoint (t : List Char) {c : Char} : isSlash c = true → Respells t ('.' :: c :: t)

theorem Respells.pieces_eq {s t : List Char} (h : Respells s t) : pieces s = pieces t := by
  cases h with
  | other s t hc hd => rw [pieces_append hc, pieces_append hd]
  | leading t hc => rw [pieces_cons hc]
  | doubled s t hc hd => rw [pieces_append hc, pieces_append hc, pieces_cons hd]
  | trailing s hc => rw [pieces_append hc, pieces_nil, List.append_nil]
  | point s t hc hd => rw [pieces_append hc, pieces_append hc, pieces_point_cons hd]
  | leadingPoint t hc => rw [pieces_point_cons hc]

/-- Files that are spelled into each other have the same pieces. -/
theorem pieces_eq_of_respelled {s t : List Char} (h : Relation.EqvGen Respells s t) :
    pieces s = pieces t := by
  induction h with
  | rel _ _ h => exact h.pieces_eq
  | refl => rfl
  | symm _ _ _ ih => exact ih.symm
  | trans _ _ _ _ _ ih ih' => exact ih.trans ih'

/-! ## Stems -/

/-- The stem of a name is what stands before its last point, or the whole name if that would leave
nothing before the point or behind it or if there is no point. -/
inductive IsStem (name : List Char) : List Char → Prop
  | before {front extension : List Char} : name = front ++ '.' :: extension → '.' ∉ extension →
    front ≠ [] → extension ≠ [] → IsStem name front
  | whole : (∀ front extension, name = front ++ '.' :: extension → '.' ∉ extension →
    front = [] ∨ extension = []) → IsStem name name

/-- Read backwards, a text without points is read to its end. -/
theorem takeWhile_reverse_append {extension : List Char} (h : '.' ∉ extension) (rest : List Char) :
    (extension.reverse ++ rest).takeWhile (· ≠ '.') =
      extension.reverse ++ rest.takeWhile (· ≠ '.') := by
  apply List.takeWhile_append_of_pos
  intro c hc
  have hne : c ≠ '.' := by
    rintro rfl
    exact h (List.mem_reverse.1 hc)
  simpa using hne

theorem stem_append {front extension : List Char} (h : '.' ∉ extension) :
    stem (front ++ '.' :: extension) =
      if extension = [] ∨ front = [] then front ++ '.' :: extension else front := by
  have hback : (front ++ '.' :: extension).reverse =
      extension.reverse ++ '.' :: front.reverse := by
    simp
  have hread : (extension.reverse ++ '.' :: front.reverse).takeWhile (· ≠ '.') =
      extension.reverse := by
    rw [takeWhile_reverse_append h]
    simp
  have hrest : (extension.reverse ++ '.' :: front.reverse).drop (extension.reverse.length + 1) =
      front.reverse := by
    rw [List.drop_length_add_append]
    rfl
  unfold stem
  simp only [hback, hread, hrest, List.reverse_reverse, List.reverse_eq_nil_iff]

theorem stem_of_not_mem {name : List Char} (h : '.' ∉ name) : stem name = name := by
  have hread : name.reverse.takeWhile (· ≠ '.') = name.reverse := by
    simpa using takeWhile_reverse_append h []
  have hrest : name.reverse.drop (name.reverse.length + 1) = [] :=
    List.drop_of_length_le (Nat.le_succ _)
  unfold stem
  simp only [hread, hrest, List.reverse_nil, or_true, if_true]

/-- A name has no point or a last one. -/
theorem not_mem_or_last_point (name : List Char) :
    '.' ∉ name ∨ ∃ front extension, name = front ++ '.' :: extension ∧ '.' ∉ extension := by
  by_cases h : '.' ∈ name
  · obtain ⟨extension, front, hname, hext⟩ := List.eq_append_cons_of_mem (List.mem_reverse.2 h)
    refine .inr ⟨front.reverse, extension.reverse, ?_, by simpa using hext⟩
    rw [← List.reverse_reverse name, hname]
    simp
  · exact .inl h

theorem stem_eq_front {front extension : List Char} (h : '.' ∉ extension) (hfront : front ≠ [])
    (hext : extension ≠ []) : stem (front ++ '.' :: extension) = front := by
  rw [stem_append h, if_neg (by simp [hfront, hext])]

theorem stem_eq_self {name : List Char}
    (h : ∀ front extension, name = front ++ '.' :: extension → '.' ∉ extension →
      front = [] ∨ extension = []) : stem name = name := by
  rcases not_mem_or_last_point name with hnone | ⟨front, extension, hname, hext⟩
  · exact stem_of_not_mem hnone
  · rw [hname, stem_append hext, if_pos (h front extension hname hext).symm]

theorem isStem_iff {name t : List Char} : IsStem name t ↔ t = stem name := by
  refine ⟨fun h => ?_, fun h => ?_⟩
  · cases h with
    | before hname hext hfront hne => rw [hname, stem_eq_front hext hfront hne]
    | whole hall => exact (stem_eq_self hall).symm
  · subst h
    by_cases hall : ∀ front extension, name = front ++ '.' :: extension → '.' ∉ extension →
        front = [] ∨ extension = []
    · rw [stem_eq_self hall]
      exact .whole hall
    · push Not at hall
      obtain ⟨front, extension, hname, hext, hfront, hne⟩ := hall
      rw [hname, stem_eq_front hext hfront hne]
      exact .before rfl hext hfront hne

/-! ## Locations -/

/-- The segments that mirror a location: its directories and the stem of its last piece, in lower
case. A location without pieces has an empty stem. -/
inductive Mirrors (file : List Char) : List String → Prop
  | nowhere : pieces file = [] → Mirrors file [""]
  | within {directories : List (List Char)} {name stem : List Char} :
    pieces file = directories ++ [name] → IsStem name stem →
    Mirrors file (directories.map lowerText ++ [lowerText stem])

/-- The segments of the pieces of a file. -/
def mirrored (file : List Char) : List String :=
  (pieces file).dropLast.map lowerText ++ [lowerText (stem ((pieces file).getLast?.getD []))]

theorem mirrors_iff {file : List Char} {segments : List String} :
    Mirrors file segments ↔ segments = mirrored file := by
  refine ⟨fun h => ?_, fun h => ?_⟩
  · cases h with
    | nowhere hnone =>
      rw [mirrored, hnone]
      rfl
    | within hpieces hstem =>
      rw [mirrored, hpieces, isStem_iff.1 hstem, List.dropLast_concat, List.getLast?_concat]
      rfl
  · subst h
    rcases List.eq_nil_or_concat (pieces file) with hnone | ⟨directories, name, hpieces⟩
    · rw [mirrored, hnone]
      exact .nowhere hnone
    · rw [List.concat_eq_append] at hpieces
      rw [mirrored, hpieces, List.dropLast_concat, List.getLast?_concat]
      exact .within hpieces (isStem_iff.2 rfl)

/-- Exactly two slashes at the front of a file. -/
def HasDoubleRoot (file : List Char) : Prop := (file.takeWhile isSlash).length = 2

instance (file : List Char) : Decidable (HasDoubleRoot file) :=
  inferInstanceAs (Decidable (_ = _))

theorem root_parse_iff {file : List Char} :
    (Location.parse file).root = ['/', '/'] ↔ HasDoubleRoot file := by
  have hslash : ((· = '/') ∘ forwardSlash : Char → Bool) = isSlash := by
    funext c
    exact Bool.eq_iff_iff.2 (by simp [isSlash_iff])
  have hlength : ((file.map forwardSlash).takeWhile (· = '/')).length =
      (file.takeWhile isSlash).length := by
    rw [List.takeWhile_map, List.length_map, hslash]
  show rootOf (file.map forwardSlash) = ['/', '/'] ↔ _
  rw [HasDoubleRoot, ← hlength, rootOf]
  generalize ((file.map forwardSlash).takeWhile (· = '/')).length = n
  split
  · simp
  · simp
  · rename_i hne
    simpa using hne

/-! ## Namespaces -/

/-- Behind the package stand two slashes, if they are the root, and the segments of the pieces. -/
theorem statementNamespace_eq (package : List String) (file : String) :
    statementNamespace package file =
      package ++ ((if HasDoubleRoot file.toList then ["//"] else []) ++ mirrored file.toList) := by
  have hroot : lowerText ['/', '/'] = "//" := by decide
  have hdirectories : (Location.parse file.toList).directories.map lowerText =
      (if HasDoubleRoot file.toList then ["//"] else []) ++
        (pieces file.toList).dropLast.map lowerText := by
    rw [Location.directories, components_parse, List.map_append]
    by_cases h : HasDoubleRoot file.toList
    · rw [if_pos h, if_pos (root_parse_iff.2 h), root_parse_iff.2 h, List.map_singleton, hroot]
    · rw [if_neg h, if_neg (mt root_parse_iff.1 h), List.map_nil]
  have hstem : (Location.parse file.toList).stem =
      stem ((pieces file.toList).getLast?.getD []) := by
    rw [Location.stem, components_parse]
  show package ++ (Location.parse file.toList).directories.map lowerText ++
    [lowerText (Location.parse file.toList).stem] = _
  rw [hdirectories, hstem, mirrored]
  simp only [List.append_assoc]

/-- **Namespaces mirror locations exactly unless the file begins with two slashes**, which then
stand as a segment behind the package. Files that are spelled into each other have the same
namespace exactly if both of them begin with two slashes or neither does. -/
theorem statementNamespace_mirrors_iff (package : List String) (file : String) :
    ((∃ segments, Mirrors file.toList segments ∧
      statementNamespace package file = package ++ segments) ↔ ¬HasDoubleRoot file.toList) ∧
    ((∃ segments, Mirrors file.toList segments ∧
      statementNamespace package file = package ++ "//" :: segments) ↔
        HasDoubleRoot file.toList) ∧
    ∀ other : String, Relation.EqvGen Respells file.toList other.toList →
      (statementNamespace package file = statementNamespace package other ↔
        (HasDoubleRoot file.toList ↔ HasDoubleRoot other.toList)) := by
  simp only [mirrors_iff, exists_eq_left, statementNamespace_eq, List.append_cancel_left_eq]
  refine ⟨?_, ?_, fun other hother => ?_⟩
  · by_cases h : HasDoubleRoot file.toList <;> simp [h]
  · by_cases h : HasDoubleRoot file.toList <;> simp [h]
  · have hmirrored : mirrored file.toList = mirrored other.toList := by
      rw [mirrored, mirrored, pieces_eq_of_respelled hother]
    rw [hmirrored, List.append_cancel_right_eq]
    by_cases h : HasDoubleRoot file.toList
    · by_cases h' : HasDoubleRoot other.toList <;> simp [h, h']
    · by_cases h' : HasDoubleRoot other.toList <;> simp [h, h']

/-- A file below two slashes has a segment of them, and none below one slash. -/
theorem statementNamespace_two_slashes :
    Mirrors "//orders/Open.sql".toList ["orders", "open"] ∧
      statementNamespace ["shop"] "//orders/Open.sql" = ["shop", "//", "orders", "open"] ∧
      (¬∃ segments, Mirrors "//orders/Open.sql".toList segments ∧
        statementNamespace ["shop"] "//orders/Open.sql" = ["shop"] ++ segments) ∧
      statementNamespace ["shop"] "/orders/Open.sql" = ["shop", "orders", "open"] := by
  refine ⟨mirrors_iff.2 (by decide), by decide, ?_, by decide⟩
  rintro ⟨segments, hmirrors, h⟩
  rw [mirrors_iff.1 hmirrors] at h
  exact absurd h (by decide)

end RowDecl.Catalog
