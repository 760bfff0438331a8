import Mathlib.Algebra.Ring.Nat
import RowDecl.Proofs.Scanning
import RowDecl.Proofs.Splitting

/-!
# Parts of a document that are scanned by themselves

What the check of braces leaves of a part may depend on the text around it: a quote in front makes a
name of it, two slashes a comment. There are two kinds of parts that are scanned alike wherever they
stand. Lines are, in every text, so the braces of a document are those of its lines in any order
(`checkBraces_lines`). Quoted names are, behind every text without quotes and comments and before
every text at all (`code_quotedName_between`).
-/

namespace RowDecl

/-! ## Lines -/

/-- The lines of a document without the line feeds between them. -/
def lines (content : String) : List String :=
  (Text.split ['\n'] content.toList).map String.ofList

theorem intercalate_lines (content : String) : "\n".intercalate (lines content) = content := by
  have hlines : (lines content).map String.toList = Text.split ['\n'] content.toList := by
    simp [lines, Function.comp_def]
  rw [← String.toList_inj, String.toList_intercalate, hlines]
  exact Text.join_split (by simp) content.toList

/-- What is counted in the code of a document adds up over its lines. -/
theorem count_code_intercalate {c : Char} (hc : c ≠ '\n') : ∀ ls : List String,
    (code ("\n".intercalate ls).toList).count c = (ls.map fun l => (code l.toList).count c).sum
  | [] => rfl
  | [l] => by simp
  | l :: m :: ls => by
    have ih := count_code_intercalate hc (m :: ls)
    have htext : ("\n".intercalate (l :: m :: ls)).toList =
        l.toList ++ '\n' :: ("\n".intercalate (m :: ls)).toList := by
      simp [String.intercalate_cons_cons]
    rw [List.map_cons, List.sum_cons, ← ih, htext, code_append_line, List.count_append,
      List.count_cons_of_ne (Ne.symm hc)]

theorem openingBraces_intercalate (ls : List String) :
    openingBraces ("\n".intercalate ls) = (ls.map openingBraces).sum :=
  count_code_intercalate (by decide) ls

theorem closingBraces_intercalate (ls : List String) :
    closingBraces ("\n".intercalate ls) = (ls.map closingBraces).sum :=
  count_code_intercalate (by decide) ls

/-- **The check of braces goes line by line.** What is left of two texts with a line feed between
them is what is left of each, so braces are counted line by line, and the lines of a document may be
put in any order: the outcome is the same, down to the counts that a refusal names. -/
theorem checkBraces_lines :
    (∀ a b : List Char, code (a ++ '\n' :: b) = code a ++ '\n' :: code b) ∧
      (∀ content : String, openingBraces content = ((lines content).map openingBraces).sum ∧
        closingBraces content = ((lines content).map closingBraces).sum) ∧
      ∀ (content : String) (ls : List String), ls.Perm (lines content) →
        checkBraces ("\n".intercalate ls) = checkBraces content := by
  have hopen : ∀ content, openingBraces content = ((lines content).map openingBraces).sum := by
    intro content
    rw [← openingBraces_intercalate, intercalate_lines]
  have hclose : ∀ content, closingBraces content = ((lines content).map closingBraces).sum := by
    intro content
    rw [← closingBraces_intercalate, intercalate_lines]
  refine ⟨code_append_line, fun content => ⟨hopen content, hclose content⟩, ?_⟩
  intro content ls hperm
  have hopened : openingBraces ("\n".intercalate ls) = openingBraces content := by
    rw [openingBraces_intercalate, hopen content]
    exact (hperm.map openingBraces).sum_nat
  have hclosed : closingBraces ("\n".intercalate ls) = closingBraces content := by
    rw [closingBraces_intercalate, hclose content]
    exact (hperm.map closingBraces).sum_nat
  simp only [checkBraces, hopened, hclosed]

/-- A quote that its line does not close, a comment and a quoted name, in two orders. -/
theorem checkBraces_lines_swapped :
    ["// \x7b\x7b", "\"\\\"\x7b\" \x7d", "\x7b \"\x7d"].Perm
        (lines "\x7b \"\x7d\n// \x7b\x7b\n\"\\\"\x7b\" \x7d") ∧
      checkBraces ("\n".intercalate ["// \x7b\x7b", "\"\\\"\x7b\" \x7d", "\x7b \"\x7d"]) =
        .error (.unbalancedBraces 1 2) := by
  have hperm : ["// \x7b\x7b", "\"\\\"\x7b\" \x7d", "\x7b \"\x7d"].Perm
      (lines "\x7b \"\x7d\n// \x7b\x7b\n\"\\\"\x7b\" \x7d") := by decide +kernel
  refine ⟨hperm, (checkBraces_lines.2.2 _ _ hperm).trans ?_⟩
  decide +kernel

/-! ## Quoted names -/

section
variable {u : List Char} (hquote : '"' ∉ u) (hslashes : ¬['/', '/'] <:+: u)
include hquote hslashes

/-- Nothing begins in a text without quotes and comments before a quote. -/
theorem hiddenLength_before_quote {t : List Char} (ht : t <:+ u) (hne : t ≠ []) (v : List Char) :
    hiddenLength (t ++ '"' :: v) = 0 := by
  refine hiddenLength_eq_zero ?_ fun hfront => ?_
  · cases t with
    | nil => exact absurd rfl hne
    | cons c r =>
      rintro ⟨⟩
      exact hquote (ht.mem (.head _))
  · -- A slash at the end of the text makes no comment with the quote behind it.
    have hin := slashes_prefix_of_append (by simp) hne hfront
    exact hslashes (hin.isInfix.trans ht.isInfix)

/-- **A quoted name is scanned as what was quoted, wherever it stands.** Nothing begins in the text
before it, the scanner takes out just the characters from quote to quote, and goes on as if the text
behind them stood alone. -/
theorem code_quotedName_between {n : List Char} (hn : '\n' ∉ n) (v : List Char) :
    code (u ++ quotedName n ++ v) = u ++ code v ∧
      (∀ t, t <:+ u → t ≠ [] → hiddenLength (t ++ (quotedName n ++ v)) = 0) ∧
      hiddenLength (quotedName n ++ v) = (quotedName n).length := by
  have hbefore : ∀ t, t <:+ u → t ≠ [] → hiddenLength (t ++ (quotedName n ++ v)) = 0 :=
    fun t ht hne => hiddenLength_before_quote hquote hslashes ht hne _
  refine ⟨?_, hbefore, hiddenLength_quotedName hn v⟩
  calc code (u ++ quotedName n ++ v)
      = code (u ++ (quotedName n ++ v)) := by rw [List.append_assoc]
    _ = u ++ code (quotedName n ++ v) := Text.without_append_of_eq_zero hbefore
    _ = u ++ code v := congrArg (u ++ ·) (leaves_quotedName hn v)

end

/-- A slash before the quote, a name of quotes, backslashes and slashes, a quote behind it. -/
theorem code_quotedName_between_slash :
    '"' ∉ "\x7b/".toList ∧ ¬['/', '/'] <:+: "\x7b/".toList ∧ '\n' ∉ "\\\"//\x7b\\".toList ∧
      code ("\x7b/".toList ++ quotedName "\\\"//\x7b\\".toList ++ "\"\x7d//".toList) =
        "\x7b/\"\x7d".toList := by
  have hquote : '"' ∉ "\x7b/".toList := by decide
  have hslashes : ¬['/', '/'] <:+: "\x7b/".toList := by decide
  have hn : '\n' ∉ "\\\"//\x7b\\".toList := by decide
  exact ⟨hquote, hslashes, hn, (code_quotedName_between hquote hslashes hn _).1.trans (by decide)⟩

end RowDecl
