import Mathlib.Algebra.GroupWithZero.Nat
import ScriptCheck.Proofs.Scanner.WholeLines

/-! # Counts

  The counts of a scan are sums over its tokens. So they can be had from the
  tokens alone, in any order and piece by piece.

  Together the counts cannot exceed the text. No token adds to two of the
  categories other than operators, and none adds more to one of them than it has
  characters, as no token is empty. The tokens lie in the text side by side, so
  their characters are at most those of the text.
-/

namespace ScriptCheck

open Lexer

/-! ## Section 1: Totals as sums -/

theorem Category.total_eq_sum (category : Category) (tokens : List Token) :
    category.total tokens = (tokens.map category.contribution).sum := by
  induction tokens with
  | nil => rfl
  | cons t tokens ih => rw [total_cons, ih, List.map_cons, List.sum_cons]

/-- A total does not depend on the order of the tokens. -/
theorem Category.total_perm (category : Category) {tokens tokens' : List Token}
    (h : tokens.Perm tokens') : category.total tokens = category.total tokens' := by
  rw [total_eq_sum, total_eq_sum]
  exact (h.map category.contribution).sum_nat

theorem Statistics.get_ofTokens (tokens : List Token) (category : Category) :
    (Statistics.ofTokens tokens).get category = category.total tokens := by
  rw [ofTokens, get_foldl_record, get_empty, Nat.zero_add]

/-! ## Section 2: Totals and characters -/

/-- The categories that share no token. Operators are special characters as well. -/
def Category.disjoint : List Category :=
  [.numericChars, .specialChars, .keywords, .invalidTokens, .comments]

def disjointTotal (tokens : List Token) : Nat :=
  (Category.disjoint.map fun category => category.total tokens).sum

theorem disjointTotal_cons (t : Token) (tokens : List Token) :
    disjointTotal (t :: tokens) = disjointTotal [t] + disjointTotal tokens := by
  simp only [disjointTotal, Category.disjoint, Category.total, List.map_cons, List.map_nil,
    List.sum_cons, List.sum_nil]
  omega

/-- A token counts for at most one disjoint category, and there for at most its characters. -/
theorem disjointTotal_singleton_le {t : Token} (h : 0 < t.charCount) :
    disjointTotal [t] ≤ t.charCount := by
  -- a kind has one of the five categories at most, with one or with all characters of the token
  cases hkind : t.kind <;>
    simp [disjointTotal, Category.disjoint, Category.total, Category.contribution, hkind] <;>
    omega

/-- The tokens that tile a text count for at most its characters. -/
theorem Tiles.disjointTotal_le {gap : Char → Prop} {p : Position} {cs : List Char}
    {tokens : List Token} (h : Tiles gap p cs tokens) : disjointTotal tokens ≤ cs.length := by
  induction h with
  | done p => exact Nat.le_refl 0
  | skip hc hrest ih => exact Nat.le_succ_of_le ih
  | @token p kind text cs tokens htext hrest ih =>
    have hcount : (tokenAt p kind text).charCount = text.length := String.length_ofList
    have hpos : 0 < (tokenAt p kind text).charCount := by
      rw [hcount]
      exact List.length_pos_iff.mpr htext
    calc disjointTotal (tokenAt p kind text :: tokens)
        = disjointTotal [tokenAt p kind text] + disjointTotal tokens := disjointTotal_cons _ _
      _ ≤ text.length + cs.length :=
          Nat.add_le_add (hcount ▸ disjointTotal_singleton_le hpos) ih
      _ = (text ++ cs).length := List.length_append.symm

/-! ## Section 3: The main result -/

/-- The counts of a scan are those of its tokens, added up one by one. So for any tokens a count is
    the sum of what each token adds, the same for the tokens in another order, and for tokens put
    together the sum of the two counts. Operators apart, the counts of a scan are together at most
    the number of characters of the source. -/
theorem statistics_are_sums (lexer : Lexer) (source : String) (tokens tokens' : List Token) :
    (lexer.analyze source).statistics = .ofTokens (lexer.tokenize source) ∧
      (∀ category, (Statistics.ofTokens tokens).get category =
        (tokens.map category.contribution).sum) ∧
      (tokens.Perm tokens' → Statistics.ofTokens tokens = .ofTokens tokens') ∧
      (∀ category, (Statistics.ofTokens (tokens ++ tokens')).get category =
        (Statistics.ofTokens tokens).get category + (Statistics.ofTokens tokens').get category) ∧
      let s := (lexer.analyze source).statistics
      s.numericChars + s.specialChars + s.keywords + s.invalidTokens + s.comments ≤
        source.length := by
  refine ⟨lexer.statistics_scanLines _ _ _, ?_, ?_, ?_, ?_⟩
  · intro category
    rw [Statistics.get_ofTokens, category.total_eq_sum]
  · intro hperm
    ext category
    rw [Statistics.get_ofTokens, Statistics.get_ofTokens, category.total_perm hperm]
  · intro category
    simp only [Statistics.get_ofTokens, category.total_append]
  · intro s
    -- the tokens tile the source, and their counts are the fields of the record
    have hle : disjointTotal (lexer.tokenize source) ≤ source.toList.length :=
      (lexer.tiles_tokenize source).disjointTotal_le
    have hcounts (category : Category) : category.total (lexer.tokenize source) = s.get category :=
      (lexer.get_statistics source category).symm
    simp only [disjointTotal, Category.disjoint, hcounts, List.map_cons, List.map_nil,
      List.sum_cons, List.sum_nil, String.length_toList] at hle
    change s.get .numericChars + s.get .specialChars + s.get .keywords + s.get .invalidTokens +
      s.get .comments ≤ source.length
    omega

/-- The theorem at the tokens of a line, once in order and once from the end. The operator counts
    as a character and as an operator, the comment once for all its characters. -/
theorem statistics_are_sums_reversed :
    let lexer : Lexer := {}
    let source := "if x1 = 10 # ü"
    let tokens := lexer.tokenize source
    tokens.Perm tokens.reverse ∧ tokens ≠ tokens.reverse ∧
      Statistics.ofTokens tokens = .ofTokens tokens.reverse ∧
      (lexer.analyze source).statistics = .ofTokens tokens ∧
      (lexer.analyze source).statistics = ⟨2, 1, 1, 0, 1, 1⟩ ∧ source.length = 14 := by
  intro lexer source tokens
  have hperm : tokens.Perm tokens.reverse := tokens.reverse_perm.symm
  obtain ⟨hscan, -, horder, -⟩ := statistics_are_sums lexer source tokens tokens.reverse
  exact ⟨hperm, by decide +kernel, horder hperm, hscan, by decide +kernel, by decide⟩

end ScriptCheck
