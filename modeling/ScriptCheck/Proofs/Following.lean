import ScriptCheck.Proofs.Readings
import ScriptCheck.Proofs.Terminals

/-! # What Follows a Phrase

  The grammar does not say where a phrase ends; what follows it decides. An
  expression goes on while operators follow, a name that an opening parenthesis
  follows is a call, a body goes on while statements follow, and an `if` takes
  the `else` that follows it.

  The conditions here are on the significant tokens behind a phrase. They are
  what a reader of the phrase has established when it stops, and also what it
  takes to make it stop there.
-/

namespace ScriptCheck

open ExpressionPhrase StatementPhrase

/-! ## Section 1: Behind expressions -/

/-- No operator that binds at least with the precedence `least` comes first. -/
def StopsBefore (least : Nat) (ys : List Token) : Prop :=
  ∀ t ∈ ys.head?, ∀ op ∈ t.binaryOperator?, op.precedence < least

theorem stopsBefore_of_upcoming {least : Nat} {tokens rest : List Token} {t : Token}
    (hu : upcoming tokens = t :: rest) (h : ∀ op ∈ t.binaryOperator?, op.precedence < least) :
    StopsBefore least (significantTokens tokens) := by
  rw [significantTokens_of_upcoming_cons hu]
  intro t' ht'
  obtain rfl : t = t' := by simpa using ht'
  exact h

theorem StopsBefore.mono {least least' : Nat} {ys : List Token} (h : StopsBefore least ys)
    (hle : least ≤ least') : StopsBefore least' ys := by
  intro t ht op hop
  have := h t ht op hop
  omega

/-- An expression with this top ends here: no call can be made of its last operand, and no operator
    takes that operand away from the top. -/
structure EndsExpression (top : Option BinaryOperator) (ys : List Token) : Prop where
  noCall : ∀ t ∈ ys.head?, t.isPunctuation "(" = false
  noTighter : ∀ op ∈ top, StopsBefore (op.precedence + 1) ys

/-! ## Section 2: Behind statements -/

def StartsNoStatement (ys : List Token) : Prop := ∀ t ∈ ys.head?, t.statementHead? = none

def StartsNoElse (ys : List Token) : Prop := ∀ t ∈ ys.head?, t.isKeyword "else" = false

/-- A statement begins with a token that starts statements. -/
theorem StatementPhrase.Yields.exists_head {s : Statement} {n : Nat} {ys : List Token}
    (h : (statement s).Yields n ys) :
    ∃ t zs head, ys = t :: zs ∧ t.statementHead? = some head := by
  cases h with
  | assign hname | call hname =>
    exact ⟨_, _, .name, rfl, Token.statementHead?_eq_some_iff.mpr hname⟩
  | print hword => exact ⟨_, _, .printWord, rfl, Token.statementHead?_eq_some_iff.mpr hword⟩
  | returnValue hword =>
    exact ⟨_, _, .returnWord, rfl, Token.statementHead?_eq_some_iff.mpr hword⟩
  | ifThen hword | ifElse hword =>
    exact ⟨_, _, .ifWord, rfl, Token.statementHead?_eq_some_iff.mpr hword⟩
  | whileLoop hword =>
    exact ⟨_, _, .whileWord, rfl, Token.statementHead?_eq_some_iff.mpr hword⟩
  | forLoop hword => exact ⟨_, _, .forWord, rfl, Token.statementHead?_eq_some_iff.mpr hword⟩
  | define hword => exact ⟨_, _, .defWord, rfl, Token.statementHead?_eq_some_iff.mpr hword⟩

/-- A list of statements begins with a token that starts statements. -/
theorem StatementPhrase.Yields.exists_first_head {ss : List Statement} {n : Nat} {ys : List Token}
    (h : (statements ss).Yields n ys) :
    ∃ t zs head, ys = t :: zs ∧ t.statementHead? = some head := by
  cases h with
  | last hstatement => exact hstatement.exists_head
  | more hstatement hstatements =>
    obtain ⟨t, ys', head, rfl, ht⟩ := hstatement.exists_head
    exact ⟨t, _, head, rfl, ht⟩

theorem StatementPhrase.Yields.not_startsNoStatement {ss : List Statement} {n : Nat}
    {ys zs : List Token} (h : (statements ss).Yields n ys) : ¬ StartsNoStatement (ys ++ zs) := by
  obtain ⟨t, ys', head, rfl, ht⟩ := h.exists_first_head
  intro hnone
  have := hnone t rfl
  simp [ht] at this

namespace Statement

/-- The statement is greedy and took all that it could of what follows it. -/
structure TookAll (s : Statement) (following : List Token) : Prop where
  greedy : s.isGreedy = true
  noStatement : s.isSimple = false → StartsNoStatement following
  noElse : s.takesElse = true → StartsNoElse following

/-- The statements are greedy and took all that they could of what follows them. -/
structure TookAllInRow (ss : List Statement) (following : List Token) : Prop where
  greedy : areGreedy ss = true
  noStatement : StartsNoStatement following
  noElse : lastTakesElse ss = true → StartsNoElse following

/-- A statement without a body takes nothing of what follows it. -/
theorem TookAll.of_isSimple {s : Statement} {following : List Token} (h : s.isSimple = true) :
    s.TookAll following where
  greedy := by cases s <;> simp_all [isSimple, isGreedy]
  noStatement := by simp [h]
  noElse := by cases s <;> simp_all [isSimple, takesElse]

end Statement

end ScriptCheck
