import ScriptCheck.Proofs.Readings
import ScriptCheck.Proofs.Trees.Shape

/-! # What a Check Shows of its Tokens

  A check shows the statements and the problems of one passage. If there is
  something to read it shows nothing else, and where the tokens stand makes no
  difference then: what is put in front of them has no part in any diagnostic.
-/

namespace ScriptCheck

/-! ## Section 1: Statements under the root -/

/-- The nodes directly under the root of the tree; none without a tree. -/
def SyntaxCheck.statements (check : SyntaxCheck) : List Node :=
  (check.tree.map Node.sequenceNodes).getD []

/-- The tree with these statements. Without a statement there is none. -/
def treeOf? (statements : List Node) : Option Node :=
  if statements.isEmpty then none else some (.program statements)

@[simp] theorem Node.sequenceNodes_program (ns : List Node) : (program ns).sequenceNodes = ns := by
  calc (program ns).sequenceNodes
      = (ns.map Child.node).filterMap Child.node? := rfl
    _ = ns.filterMap (Child.node? ∘ Child.node) := List.filterMap_map
    _ = ns := List.filterMap_some

theorem displayTree?_eq_treeOf? (ss : List Statement) :
    displayTree? ss = treeOf? (Statement.toNodes ss) := by
  cases ss with
  | nil => rfl
  | cons s ss => rfl

@[simp] theorem Statement.toNodes_append (ss ss' : List Statement) :
    Statement.toNodes (ss ++ ss') = Statement.toNodes ss ++ Statement.toNodes ss' := by
  simp [Statement.toNodes_eq_map]

section checks
variable {limit : Nat} {tokens : List Token}

theorem statements_checkSyntax :
    (checkSyntax limit tokens).statements =
      Statement.toNodes (readStatements limit 0 .program tokens).statements := by
  rw [← readProgram_statements, SyntaxCheck.statements, checkSyntax]
  cases (readProgram limit tokens).statements with
  | nil => rfl
  | cons s ss => simp [displayTree?]

/-- A check of tokens among which there is something to read. -/
theorem checkSyntax_of_significant (h : significantTokens tokens ≠ []) :
    checkSyntax limit tokens =
      ⟨treeOf? (Statement.toNodes (readStatements limit 0 .program tokens).statements),
        (readStatements limit 0 .program tokens).problems.map (Problem.diagnose limit tokens)⟩ := by
  obtain ⟨t, ys, hys⟩ := List.exists_cons_of_ne_nil h
  obtain ⟨rest, hu, -⟩ := exists_upcoming hys
  rw [checkSyntax, readProgram_statements, displayTree?_eq_treeOf?,
    readProgram_problems_of_cons hu]

/-! ## Section 2: Diagnostics elsewhere -/

/-- What is in front of the last significant token is not seen from the end. -/
theorem endOfInput_append (front : List Token) (h : significantTokens tokens ≠ []) :
    endOfInput (front ++ tokens) = endOfInput tokens := by
  have hne : tokens ≠ [] := by
    rintro rfl
    exact h rfl
  simp [endOfInput, List.getLast?_append, List.getLast?_eq_some_getLast h,
    List.getLast?_eq_some_getLast hne]

theorem Problem.diagnose_append (limit : Nat) (front : List Token)
    (h : significantTokens tokens ≠ []) (p : Problem) :
    p.diagnose limit (front ++ tokens) = p.diagnose limit tokens := by
  cases p with
  | malformedNumber number after => rfl
  | blocked obstacle start ahead =>
    simp only [Problem.diagnose, endOfInput_append front h]

/-- Only a diagnostic about nesting speaks of the limit. -/
theorem faultMessage_of_ne {code : ErrorCode} (h : code ≠ .nestingTooDeep) (limit limit' : Nat)
    (lexeme : String) (line : Nat) :
    faultMessage limit' code lexeme line = faultMessage limit code lexeme line := by
  cases code with
  | nestingTooDeep => exact absurd rfl h
  | _ => rfl

theorem Problem.diagnose_of_ne {limit : Nat} (limit' : Nat) {p : Problem}
    (h : (p.diagnose limit tokens).code ≠ some .nestingTooDeep) :
    p.diagnose limit' tokens = p.diagnose limit tokens := by
  cases p with
  | malformedNumber number after => rfl
  | blocked obstacle start ahead =>
    rw [Problem.diagnose_code, ne_eq, Option.some.injEq] at h
    simp only [Problem.diagnose, Diagnostic.atPlace, faultMessage_of_ne h limit limit']

end checks

end ScriptCheck
