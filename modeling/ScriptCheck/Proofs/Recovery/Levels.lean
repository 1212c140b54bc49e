import ScriptCheck.Proofs.Readings

/-! # Reading One Level Deeper

  Of the depth and the limit a reader sees only how far they are apart. So what
  is read one level deeper under a limit that is one higher is the same, obstacles
  and problems included.

  A body and a program differ in one case only, a token with which no statement
  begins. Where that case does not arise they are read alike, and to the end.
-/

namespace ScriptCheck

theorem Reading.andThen_congr {α β : Type} {input : List Token} (r : Reading α input)
    {f f' : α → (rest : List Token) → rest.length ≤ input.length → Reading β rest}
    (h : ∀ a rest hle, f a rest hle = f' a rest hle) : r.andThen f = r.andThen f' := by
  obtain rfl : f = f' := by
    funext a rest hle
    exact h a rest hle
  rfl

/-! ## Section 1: Expressions -/

mutual

theorem readOperations_succ (limit depth least : Nat) (left : Expression) (input : List Token) :
    readOperations (limit + 1) (depth + 1) least left input =
      readOperations limit depth least left input := by
  cases hu : upcoming input with
  | nil => rw [readOperations_of_nil hu, readOperations_of_nil hu]
  | cons t rest =>
    have := length_lt_of_upcoming hu
    rw [readOperations_of_cons hu, readOperations_of_cons hu]
    split
    · rfl
    · next op hop =>
      split
      · rfl
      · rw [readExpression_succ limit (depth + 1) (op.precedence + 1) rest]
        congr 1
        apply Reading.andThen_congr
        intro right rest' hle
        exact readOperations_succ limit depth least _ rest'
termination_by 5 * input.length

theorem readOperand_succ (limit depth : Nat) (input : List Token) :
    readOperand (limit + 1) (depth + 1) input = readOperand limit depth input := by
  -- the guard compares two numbers that are both one higher
  by_cases hd : depth ≤ limit
  · cases hu : upcoming input with
    | nil => rw [readOperand_of_nil hd hu, readOperand_of_nil (Nat.succ_le_succ hd) hu]
    | cons t rest =>
      have := length_lt_of_upcoming hu
      rw [readOperand_of_cons hd hu, readOperand_of_cons (Nat.succ_le_succ hd) hu]
      cases t.operandHead? with
      | none => rfl
      | some head =>
        simp only
        congr 1
        cases head with
        | literal => rfl
        | name =>
          simp only
          split
          · apply Reading.andThen_congr
            intro opening rest' hle
            rw [readItems_succ limit (depth + 1) ")" rest']
          · rfl
        | group => simp only [readExpression_succ limit (depth + 1) 0 rest]
        | list close => simp only [readItems_succ limit (depth + 1) close rest]
  · rw [readOperand, if_pos (by omega), readOperand, if_pos (by omega)]
termination_by 5 * input.length + 1

theorem readExpression_succ (limit depth least : Nat) (input : List Token) :
    readExpression (limit + 1) (depth + 1) least input =
      readExpression limit depth least input := by
  rw [readExpression, readExpression, readOperand_succ limit depth input]
  apply Reading.andThen_congr
  intro left rest hle
  exact readOperations_succ limit depth least left rest
termination_by 5 * input.length + 2

theorem readSeparated_succ (limit depth : Nat) (input : List Token) :
    readSeparated (limit + 1) (depth + 1) input = readSeparated limit depth input := by
  rw [readSeparated_eq, readSeparated_eq, readExpression_succ limit depth 0 input]
  apply Reading.andThen_congr
  intro e rest hle
  cases hu : upcoming rest with
  | nil => rw [furtherItems_of_nil hu, furtherItems_of_nil hu]
  | cons comma rest' =>
    have := length_lt_of_upcoming hu
    rw [furtherItems_of_cons hu, furtherItems_of_cons hu, readSeparated_succ limit depth rest']
termination_by 5 * input.length + 3

theorem readItems_succ (limit depth : Nat) (close : String) (input : List Token) :
    readItems (limit + 1) (depth + 1) close input = readItems limit depth close input := by
  rw [readItems, readItems, readSeparated_succ limit depth input]
termination_by 5 * input.length + 4

end

/-! ## Section 2: Statements -/

theorem readNamed_succ (limit depth : Nat) (name : String) (input : List Token) :
    readNamed (limit + 1) (depth + 1) name input = readNamed limit depth name input := by
  unfold readNamed
  simp only [readExpression_succ, readItems_succ]

theorem readPrint_succ (limit depth : Nat) (input : List Token) :
    readPrint (limit + 1) (depth + 1) input = readPrint limit depth input := by
  unfold readPrint
  simp only [readExpression_succ]

theorem Reading.continueWith_congr {input : List Token} (r : Reading Statement input)
    (start : Token) {more more' : (left : List Token) → left.length ≤ input.length → Passage left}
    (h : ∀ left hle, more left hle = more' left hle) :
    r.continueWith start more = r.continueWith start more' := by
  obtain rfl : more = more' := by
    funext left hle
    exact h left hle
  rfl

mutual

theorem readStatements_succ (limit depth : Nat) (scope : Scope) (input : List Token) :
    readStatements (limit + 1) (depth + 1) scope input =
      readStatements limit depth scope input := by
  cases hu : upcoming input with
  | nil => rw [readStatements_of_nil hu, readStatements_of_nil hu]
  | cons t rest =>
    have := length_lt_of_upcoming hu
    cases ht : t.statementHead? with
    | some head =>
      rw [readStatements_of_head hu ht, readStatements_of_head hu ht,
        readStatement_succ limit depth head t.lexeme rest]
      congr 1
      apply Reading.continueWith_congr
      intro left hle
      exact readStatements_succ limit depth scope left
    | none =>
      cases scope with
      | body => rw [readStatements_body_of_none hu ht, readStatements_body_of_none hu ht]
      | program =>
        -- where to go on depends on lines and words only, and neither depth nor limit plays a part
        have := resume_tail_length_lt (t :: rest)
          (List.length_pos_iff.mpr (ne_nil_of_upcoming hu))
        rw [readStatements_program_of_none hu ht, readStatements_program_of_none hu ht,
          readStatements_succ limit depth .program (resume (t :: rest) input.tail)]
termination_by 4 * input.length

theorem readBlock_succ (limit depth : Nat) (input : List Token) :
    readBlock (limit + 1) (depth + 1) input = readBlock limit depth input := by
  rw [readBlock, readBlock, readStatements_succ limit depth .body input]
  simp only [Nat.add_lt_add_iff_right]
termination_by 4 * input.length + 1

theorem readBody_succ (limit depth : Nat) (input : List Token) :
    readBody (limit + 1) (depth + 1) input = readBody limit depth input := by
  rw [readBody, readBody]
  apply Reading.andThen_congr
  intro colon rest hle
  exact readBlock_succ limit (depth + 1) rest
termination_by 4 * input.length + 2

theorem readStatement_succ (limit depth : Nat) (head : StatementHead) (lexeme : String)
    (input : List Token) :
    readStatement (limit + 1) (depth + 1) head lexeme input =
      readStatement limit depth head lexeme input := by
  cases head with
  | name => rw [readStatement, readStatement, readNamed_succ]
  | printWord => rw [readStatement, readStatement, readPrint_succ]
  | returnWord => rw [readStatement, readStatement, readExpression_succ]
  | ifWord =>
    rw [readStatement_if, readStatement_if, readExpression_succ]
    apply Reading.andThen_congr
    intro condition rest₁ hle₁
    rw [readBody_succ limit depth rest₁]
    apply Reading.andThen_congr
    intro body rest₂ hle₂
    cases hu : upcoming rest₂ with
    | nil => rw [readElse_of_nil hu, readElse_of_nil hu]
    | cons word rest₃ =>
      have := length_lt_of_upcoming hu
      rw [readElse_of_cons hu, readElse_of_cons hu, readBody_succ limit depth rest₃]
  | whileWord =>
    rw [readStatement, readStatement, readExpression_succ]
    apply Reading.andThen_congr
    intro condition rest₁ hle₁
    rw [readBody_succ limit depth rest₁]
  | forWord =>
    rw [readStatement, readStatement]
    apply Reading.andThen_congr
    intro name rest₁ hle₁
    apply Reading.andThen_congr
    intro word rest₂ hle₂
    rw [readExpression_succ]
    apply Reading.andThen_congr
    intro iterable rest₃ hle₃
    rw [readBody_succ limit depth rest₃]
  | defWord =>
    rw [readStatement, readStatement]
    apply Reading.andThen_congr
    intro name rest₁ hle₁
    apply Reading.andThen_congr
    intro opening rest₂ hle₂
    apply Reading.andThen_congr
    intro parameters rest₃ hle₃
    apply Reading.andThen_congr
    intro closing rest₄ hle₄
    rw [readBody_succ limit depth rest₄]
termination_by 4 * input.length + 3

end

/-! ## Section 3: Programs and bodies -/

/-- A statement had to begin here and did not. -/
def Problem.missesStatement : Problem → Bool
  | .blocked (.expected .statement) _ _ => true
  | _ => false

/-- Where a statement begins whenever one has to, a body is read as a program is, and to the end. -/
theorem readStatements_body_eq {limit depth : Nat} {input : List Token}
    (h : ∀ p ∈ (readStatements limit depth .program input).problems,
      p.missesStatement = false) :
    readStatements limit depth .body input = readStatements limit depth .program input ∧
      upcoming (readStatements limit depth .program input).rest = [] := by
  -- by cases as statements are read; the two scopes part only where no statement begins
  cases hu : upcoming input with
  | nil =>
    rw [readStatements_of_nil hu, readStatements_of_nil hu]
    exact ⟨rfl, hu⟩
  | cons t rest =>
    have := length_lt_of_upcoming hu
    cases ht : t.statementHead? with
    | none =>
      -- a program would have reported it
      rw [readStatements_program_of_none hu ht] at h
      cases h _ List.mem_cons_self
    | some head =>
      rw [readStatements_of_head hu ht] at h ⊢
      rw [readStatements_of_head hu ht]
      generalize readStatement limit depth head t.lexeme rest = r at h ⊢
      obtain ⟨outcome, left, problems, suffix⟩ := r
      -- the problems of what follows are among those of the whole
      cases outcome with
      | ok s =>
        have := suffix.length_le
        have hmore := readStatements_body_eq fun p hp => h p (List.mem_append_right problems hp)
        simp only [Reading.continueWith, hmore.1]
        exact ⟨trivial, hmore.2⟩
      | error obstacle =>
        have := ((resume_suffix (upcoming left) left).trans suffix).length_le
        have hmore := readStatements_body_eq fun p hp => h p <|
          List.mem_append_right (problems ++ [.blocked obstacle (some t) (upcoming left)]) hp
        simp only [Reading.continueWith, hmore.1]
        exact ⟨trivial, hmore.2⟩
termination_by input.length

end ScriptCheck
