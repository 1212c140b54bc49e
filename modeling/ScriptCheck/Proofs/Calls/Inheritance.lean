import ScriptCheck.Proofs.Calls.Steps

/-! # What Calls Inherit

  Run the readers under a limit and under another one that is not lower, and
  compare what comes of a call in the two runs. A comparison is *inherited* if it
  holds of what a reader settles by itself, if it survives every way of putting
  readings together, and if a call has it wherever a call that it makes has it.
  An inherited comparison holds of every call.

  The second run may be the first one again: then the comparison says something
  about a single run.
-/

namespace ScriptCheck

namespace Call

/-! ## Section 1: What a reader does by itself -/

/-- The call is about an operand or a body deeper than the limit. -/
inductive ExceedsLimit (limit : Nat) : Call → Prop
  | operand {depth : Nat} {input : List Token} (h : limit < depth) :
      ExceedsLimit limit (operand depth input)
  | block {depth : Nat} {input : List Token} (h : limit < depth) :
      ExceedsLimit limit (block depth input)

theorem ExceedsLimit.lt_depth {limit : Nat} {c : Call} (h : c.ExceedsLimit limit) :
    limit < c.depth := by
  cases h with
  | operand h => exact h
  | block h => exact h

/-- The reader itself reports the problem, not one of the calls that it makes. -/
inductive Finds (limit : Nat) : Call → Problem → Prop
  /-- An operand reports the number that it is. -/
  | number {depth : Nat} {t : Token} {input rest : List Token} (hu : upcoming input = t :: rest)
      (ht : t.isMalformedNumber = true) :
      Finds limit (operand depth input) (.malformedNumber t rest)
  /-- A list of statements reports what one of its statements has met. -/
  | interrupted {depth : Nat} {scope : Scope} {t : Token} {head : StatementHead}
      {obstacle : Obstacle} {input rest : List Token} (hu : upcoming input = t :: rest)
      (ht : t.statementHead? = some head)
      (hfirst : (readStatement limit depth head t.lexeme rest).outcome = .error obstacle) :
      Finds limit (statements depth scope input)
        (.blocked obstacle (some t)
          (upcoming (readStatement limit depth head t.lexeme rest).rest))
  /-- A program reports a token that starts no statement. -/
  | stray {depth : Nat} {t : Token} {input rest : List Token} (hu : upcoming input = t :: rest)
      (ht : t.statementHead? = none) :
      Finds limit (statements depth .program input)
        (.blocked (.expected .statement) (some t) (t :: rest))

/-! ## Section 2: Inherited comparisons -/

/-- Whatever readings are compared, in the course of a call. -/
abbrev Comparing : Type 1 :=
  Call → {α : Type} → {input : List Token} → Reading α input → Reading α input → Prop

/-- The comparison holds of a call's reading if it holds of the readings of the calls it makes. -/
structure Inherited (limit limit' : Nat) (R : Comparing) : Prop where
  /-- What does not depend on the limit, with the problems that the reader itself reports. -/
  settled {c : Call} {α : Type} {input : List Token} {r : Reading α input}
    (hproblems : ∀ p ∈ r.problems, c.Finds limit p) (h : r.outcome ≠ .error .tooDeep) : R c r r
  /-- Past the limit the run ends; the other one may go on. -/
  exceeded {c : Call} {α : Type} {input : List Token} (hc : c.ExceedsLimit limit)
    (hinput : c.input = input) (r' : Reading α input) : R c (.fail .tooDeep input) r'
  called {c c' : Call} (h : Makes limit c c')
    (hread : R c' (c'.read limit) (c'.read limit')) : R c (c'.read limit) (c'.read limit')
  seenFrom {c : Call} {α : Type} {input later : List Token} {r r' : Reading α later}
    (hs : later <:+ input) (h : R c r r') : R c (Reading.seenFrom hs r) (Reading.seenFrom hs r')
  map {c : Call} {α β : Type} {input : List Token} {r r' : Reading α input} (f : α → β)
    (h : R c r r') : R c (r.map f) (r'.map f)
  andThen {c : Call} {α β : Type} {input : List Token} {r r' : Reading α input}
    {f f' : α → (rest : List Token) → rest.length ≤ input.length → Reading β rest}
    (h : R c r r')
    (hf : ∀ a rest (hs : rest <:+ input), r.Reads a rest →
      R c (f a rest hs.length_le) (f' a rest hs.length_le)) : R c (r.andThen f) (r'.andThen f')
  precededBy {c : Call} {input later : List Token} {ss : List Statement} {ps : List Problem}
    {p p' : Passage later} (hs : later <:+ input) (hps : ∀ x ∈ ps, c.Finds limit x)
    (h : R c p.toReading p'.toReading) :
    R c (p.precededBy hs ss ps).toReading (p'.precededBy hs ss ps).toReading
  continueWith {c : Call} {input : List Token} {r r' : Reading Statement input} {start : Token}
    {more more' : (left : List Token) → left.length ≤ input.length → Passage left}
    (h : R c r r')
    (hfinds : ∀ obstacle, r.outcome = .error obstacle →
      c.Finds limit (.blocked obstacle (some start) (upcoming r.rest)))
    (hok : ∀ s left (hs : left <:+ input), r.Reads s left →
      R c (more left hs.length_le).toReading (more' left hs.length_le).toReading)
    (herror : ∀ obstacle left (hs : resume (upcoming left) left <:+ input),
      r.outcome = .error obstacle → r.rest = left →
      R c (more _ hs.length_le).toReading (more' _ hs.length_le).toReading) :
    R c (r.continueWith start more).toReading (r'.continueWith start more').toReading

/-! ## Section 3: One reader at a time -/

namespace Inherited

variable {limit limit' : Nat} {R : Comparing} (h : Inherited limit limit' R) {c : Call}
include h

theorem done {α : Type} (a : α) (input : List Token) : R c (.done a input) (.done a input) :=
  h.settled (by simp [Reading.done]) (by simp [Reading.done])

theorem stuck {α : Type} (what : Expectation) (input : List Token) :
    R c (.fail (.expected what) input : Reading α input) (.fail (.expected what) input) :=
  h.settled (by simp [Reading.fail]) (by simp [Reading.fail])

theorem demand (wanted : Token → Bool) (what : Expectation) (input : List Token) :
    R c (demand wanted what input) (demand wanted what input) := by
  cases hu : upcoming input with
  | nil =>
    rw [demand_of_nil hu]
    exact h.settled (by simp) (by simp)
  | cons t rest =>
    rw [demand_of_cons hu]
    split <;> exact h.settled (by simp) (by simp)

theorem parameters (input : List Token) : R c (readParameters input) (readParameters input) := by
  cases hu : upcoming input with
  | nil =>
    rw [readParameters_of_nil hu]
    exact h.done _ _
  | cons t rest =>
    rw [readParameters_of_cons hu]
    split
    · exact h.settled (by simp) (by simp)
    · exact h.done _ _

/-! The readers of expressions. -/

section readers
variable {depth least : Nat} {left : Expression} {input : List Token}
variable (ih : ∀ c', Makes limit c c' → R c' (c'.read limit) (c'.read limit'))
include ih

theorem made {c' : Call} (hm : Makes limit c c') : R c (c'.read limit) (c'.read limit') :=
  h.called hm (ih c' hm)

theorem operations (hc : c = .operations depth least left input) :
    R c (readOperations limit depth least left input)
      (readOperations limit' depth least left input) := by
  subst hc
  cases hu : upcoming input with
  | nil =>
    rw [readOperations_of_nil hu, readOperations_of_nil hu]
    exact h.done _ _
  | cons t rest =>
    rw [readOperations_of_cons hu, readOperations_of_cons hu]
    cases hop : t.binaryOperator? with
    | none => exact h.done _ _
    | some op =>
      -- an operator that binds too loosely is left to the caller, under both limits
      by_cases hleast : op.precedence < least
      · simp only [if_pos hleast]
        exact h.done _ _
      · simp only [if_neg hleast]
        apply h.seenFrom
        apply h.andThen (h.made ih (.rightOperand hu hop hleast))
        intro right rest' hs hright
        exact h.made ih (.furtherOperations hu hop hleast hright)

theorem operand (hlimit : limit ≤ limit') (hc : c = .operand depth input) :
    R c (readOperand limit depth input) (readOperand limit' depth input) := by
  subst hc
  by_cases hd : limit < depth
  · rw [readOperand, if_pos hd]
    exact h.exceeded (.operand hd) rfl _
  -- within the first limit the depth is within the second one too
  have hd : depth ≤ limit := Nat.le_of_not_lt hd
  have hd' : depth ≤ limit' := Nat.le_trans hd hlimit
  cases hu : upcoming input with
  | nil =>
    rw [readOperand_of_nil hd hu, readOperand_of_nil hd' hu]
    exact h.stuck _ _
  | cons t rest =>
    rw [readOperand_of_cons hd hu, readOperand_of_cons hd' hu]
    -- a literal and a name without brackets are settled by the reader itself
    have hvalue : R (.operand depth input) (readValue t rest) (readValue t rest) := by
      apply h.settled
      · intro p hp
        by_cases ht : t.isMalformedNumber
        · simp only [readValue, ht, if_true, List.mem_singleton] at hp
          exact hp ▸ .number hu ht
        · simp [readValue, ht] at hp
      · simp [readValue]
    cases ht : t.operandHead? with
    | none => exact h.stuck _ _
    | some head =>
      apply h.seenFrom
      cases head with
      | literal => exact hvalue
      | name =>
        dsimp only
        split
        · apply h.andThen (h.demand _ _ _)
          intro opening rest' hs hopening
          exact h.map _ (h.made ih (.arguments hd hu ht hopening))
        · exact hvalue
      | group =>
        apply h.andThen (h.made ih (.group hd hu ht))
        intro inner rest' hs hinner
        exact h.map _ (h.demand _ _ _)
      | list close => exact h.map _ (h.made ih (.elements hd hu ht))

theorem expression (hc : c = .expression depth least input) :
    R c (readExpression limit depth least input) (readExpression limit' depth least input) := by
  subst hc
  rw [readExpression, readExpression]
  apply h.andThen (h.made ih .leftOperand)
  intro left rest hs hleft
  exact h.made ih (.operations hleft)

theorem separated (hc : c = .separated depth input) :
    R c (readSeparated limit depth input) (readSeparated limit' depth input) := by
  subst hc
  rw [readSeparated_eq, readSeparated_eq]
  -- one call for the first item and one for all that come behind a comma
  have hfirst : R (.separated depth input) (readExpression limit depth 0 input)
      (readExpression limit' depth 0 input) := h.made ih .item
  apply h.andThen hfirst
  intro e rest hs hitem
  cases hu : upcoming rest with
  | nil =>
    rw [furtherItems_of_nil hu, furtherItems_of_nil hu]
    exact h.done _ _
  | cons comma rest' =>
    rw [furtherItems_of_cons hu, furtherItems_of_cons hu]
    by_cases hcomma : comma.isPunctuation ","
    · simp only [if_pos hcomma]
      exact h.seenFrom _ (h.map _ (h.made ih (.furtherItems hitem hu hcomma)))
    · simp only [if_neg hcomma]
      exact h.done _ _

theorem items {close : String} (hc : c = .items depth close input) :
    R c (readItems limit depth close input) (readItems limit' depth close input) := by
  subst hc
  rw [readItems, readItems]
  cases hclose : nextIs close input with
  | true =>
    simp only [if_true]
    exact h.map _ (h.demand _ _ _)
  | false =>
    simp only [Bool.false_eq_true, if_false]
    apply h.andThen (h.made ih (.separated hclose))
    intro items rest hs hitems
    exact h.map _ (h.demand _ _ _)

/-! The readers of simple statements. -/

theorem named {name : String} (hc : c = .named depth name input) :
    R c (readNamed limit depth name input) (readNamed limit' depth name input) := by
  subst hc
  unfold readNamed
  split
  · apply h.andThen (h.demand _ _ _)
    intro sign rest hs hsign
    exact h.map _ (h.made ih (.assigned hsign))
  · split
    · apply h.andThen (h.demand _ _ _)
      intro opening rest hs hopening
      exact h.map _ (h.made ih (.namedArguments hopening))
    · exact h.stuck _ _

theorem printed (hc : c = .printed depth input) :
    R c (readPrint limit depth input) (readPrint limit' depth input) := by
  subst hc
  unfold readPrint
  apply h.andThen (h.demand _ _ _)
  intro opening rest hs hopening
  apply h.andThen (h.made ih (.printedArgument hopening))
  intro argument rest' hs' hargument
  exact h.map _ (h.demand _ _ _)

/-! The readers of statements and bodies. -/

theorem statements {scope : Scope} (hc : c = .statements depth scope input) :
    R c (readStatements limit depth scope input).toReading
      (readStatements limit' depth scope input).toReading := by
  subst hc
  cases hu : upcoming input with
  | nil =>
    rw [readStatements_of_nil hu, readStatements_of_nil hu]
    exact h.done _ _
  | cons t rest =>
    cases ht : t.statementHead? with
    | some head =>
      rw [readStatements_of_head hu ht, readStatements_of_head hu ht]
      apply h.precededBy _ (by simp)
      -- the statement is a call; the rest of the list is another one, wherever it begins
      apply h.continueWith (h.made ih (.firstStatement hu ht))
      · intro obstacle hobstacle
        exact .interrupted hu ht hobstacle
      · intro s left hs hfirst
        exact h.made ih (.behindStatement hu ht hfirst)
      · intro obstacle left hs hfirst hrest
        exact h.made ih (.behindObstacle hu ht hfirst hrest)
    | none =>
      cases scope with
      | body =>
        rw [readStatements_body_of_none hu ht, readStatements_body_of_none hu ht]
        exact h.done _ _
      | program =>
        rw [readStatements_program_of_none hu ht, readStatements_program_of_none hu ht]
        apply h.precededBy _ _ (h.made ih (.behindStray hu ht))
        intro p hp
        exact List.mem_singleton.mp hp ▸ .stray hu ht

theorem block (hlimit : limit ≤ limit') (hc : c = .block depth input) :
    R c (readBlock limit depth input) (readBlock limit' depth input) := by
  subst hc
  by_cases hd : limit < depth
  · -- the first run gives up here, whatever the second one does
    rw [readBlock, if_pos hd]
    exact h.exceeded (.block hd) rfl _
  have hd : depth ≤ limit := Nat.le_of_not_lt hd
  have hd' : depth ≤ limit' := Nat.le_trans hd hlimit
  rw [readBlock, readBlock, if_neg (Nat.not_lt.mpr hd), if_neg (Nat.not_lt.mpr hd')]
  cases hu : upcoming input with
  | nil => exact h.stuck _ _
  | cons t rest =>
    by_cases ht : t.startsStatement
    · simp only [if_pos ht]
      exact h.made ih (.blockStatements hd hu ht)
    · simp only [if_neg ht]
      exact h.stuck _ _

theorem body (hc : c = .body depth input) :
    R c (readBody limit depth input) (readBody limit' depth input) := by
  subst hc
  rw [readBody, readBody]
  apply h.andThen (h.demand _ _ _)
  intro colon rest hs hcolon
  exact h.made ih (.block hcolon)

theorem conditional {lexeme : String} (hc : c = .statement depth .ifWord lexeme input) :
    R c (readStatement limit depth .ifWord lexeme input)
      (readStatement limit' depth .ifWord lexeme input) := by
  subst hc
  rw [readStatement_if, readStatement_if]
  have hfirst : R (.statement depth .ifWord lexeme input) (readExpression limit depth 0 input)
      (readExpression limit' depth 0 input) := h.made ih (.condition (.inl rfl))
  apply h.andThen hfirst
  intro condition rest hs hcondition
  have hsecond : R (.statement depth .ifWord lexeme input) (readBody limit depth rest)
      (readBody limit' depth rest) := h.made ih (.conditionalBody (.inl rfl) hcondition)
  apply h.andThen hsecond
  intro body rest' hs' hbody
  -- by now both runs stand at the same place and see the same token
  cases hu : upcoming rest' with
  | nil =>
    rw [readElse_of_nil hu, readElse_of_nil hu]
    exact h.done _ _
  | cons word rest'' =>
    rw [readElse_of_cons hu, readElse_of_cons hu]
    by_cases hword : word.isKeyword "else"
    · simp only [if_pos hword]
      exact h.seenFrom _ (h.map _ (h.made ih (.otherwise hcondition hbody hu hword)))
    · simp only [if_neg hword]
      exact h.done _ _

theorem statement {head : StatementHead} {lexeme : String}
    (hc : c = .statement depth head lexeme input) :
    R c (readStatement limit depth head lexeme input)
      (readStatement limit' depth head lexeme input) := by
  -- demanded tokens and parameters do not depend on the limit, all other parts are calls
  cases head with
  | ifWord => exact h.conditional ih hc
  | name =>
    subst hc
    rw [readStatement, readStatement]
    exact h.made ih .named
  | printWord =>
    subst hc
    rw [readStatement, readStatement]
    exact h.made ih .printed
  | returnWord =>
    subst hc
    rw [readStatement, readStatement]
    exact h.map _ (h.made ih .returned)
  | whileWord =>
    subst hc
    rw [readStatement, readStatement]
    apply h.andThen (h.made ih (.condition (.inr rfl)))
    intro condition rest hs hcondition
    exact h.map _ (h.made ih (.conditionalBody (.inr rfl) hcondition))
  | forWord =>
    subst hc
    rw [readStatement, readStatement]
    apply h.andThen (h.demand _ _ _)
    intro name rest hs hname
    apply h.andThen (h.demand _ _ _)
    intro word rest' hs' hword
    apply h.andThen (h.made ih (.iterable hname hword))
    intro iterable rest'' hs'' hiterable
    exact h.map _ (h.made ih (.repeatedBody hname hword hiterable))
  | defWord =>
    subst hc
    rw [readStatement, readStatement]
    apply h.andThen (h.demand _ _ _)
    intro name rest hs hname
    apply h.andThen (h.demand _ _ _)
    intro opening rest' hs' hopening
    apply h.andThen (h.parameters _)
    intro parameters rest'' hs'' hparameters
    apply h.andThen (h.demand _ _ _)
    intro closing left hs''' hclosing
    exact h.map _ (h.made ih (.definedBody hname hopening hparameters hclosing))

end readers

/-! ## Section 4: Every call -/

/-- An inherited comparison holds of what comes of every call. -/
theorem read (hlimit : limit ≤ limit') (c : Call) : R c (c.read limit) (c.read limit') := by
  induction c using Call.induction limit with
  | h c ih =>
    -- the comparison is known of the calls that this one makes
    cases c with
    | operations => exact h.operations ih rfl
    | operand => exact h.operand ih hlimit rfl
    | expression => exact h.expression ih rfl
    | separated => exact h.separated ih rfl
    | items => exact h.items ih rfl
    | named => exact h.named ih rfl
    | printed => exact h.printed ih rfl
    | statements => exact h.statements ih rfl
    | block => exact h.block ih hlimit rfl
    | body => exact h.body ih rfl
    | statement => exact h.statement ih rfl

end Inherited

end Call

end ScriptCheck
