import ScriptCheck.Proofs.Completeness.Programs
import ScriptCheck.Proofs.Readings
import ScriptCheck.Proofs.Trees.Shape

/-! # How Deep Trees Are

  The limit on nesting bounds how deep the readers go. It bounds the tree as well,
  in every direction but one: operators of one precedence stand in a row without
  being nested, and the tree of such a row leans to the left, one level for each
  operator. The loop that reads the row never comes closer to the limit.

  A path through a tree is told here by the steps that it takes, and the steps to
  left operands are kept apart from the others. What a node has room for is a
  number of other steps. The readers spend it: an operand that is read one level
  deeper has one step less to go, and a body has two, one for the block and one
  for the statement in it.
-/

namespace ScriptCheck

/-! ## Section 1: Paths -/

/-- How a path goes on from a node to one below it. -/
inductive Descent where
  /-- To the left operand of an operator. -/
  | leftOperand
  /-- To any other node. -/
  | inward
  deriving DecidableEq, Repr

mutual

/-- The nodes in a child that are below no other node of it. -/
def Child.topNodes : Child → List Node
  | .node n => [n]
  | .sequence items => Child.topNodesIn items
  | .literal _ => []
  | .absent => []

def Child.topNodesIn : List Child → List Node
  | [] => []
  | c :: cs => c.topNodes ++ Child.topNodesIn cs

end

namespace Node

/-- The nodes directly below a node, with the steps that lead to them. -/
def steps : Node → List (Descent × Node)
  | mk .binaryOp [_, .node left, .node right] => [(.leftOperand, left), (.inward, right)]
  | mk _ children => (Child.topNodesIn children).map (.inward, ·)

/-- A path from the node down to some node below it, or to itself. It passes one node more than it
    has steps. -/
inductive Path : Node → List Descent → Prop
  | here {n : Node} : Path n []
  | step {n below : Node} {d : Descent} {path : List Descent} (hstep : (d, below) ∈ n.steps)
      (hpath : Path below path) : Path n (d :: path)

section steps
variable (name op lexeme : String) (n left right body condition : Node) (ns : List Node)

theorem topNodesIn_nodes : Child.topNodesIn (ns.map .node) = ns := by
  induction ns with
  | nil => rfl
  | cons n ns ih => rw [List.map_cons, Child.topNodesIn, ih, Child.topNodes, List.singleton_append]

theorem topNodesIn_literals (texts : List String) :
    Child.topNodesIn (texts.map .literal) = [] := by
  induction texts with
  | nil => rfl
  | cons text texts ih => rw [List.map_cons, Child.topNodesIn, ih, Child.topNodes, List.nil_append]

@[simp] theorem steps_program : (program ns).steps = ns.map (.inward, ·) := by
  simp [program, steps, Child.topNodesIn, Child.topNodes, Child.nodes, topNodesIn_nodes]

@[simp] theorem steps_block : (block ns).steps = ns.map (.inward, ·) := by
  simp [block, steps, Child.topNodesIn, Child.topNodes, Child.nodes, topNodesIn_nodes]

@[simp] theorem steps_assign : (assign name n).steps = [(.inward, n)] := rfl

@[simp] theorem steps_conditional (otherwise : Option Node) :
    (conditional condition body otherwise).steps =
      (condition :: body :: otherwise.toList).map (.inward, ·) := by
  cases otherwise <;> rfl

@[simp] theorem steps_whileLoop :
    (whileLoop condition body).steps = [(.inward, condition), (.inward, body)] := rfl

@[simp] theorem steps_forLoop :
    (forLoop name n body).steps = [(.inward, n), (.inward, body)] := rfl

@[simp] theorem steps_functionDef (parameters : List String) :
    (functionDef name parameters body).steps = [(.inward, body)] := by
  simp [functionDef, steps, Child.topNodesIn, Child.topNodes, topNodesIn_literals]

@[simp] theorem steps_functionCall : (functionCall name ns).steps = ns.map (.inward, ·) := by
  simp [functionCall, steps, Child.topNodesIn, Child.topNodes, Child.nodes, topNodesIn_nodes]

@[simp] theorem steps_print : (print n).steps = [(.inward, n)] := rfl

@[simp] theorem steps_returnValue : (returnValue n).steps = [(.inward, n)] := rfl

@[simp] theorem steps_binaryOp :
    (binaryOp op left right).steps = [(.leftOperand, left), (.inward, right)] := rfl

@[simp] theorem steps_value : (value lexeme).steps = [] := rfl

@[simp] theorem steps_list : (list ns).steps = ns.map (.inward, ·) := by
  simp [list, steps, Child.topNodesIn, Child.topNodes, Child.nodes, topNodesIn_nodes]

end steps

/-! ## Section 2: Room for a tree -/

/-- No path takes more steps than there is room for, those to left operands not counted. -/
def FitsIn (room : Nat) (n : Node) : Prop := ∀ path, n.Path path → path.count .inward ≤ room

variable {room room' : Nat} {n left right : Node}

theorem FitsIn.mono (h : n.FitsIn room) (hle : room ≤ room') : n.FitsIn room' :=
  fun path hpath => Nat.le_trans (h path hpath) hle

/-- A step takes one off the room unless it is to a left operand. -/
theorem fitsIn_of_steps (h : ∀ s ∈ n.steps, if s.1 = .leftOperand then s.2.FitsIn room
    else ∃ less, less < room ∧ s.2.FitsIn less) : n.FitsIn room := by
  intro path hpath
  cases hpath with
  | here => exact Nat.zero_le room
  | @step _ below d path hstep hbelow =>
    have hfits := h _ hstep
    cases d with
    | leftOperand =>
      rw [List.count_cons_of_ne (by decide)]
      exact hfits path hbelow
    | inward =>
      obtain ⟨less, hlt, hfits⟩ := hfits
      rw [List.count_cons_self]
      exact Nat.lt_of_le_of_lt (hfits path hbelow) hlt

theorem fitsIn_of_inward (h : ∀ s ∈ n.steps, s.1 = .inward ∧ s.2.FitsIn room) :
    n.FitsIn (room + 1) := by
  apply fitsIn_of_steps
  intro s hs
  obtain ⟨hinward, hfits⟩ := h s hs
  rw [if_neg (by simp [hinward])]
  exact ⟨room, Nat.lt_succ_self room, hfits⟩

/-- The room for a value that is read at a depth: one step for each level that is left. -/
structure FitsAt (limit depth : Nat) (n : Node) : Prop where
  depth_le : depth ≤ limit
  fits : n.FitsIn (limit - depth)

variable {limit depth : Nat}

/-- What is nested in a value is read one level deeper. -/
theorem fitsAt_of_inward (hd : depth ≤ limit)
    (h : ∀ s ∈ n.steps, s.1 = .inward ∧ s.2.FitsAt limit (depth + 1)) : n.FitsAt limit depth := by
  refine ⟨hd, fitsIn_of_steps ?_⟩
  intro s hs
  obtain ⟨hinward, hfits⟩ := h s hs
  have := hfits.depth_le
  rw [if_neg (by simp [hinward])]
  exact ⟨limit - (depth + 1), by omega, hfits.fits⟩

theorem FitsAt.outward (h : n.FitsAt limit (depth + 1)) : n.FitsAt limit depth :=
  ⟨Nat.le_of_succ_le h.depth_le, h.fits.mono (by omega)⟩

/-- A left operand is read at the depth of the whole, a right one deeper. -/
theorem fitsAt_binaryOp (op : String) (hleft : left.FitsAt limit depth)
    (hright : right.FitsAt limit (depth + 1)) : (binaryOp op left right).FitsAt limit depth := by
  have := hright.depth_le
  refine ⟨hleft.depth_le, fitsIn_of_steps ?_⟩
  intro s hs
  simp only [steps_binaryOp, List.mem_cons, List.not_mem_nil, or_false] at hs
  rcases hs with rfl | rfl
  · exact hleft.fits
  · exact ⟨limit - (depth + 1), by omega, hright.fits⟩

/-- The room for a statement that is read at a depth. -/
def FitsAsStatement (limit depth : Nat) (n : Node) : Prop := n.FitsIn (2 * (limit - depth) + 1)

/-- A value directly below a statement has room enough. -/
theorem FitsAt.fitsIn (h : n.FitsAt limit depth) : n.FitsIn (2 * (limit - depth)) :=
  h.fits.mono (by omega)

/-- So has a body. It takes two steps to the statements in it, which are read one level deeper. -/
theorem fitsIn_block {ns : List Node} (hd : depth + 1 ≤ limit)
    (h : ∀ n ∈ ns, n.FitsAsStatement limit (depth + 1)) :
    (block ns).FitsIn (2 * (limit - depth)) := by
  have hroom : 2 * (limit - depth) = 2 * (limit - (depth + 1)) + 1 + 1 := by omega
  rw [hroom]
  apply fitsIn_of_inward
  simpa [FitsAsStatement] using h

end Node

/-! ## Section 3: Expressions -/

/-- The display forms all have room at the depth. -/
def AllFitAt (limit depth : Nat) (es : List Expression) : Prop :=
  ∀ n ∈ Expression.toNodes es, n.FitsAt limit depth

theorem AllFitAt.cons {limit depth : Nat} {e : Expression} {es : List Expression}
    (he : e.toNode.FitsAt limit depth) (hes : AllFitAt limit depth es) :
    AllFitAt limit depth (e :: es) := by
  intro n hn
  rw [Expression.toNodes, List.mem_cons] at hn
  rcases hn with rfl | hn
  · exact he
  · exact hes n hn

theorem allFitAt_nil {limit depth : Nat} : AllFitAt limit depth [] := by
  simp [AllFitAt, Expression.toNodes]

section values
variable {limit depth : Nat}

theorem gives_fitsAt_readValue (hd : depth ≤ limit) (t : Token) (input : List Token) :
    (readValue t input).Gives fun e _ => e.toNode.FitsAt limit depth := by
  constructor
  intro e he
  obtain rfl := Except.ok.inj he
  exact Node.fitsAt_of_inward hd (by simp [Expression.toNode])

end values

mutual

theorem gives_fitsAt_readOperations {limit depth least : Nat} {left : Expression}
    (input : List Token) (hleft : left.toNode.FitsAt limit depth) :
    (readOperations limit depth least left input).Gives fun e _ =>
      e.toNode.FitsAt limit depth := by
  cases hu : upcoming input with
  | nil =>
    rw [readOperations_of_nil hu]
    exact Reading.gives_done hleft
  | cons t rest =>
    have := length_lt_of_upcoming hu
    rw [readOperations_of_cons hu]
    split
    · exact Reading.gives_done hleft
    · next op hop =>
      split
      · exact Reading.gives_done hleft
      · apply Reading.Gives.seenFrom
        apply (gives_fitsAt_readExpression limit (depth + 1) (op.precedence + 1) rest).andThen
        intro right rest' hs hright
        have := hs.length_le
        -- the depth stays, however many operators follow
        exact gives_fitsAt_readOperations rest' (Node.fitsAt_binaryOp op.symbol hleft hright)
termination_by 5 * input.length

theorem gives_fitsAt_readOperand (limit depth : Nat) (input : List Token) :
    (readOperand limit depth input).Gives fun e _ => e.toNode.FitsAt limit depth := by
  -- the guard is what bounds the tree: no operand is read deeper than the limit
  by_cases hd : depth ≤ limit
  · cases hu : upcoming input with
    | nil =>
      rw [readOperand_of_nil hd hu]
      exact Reading.gives_fail _
    | cons t rest =>
      have := length_lt_of_upcoming hu
      rw [readOperand_of_cons hd hu]
      cases t.operandHead? with
      | none => exact Reading.gives_fail _
      | some head =>
        apply Reading.Gives.seenFrom
        cases head with
        | literal => exact gives_fitsAt_readValue hd t rest
        | name =>
          simp only
          split
          · apply (gives_demand ..).andThen
            intro opening rest₁ hs _
            have := hs.length_le
            apply (gives_fitsAt_readItems limit (depth + 1) ")" rest₁).map
            intro es rest₂ hes
            exact Node.fitsAt_of_inward hd (by simpa [Expression.toNode, AllFitAt] using hes)
          · exact gives_fitsAt_readValue hd t rest
        | group =>
          apply (gives_fitsAt_readExpression limit (depth + 1) 0 rest).andThen
          intro inner rest₁ _ hinner
          -- parentheses leave no node behind
          exact (gives_demand ..).map fun _ _ _ => hinner.outward
        | list close =>
          apply (gives_fitsAt_readItems limit (depth + 1) close rest).map
          intro es rest₁ hes
          exact Node.fitsAt_of_inward hd (by simpa [Expression.toNode, AllFitAt] using hes)
  · have hlimit : limit < depth := by omega
    rw [readOperand, if_pos hlimit]
    exact Reading.gives_fail _
termination_by 5 * input.length + 1

theorem gives_fitsAt_readExpression (limit depth least : Nat) (input : List Token) :
    (readExpression limit depth least input).Gives fun e _ => e.toNode.FitsAt limit depth := by
  rw [readExpression]
  apply (gives_fitsAt_readOperand limit depth input).andThen
  intro left rest hs hleft
  have := hs.length_le
  exact gives_fitsAt_readOperations rest hleft
termination_by 5 * input.length + 2

theorem gives_fitsAt_readSeparated (limit depth : Nat) (input : List Token) :
    (readSeparated limit depth input).Gives fun es _ => AllFitAt limit depth es := by
  rw [readSeparated_eq]
  apply (gives_fitsAt_readExpression limit depth 0 input).andThen
  intro e rest hs he
  have := hs.length_le
  apply gives_furtherItems (allFitAt_nil.cons he)
  intro comma rest₁ hu
  have := length_lt_of_upcoming hu
  exact (gives_fitsAt_readSeparated limit depth rest₁).imp fun es _ hes => hes.cons he
termination_by 5 * input.length + 3

theorem gives_fitsAt_readItems (limit depth : Nat) (close : String) (input : List Token) :
    (readItems limit depth close input).Gives fun es _ => AllFitAt limit depth es := by
  unfold readItems
  split
  · exact (gives_demand ..).map fun _ _ _ => allFitAt_nil
  · apply (gives_fitsAt_readSeparated limit depth input).andThen
    intro es rest _ hes
    exact (gives_demand ..).map fun _ _ _ => hes
termination_by 5 * input.length + 4

end

/-! ## Section 4: Statements -/

section simple
variable (limit depth : Nat)

theorem gives_fits_readNamed (name : String) (input : List Token) :
    (readNamed limit depth name input).Gives fun s _ =>
      s.toNode.FitsAsStatement limit depth := by
  -- arguments are read one level deeper and still stand right below the statement
  unfold readNamed
  split
  · apply (gives_demand ..).andThen
    intro equals rest _ _
    apply (gives_fitsAt_readExpression limit depth 0 rest).map
    intro value _ hvalue
    exact Node.fitsIn_of_inward (by simpa [Statement.toNode] using hvalue.fitsIn)
  · split
    · apply (gives_demand ..).andThen
      intro opening rest _ _
      apply (gives_fitsAt_readItems limit (depth + 1) ")" rest).map
      intro arguments _ harguments
      apply Node.fitsIn_of_inward
      simp only [Statement.toNode, Node.steps_functionCall, List.forall_mem_map, true_and]
      intro n hn
      exact (harguments n hn).outward.fitsIn
    · exact Reading.gives_fail _

theorem gives_fits_readPrint (input : List Token) :
    (readPrint limit depth input).Gives fun s _ => s.toNode.FitsAsStatement limit depth := by
  apply (gives_demand ..).andThen
  intro opening rest _ _
  apply (gives_fitsAt_readExpression limit (depth + 1) 0 rest).andThen
  intro argument rest' _ hargument
  apply (gives_demand ..).map
  intro _ _ _
  exact Node.fitsIn_of_inward (by simpa [Statement.toNode] using hargument.outward.fitsIn)

end simple

/-- The display forms all have room as statements at the depth. -/
def AllFitAsStatements (limit depth : Nat) (ss : List Statement) : Prop :=
  ∀ n ∈ Statement.toNodes ss, n.FitsAsStatement limit depth

/-- The block of these statements has room below a statement at the depth. -/
def FitAsBody (limit depth : Nat) (ss : List Statement) : Prop :=
  (Node.block (Statement.toNodes ss)).FitsIn (2 * (limit - depth))

mutual

theorem gives_fit_readStatements (limit depth : Nat) (scope : Scope) (input : List Token) :
    (readStatements limit depth scope input).toReading.Gives fun ss _ =>
      AllFitAsStatements limit depth ss := by
  apply gives_readStatements
  · simp [AllFitAsStatements, Statement.toNodes]
  · intro t rest head hu _
    have := length_lt_of_upcoming hu
    exact gives_fits_readStatement limit depth head t.lexeme rest
  · intro s left _ hstatement
    apply (gives_fit_readStatements limit depth scope left).imp
    intro ss _ hstatements n hn
    rw [Statement.toNodes, List.mem_cons] at hn
    rcases hn with rfl | hn
    · exact hstatement
    · exact hstatements n hn
  · intro left _ _
    exact gives_fit_readStatements limit depth scope left
termination_by 4 * input.length

theorem gives_fit_readBlock (limit depth : Nat) (input : List Token) :
    (readBlock limit depth input).Gives fun ss _ =>
      depth ≤ limit ∧ AllFitAsStatements limit depth ss := by
  apply gives_readBlock
  intro hd
  exact (gives_fit_readStatements limit depth .body input).imp fun _ _ hstatements =>
    ⟨hd, hstatements⟩
termination_by 4 * input.length + 1

theorem gives_fit_readBody (limit depth : Nat) (input : List Token) :
    (readBody limit depth input).Gives fun ss _ => FitAsBody limit depth ss := by
  rw [readBody]
  apply (gives_demand ..).andThen
  intro colon rest hs _
  have := hs.length_le
  apply (gives_fit_readBlock limit (depth + 1) rest).imp
  intro ss _ ⟨hd, hstatements⟩
  exact Node.fitsIn_block hd hstatements
termination_by 4 * input.length + 2

theorem gives_fits_readStatement (limit depth : Nat) (head : StatementHead) (lexeme : String)
    (input : List Token) :
    (readStatement limit depth head lexeme input).Gives fun s _ =>
      s.toNode.FitsAsStatement limit depth := by
  -- every child is one step below the statement, so it is enough that each has the room below:
  -- expressions have it as they are read at this depth, bodies as their statements are read one
  -- level deeper
  cases head with
  | name =>
    rw [readStatement]
    exact gives_fits_readNamed limit depth lexeme input
  | printWord =>
    rw [readStatement]
    exact gives_fits_readPrint limit depth input
  | returnWord =>
    rw [readStatement]
    apply (gives_fitsAt_readExpression limit depth 0 input).map
    intro value _ hvalue
    exact Node.fitsIn_of_inward (by simpa [Statement.toNode] using hvalue.fitsIn)
  | ifWord =>
    rw [readStatement_if]
    apply (gives_fitsAt_readExpression limit depth 0 input).andThen
    intro condition rest₁ hs₁ hcondition
    have := hs₁.length_le
    apply (gives_fit_readBody limit depth rest₁).andThen
    intro body rest₂ hs₂ hbody
    have := hs₂.length_le
    -- without an `else` two children have to fit, with one three
    apply gives_readElse
    · exact Node.fitsIn_of_inward
        (by simpa [Statement.toNode] using ⟨hcondition.fitsIn, hbody⟩)
    · intro word rest₃ hu
      have := length_lt_of_upcoming hu
      apply (gives_fit_readBody limit depth rest₃).imp
      intro otherwise _ hotherwise
      exact Node.fitsIn_of_inward
        (by simpa [Statement.toNode] using ⟨hcondition.fitsIn, hbody, hotherwise⟩)
  | whileWord =>
    rw [readStatement]
    apply (gives_fitsAt_readExpression limit depth 0 input).andThen
    intro condition rest₁ hs₁ hcondition
    have := hs₁.length_le
    apply (gives_fit_readBody limit depth rest₁).map
    intro body _ hbody
    exact Node.fitsIn_of_inward (by simpa [Statement.toNode] using ⟨hcondition.fitsIn, hbody⟩)
  | forWord =>
    rw [readStatement]
    apply (gives_demand ..).andThen
    -- the name of the variable is a literal and takes no room; only what is read behind `in` counts
    intro name rest₁ hs₁ _
    apply (gives_demand ..).andThen
    intro word rest₂ hs₂ _
    apply (gives_fitsAt_readExpression limit depth 0 rest₂).andThen
    intro iterable rest₃ hs₃ hiterable
    have := (hs₃.trans (hs₂.trans hs₁)).length_le
    apply (gives_fit_readBody limit depth rest₃).map
    intro body _ hbody
    exact Node.fitsIn_of_inward (by simpa [Statement.toNode] using ⟨hiterable.fitsIn, hbody⟩)
  | defWord =>
    rw [readStatement]
    apply (gives_demand ..).andThen
    intro name rest₁ hs₁ _
    apply (gives_demand ..).andThen
    intro opening rest₂ hs₂ _
    -- parameters are literals too, so the body is the only child
    apply (Reading.gives_any (readParameters rest₂)).andThen
    intro parameters rest₃ hs₃ _
    apply (gives_demand ..).andThen
    intro closing rest₄ hs₄ _
    have := (hs₄.trans (hs₃.trans (hs₂.trans hs₁))).length_le
    apply (gives_fit_readBody limit depth rest₄).map
    intro body _ hbody
    exact Node.fitsIn_of_inward (by simpa [Statement.toNode, FitAsBody] using hbody)
termination_by 4 * input.length + 3

end

/-! ## Section 5: Trees -/

/-- On no path of a tree are there more nodes than the limit allows, two for each level and three
    for the program with a statement and its value. Left operands are not counted. -/
theorem checkSyntax_tree_count_le (limit : Nat) (tokens : List Token) (tree : Node)
    (path : List Descent) (htree : (checkSyntax limit tokens).tree = some tree)
    (hpath : tree.Path path) : path.count .inward + 1 ≤ 2 * limit + 3 := by
  obtain ⟨-, rfl⟩ := displayTree?_eq_some_iff.mp htree
  have hstatements : AllFitAsStatements limit 0 (readProgram limit tokens).statements := by
    rw [readProgram_statements]
    exact (gives_fit_readStatements limit 0 .program tokens).of_ok _ rfl
  -- the statements are one step below the root
  have hfits : (Node.program (Statement.toNodes (readProgram limit tokens).statements)).FitsIn
      (2 * limit + 1 + 1) :=
    Node.fitsIn_of_inward (by simpa [AllFitAsStatements, Node.FitsAsStatement] using hstatements)
  exact Nat.succ_le_succ (hfits path hpath)

/-! ## Section 6: Rows of operators

  In the tree of a row every operator is the left operand of the next one, while
  the operands are all read at one and the same depth.
-/

namespace OnesInARow

open ExpressionPhrase StatementPhrase

def token (kind : TokenKind) (lexeme : String) : Token := ⟨kind, lexeme, 1, 1, .emptyAt 0⟩

/-- `1 + 1 + … + 1`, with as many operators as the number says. -/
def sum : Nat → Expression
  | 0 => .value "1"
  | n + 1 => .binary .plus (sum n) (.value "1")

def sumTokens : Nat → List Token
  | 0 => [token .number "1"]
  | n + 1 => sumTokens n ++ token .operator "+" :: [token .number "1"]

/-- The tokens of `x = 1 + 1 + … + 1`. -/
def tokens (n : Nat) : List Token := token .identifier "x" :: token .operator "=" :: sumTokens n

def tree (n : Nat) : Node := .program [.assign "x" (sum n).toNode]

/-- However long the row is, it is nested one level deep at most. -/
theorem sumTokens_yields (n : Nat) :
    ∃ top m, BindsAtLeast BinaryOperator.plus.precedence top ∧ m ≤ 1 ∧
      (expression top (sum n)).Yields m (sumTokens n) := by
  have hone : (expression none (.value "1")).Yields 0 [token .number "1"] :=
    @ExpressionPhrase.Yields.value (token .number "1") (.inr (.inl rfl))
  induction n with
  | zero => exact ⟨none, 0, by simp [BindsAtLeast], Nat.zero_le 1, hone⟩
  | succ n ih =>
    obtain ⟨top, m, htop, hm, hyields⟩ := ih
    -- the sum is the left operand, which is not nested in the whole
    refine ⟨some .plus, max m 1, by simp [BindsAtLeast], by omega, ?_⟩
    exact .binary hyields ⟨rfl, rfl⟩ hone htop (by simp [BindsAtLeast])

theorem significantTokens_sumTokens (n : Nat) : significantTokens (sumTokens n) = sumTokens n := by
  induction n with
  | zero => rfl
  | succ n ih =>
    rw [sumTokens, significantTokens_append, ih]
    rfl

theorem noneMalformed_sumTokens (n : Nat) : NoneMalformed (sumTokens n) := by
  induction n with
  | zero => decide
  | succ n ih => exact noneMalformed_append_iff.mpr ⟨ih, by decide⟩

/-- The row is read without an error under every limit but zero. -/
theorem readStatements_clean (n : Nat) {limit : Nat} (hlimit : 0 < limit) :
    ∃ rest, (readStatements limit 0 .program (tokens n)).Clean [.assign "x" (sum n)] rest := by
  -- a yield is read back under every limit that is as deep as the yield, and this one is one deep
  -- at most
  obtain ⟨top, m, -, hm, hsum⟩ := sumTokens_yields n
  have hsignificant : significantTokens (tokens n) = tokens n := by
    rw [tokens, significantTokens_cons rfl, significantTokens_cons rfl,
      significantTokens_sumTokens]
  have hyields : (statements [.assign "x" (sum n)]).Yields m (significantTokens (tokens n)) := by
    rw [hsignificant]
    exact .last (@StatementPhrase.Yields.assign (token .identifier "x") (token .operator "=")
      top (sum n) m _ rfl ⟨rfl, rfl⟩ hsum)
  have hnumbers : NoneMalformed (significantTokens (tokens n)) := by
    rw [hsignificant, tokens, noneMalformed_cons_iff, noneMalformed_cons_iff]
    exact ⟨rfl, rfl, noneMalformed_sumTokens n⟩
  have hread : (readStatements limit 0 .program (tokens n)).Guarded (m ≤ limit)
      [.assign "x" (sum n)] [] :=
    guarded_program hyields rfl hnumbers
  obtain ⟨rest, hclean, -⟩ := hread.clean (by omega)
  exact ⟨rest, hclean⟩

theorem checkSyntax_succeeded (n : Nat) {limit : Nat} (hlimit : 0 < limit) :
    (checkSyntax limit (tokens n)).succeeded = true := by
  obtain ⟨rest, hclean⟩ := readStatements_clean n hlimit
  exact checkSyntax_succeeded_iff.mpr ⟨_, rest, List.cons_ne_nil _ _, hclean⟩

theorem checkSyntax_tree (n : Nat) {limit : Nat} (hlimit : 0 < limit) :
    (checkSyntax limit (tokens n)).tree = some (tree n) := by
  obtain ⟨rest, hclean⟩ := readStatements_clean n hlimit
  rw [checkSyntax_tree_of_clean (List.cons_ne_nil _ _) hclean]
  rfl

/-- The left operands are a path down to the first summand. -/
theorem sum_path (n : Nat) : (sum n).toNode.Path (List.replicate n .leftOperand) := by
  induction n with
  | zero => exact .here
  | succ n ih => exact .step List.mem_cons_self ih

theorem tree_path (n : Nat) :
    (tree n).Path (.inward :: .inward :: List.replicate n .leftOperand) :=
  .step List.mem_cons_self (.step List.mem_cons_self (sum_path n))

end OnesInARow

/-- The limit on nesting bounds the paths of a tree, with left operands not counted. Those are not
    bounded: `x = 1 + 1 + … + 1` is accepted at any length, under every limit but zero. -/
theorem checkSyntax_tree_path_le (limit : Nat) :
    (∀ (tokens : List Token) (tree : Node) (path : List Descent),
      (checkSyntax limit tokens).tree = some tree → tree.Path path →
        path.count .inward + 1 ≤ 2 * limit + 3) ∧
      (0 < limit → ∀ n, (checkSyntax limit (OnesInARow.tokens n)).succeeded = true ∧
        (checkSyntax limit (OnesInARow.tokens n)).tree = some (OnesInARow.tree n) ∧
        (OnesInARow.tree n).Path (.inward :: .inward :: List.replicate n .leftOperand)) := by
  constructor
  · intro tokens tree path htree hpath
    exact checkSyntax_tree_count_le limit tokens tree path htree hpath
  · intro hlimit n
    exact ⟨OnesInARow.checkSyntax_succeeded n hlimit, OnesInARow.checkSyntax_tree n hlimit,
      OnesInARow.tree_path n⟩

/-- The theorem at a path that passes more nodes than the bound says, three of them left
    operands. -/
theorem checkSyntax_tree_path_le_sum :
    let path : List Descent := [.inward, .inward, .leftOperand, .leftOperand, .leftOperand]
    (checkSyntax 1 (OnesInARow.tokens 3)).succeeded = true ∧
      (checkSyntax 1 (OnesInARow.tokens 3)).tree = some (OnesInARow.tree 3) ∧
      (OnesInARow.tree 3).Path path ∧ 2 * 1 + 3 < path.length + 1 ∧
      path.count .inward + 1 ≤ 2 * 1 + 3 := by
  intro path
  obtain ⟨hbounded, haccepted⟩ := checkSyntax_tree_path_le 1
  obtain ⟨hsucceeded, htree, hpath⟩ := haccepted Nat.one_pos 3
  exact ⟨hsucceeded, htree, hpath, by decide, hbounded _ _ path htree hpath⟩

/-- With left operands counted there is no bound: the limit on nesting does not limit the number of
    nodes on a path. -/
theorem path_length_unbounded :
    ¬ ∀ limit, ∃ bound, ∀ tokens tree, (checkSyntax limit tokens).tree = some tree →
      ∀ path, tree.Path path → path.length + 1 ≤ bound := by
  intro hbounded
  obtain ⟨bound, hbound⟩ := hbounded 1
  -- with as many operators as the bound says, the program and the statement are already too many
  have hle := hbound (OnesInARow.tokens bound) (OnesInARow.tree bound)
    (OnesInARow.checkSyntax_tree bound Nat.one_pos) _ (OnesInARow.tree_path bound)
  simp only [List.length_cons, List.length_replicate] at hle
  omega

end ScriptCheck
