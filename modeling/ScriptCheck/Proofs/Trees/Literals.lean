import Mathlib.Data.List.Forall2
import ScriptCheck.Proofs.Readings
import ScriptCheck.Proofs.Terminals
import ScriptCheck.Proofs.Trees.Shape
import ScriptCheck.Token.Lexer

/-! # The Literals of a Tree come from its Tokens

  A tree is no more than its shape and its literals. The literals, read in the
  order in which they were written, are the lexemes of some of the significant
  tokens, in their order and each used at most once. This holds after errors too,
  when statements have been given up half read and reading has gone on elsewhere.

  The invariant is about what a reading consumes: the literals of what it gives
  are *drawn* from the tokens between the place where it starts and the place
  where it stops. What is drawn from two such stretches in a row is drawn from
  both together, and tokens in front of a stretch can be passed over.
-/

namespace ScriptCheck

/-! ## Section 1: Literals in the order of the source -/

inductive LiteralRole where
  /-- The name of a variable, a function or a parameter. -/
  | name
  | operator
  /-- A value that is a single token. -/
  | value
  deriving DecidableEq, Repr

/-- What the literals directly under a node of this kind are. -/
def NodeKind.literalRole : NodeKind → LiteralRole
  | .binaryOp => .operator
  | .value => .value
  | _ => .name

/-- Bring what belongs to the children of a node into the order of the source. Only an operator is
    written elsewhere than it stands in the tree, between its operands. -/
def NodeKind.inSourceOrder {α : Type} : NodeKind → List α → List α
  | .binaryOp, [op, left, right] => [left, op, right]
  | _, entries => entries

structure Literal where
  role : LiteralRole
  text : String
  deriving DecidableEq, Repr

mutual

/-- The literals of a tree in the order of the source. -/
def Node.literals : Node → List Literal
  | .mk kind children =>
    (kind.inSourceOrder (Child.literalsOfEach kind.literalRole children)).flatten

/-- The literals of a child, which have the role if they stand directly under its node. -/
def Child.literals (role : LiteralRole) : Child → List Literal
  | .node n => n.literals
  | .literal text => [⟨role, text⟩]
  | .sequence items => (Child.literalsOfEach role items).flatten
  | .absent => []

def Child.literalsOfEach (role : LiteralRole) : List Child → List (List Literal)
  | [] => []
  | c :: cs => c.literals role :: Child.literalsOfEach role cs

end

/-! ## Section 2: Literals of each kind of node -/

namespace Child

theorem literalsOfEach_eq_map (role : LiteralRole) (cs : List Child) :
    literalsOfEach role cs = cs.map (literals role) := by
  induction cs with
  | nil => rfl
  | cons c cs ih => rw [literalsOfEach, ih, List.map_cons]

@[simp] theorem literals_node (role : LiteralRole) (n : Node) :
    (Child.node n).literals role = n.literals := by
  rw [literals]

@[simp] theorem literals_literal (role : LiteralRole) (text : String) :
    (Child.literal text).literals role = [⟨role, text⟩] := by
  rw [literals]

@[simp] theorem literals_absent (role : LiteralRole) : Child.absent.literals role = [] := by
  rw [literals]

@[simp] theorem literals_nodes (role : LiteralRole) (ns : List Node) :
    (Child.nodes ns).literals role = ns.flatMap Node.literals := by
  simp [nodes, literals, literalsOfEach_eq_map, List.flatMap, Function.comp_def]

@[simp] theorem literals_names (role : LiteralRole) (texts : List String) :
    (Child.sequence (texts.map .literal)).literals role = texts.map fun text => ⟨role, text⟩ := by
  rw [literals, literalsOfEach_eq_map]
  induction texts with
  | nil => rfl
  | cons text texts ih =>
    rw [List.map_cons, List.map_cons, List.flatten_cons, ih, literals_literal, List.map_cons]
    rfl

end Child

namespace Node

theorem literals_mk (kind : NodeKind) (children : List Child) :
    (mk kind children).literals =
      (kind.inSourceOrder (children.map (Child.literals kind.literalRole))).flatten := by
  rw [literals, Child.literalsOfEach_eq_map]

/-- Apart from operators, literals are written in the order in which they stand in the tree. -/
theorem literals_mk_of_ne {kind : NodeKind} (h : kind ≠ .binaryOp) (children : List Child) :
    (mk kind children).literals = (children.map (Child.literals kind.literalRole)).flatten := by
  rw [literals_mk]
  unfold NodeKind.inSourceOrder
  split
  · exact absurd rfl h
  · rfl

section kinds
variable (name op lexeme : String) (n left right body condition : Node) (ns : List Node)

@[simp] theorem literals_program : (program ns).literals = ns.flatMap literals := by
  simp [program, literals_mk_of_ne]

@[simp] theorem literals_block : (block ns).literals = ns.flatMap literals := by
  simp [block, literals_mk_of_ne]

@[simp] theorem literals_assign : (assign name n).literals = ⟨.name, name⟩ :: n.literals := by
  simp [assign, literals_mk_of_ne, NodeKind.literalRole]

@[simp] theorem literals_conditional_none :
    (conditional condition body none).literals = condition.literals ++ body.literals := by
  simp [conditional, literals_mk_of_ne, Child.ofOption]

@[simp] theorem literals_conditional_some (otherwise : Node) :
    (conditional condition body (some otherwise)).literals =
      condition.literals ++ (body.literals ++ otherwise.literals) := by
  simp [conditional, literals_mk_of_ne, Child.ofOption]

@[simp] theorem literals_whileLoop :
    (whileLoop condition body).literals = condition.literals ++ body.literals := by
  simp [whileLoop, literals_mk_of_ne]

@[simp] theorem literals_forLoop :
    (forLoop name n body).literals = ⟨.name, name⟩ :: (n.literals ++ body.literals) := by
  simp [forLoop, literals_mk_of_ne, NodeKind.literalRole]

@[simp] theorem literals_functionDef (parameters : List String) :
    (functionDef name parameters body).literals =
      ⟨.name, name⟩ :: (parameters.map (fun text => ⟨.name, text⟩) ++ body.literals) := by
  simp [functionDef, literals_mk_of_ne, NodeKind.literalRole]

@[simp] theorem literals_functionCall :
    (functionCall name ns).literals = ⟨.name, name⟩ :: ns.flatMap literals := by
  simp [functionCall, literals_mk_of_ne, NodeKind.literalRole]

@[simp] theorem literals_print : (print n).literals = n.literals := by
  simp [print, literals_mk_of_ne]

@[simp] theorem literals_returnValue : (returnValue n).literals = n.literals := by
  simp [returnValue, literals_mk_of_ne]

/-- The operator is written between its operands. -/
@[simp] theorem literals_binaryOp :
    (binaryOp op left right).literals = left.literals ++ ⟨.operator, op⟩ :: right.literals := by
  simp [binaryOp, literals_mk, NodeKind.inSourceOrder, NodeKind.literalRole]

@[simp] theorem literals_value : (value lexeme).literals = [⟨.value, lexeme⟩] := by
  simp [value, literals_mk_of_ne, NodeKind.literalRole]

@[simp] theorem literals_list : (list ns).literals = ns.flatMap literals := by
  simp [list, literals_mk_of_ne]

end kinds

end Node

/-! ## Section 3: Literals drawn from tokens -/

/-- The token is where the literal was written. -/
def Literal.ComesFrom (l : Literal) (t : Token) : Prop :=
  t.lexeme = l.text ∧
    match l.role with
    | .name => t.kind = .identifier
    | .operator => t.kind = .operator
    | .value => t.IsValue

/-- The literals come from some of the significant tokens of `input` in front of `rest`, in their
    order and each from a token of its own. -/
def DrawnFrom (ls : List Literal) (input rest : List Token) : Prop :=
  ∃ used, List.Forall₂ Literal.ComesFrom ls used ∧
    (used ++ significantTokens rest).Sublist (significantTokens input)

namespace DrawnFrom

variable {l : Literal} {ls ls' : List Literal} {input later mid rest : List Token} {t : Token}

theorem nil (hs : rest <:+ input) : DrawnFrom [] input rest :=
  ⟨[], .nil, (hs.filter _).sublist⟩

/-- From a later place on there is no more to draw from. -/
theorem of_suffix (h : DrawnFrom ls later rest) (hs : later <:+ input) :
    DrawnFrom ls input rest := by
  obtain ⟨used, hused, hsub⟩ := h
  exact ⟨used, hused, hsub.trans (hs.filter _).sublist⟩

/-- What is drawn from two stretches in a row is drawn from both together. -/
theorem append (h : DrawnFrom ls input mid) (h' : DrawnFrom ls' mid rest) :
    DrawnFrom (ls ++ ls') input rest := by
  obtain ⟨used, hused, hsub⟩ := h
  obtain ⟨used', hused', hsub'⟩ := h'
  refine ⟨used ++ used', List.rel_append hused hused', ?_⟩
  rw [List.append_assoc]
  exact ((List.Sublist.refl used).append hsub').trans hsub

/-- What is drawn is drawn also in front of a later place. -/
theorem before (h : DrawnFrom ls input mid) (hs : rest <:+ mid) : DrawnFrom ls input rest := by
  have hdrawn := h.append (.nil hs)
  rwa [List.append_nil] at hdrawn

/-- A literal is drawn from the next significant token, and the others from what follows it. -/
theorem cons (h : DrawnFrom ls later rest) (hu : upcoming input = t :: later)
    (hl : l.ComesFrom t) : DrawnFrom (l :: ls) input rest := by
  obtain ⟨used, hused, hsub⟩ := h
  refine ⟨t :: used, .cons hl hused, ?_⟩
  rw [significantTokens_of_upcoming_cons hu, List.cons_append]
  exact hsub.cons_cons t

theorem single (hu : upcoming input = t :: rest) (hl : l.ComesFrom t) :
    DrawnFrom [l] input rest :=
  (nil List.suffix_rfl).cons hu hl

end DrawnFrom

/-! ## Section 4: Expressions -/

theorem Token.comesFrom_value {t : Token} (ht : t.IsValue) :
    Literal.ComesFrom ⟨.value, t.lexeme⟩ t := ⟨rfl, ht⟩

theorem Token.comesFrom_name {t : Token} (ht : t.kind = .identifier) :
    Literal.ComesFrom ⟨.name, t.lexeme⟩ t := ⟨rfl, ht⟩

theorem Token.comesFrom_operator {t : Token} {op : BinaryOperator}
    (ht : t.binaryOperator? = some op) : Literal.ComesFrom ⟨.operator, op.symbol⟩ t := by
  obtain ⟨hkind, hlexeme⟩ := Token.binaryOperator?_eq_some_iff.mp ht
  exact ⟨hlexeme, hkind⟩

/-- A value that is a single token is drawn from that token. -/
theorem readValue_draws {input rest : List Token} {t : Token} (hu : upcoming input = t :: rest)
    (ht : t.IsValue) :
    (readValue t rest).Gives fun e rest' => DrawnFrom e.toNode.literals input rest' := by
  constructor
  intro e he
  obtain rfl := Except.ok.inj he
  exact .single hu (Token.comesFrom_value ht)

mutual

/-- Behind the left operand its operators and their right operands are drawn from the tokens. -/
theorem readOperations_draws (limit depth least : Nat) (left : Expression) (input : List Token) :
    (readOperations limit depth least left input).Gives fun e rest =>
      ∃ ls, e.toNode.literals = left.toNode.literals ++ ls ∧ DrawnFrom ls input rest := by
  have hdone : (Reading.done left input).Gives fun e rest =>
      ∃ ls, e.toNode.literals = left.toNode.literals ++ ls ∧ DrawnFrom ls input rest :=
    Reading.gives_done ⟨[], (List.append_nil _).symm, .nil List.suffix_rfl⟩
  cases hu : upcoming input with
  | nil =>
    rw [readOperations_of_nil hu]
    exact hdone
  | cons t rest =>
    have := length_lt_of_upcoming hu
    rw [readOperations_of_cons hu]
    split
    · exact hdone
    · next op hop =>
      split
      · exact hdone
      · apply Reading.Gives.seenFrom
        apply (readExpression_draws limit (depth + 1) (op.precedence + 1) rest).andThen
        intro right rest' hs hright
        have := hs.length_le
        apply (readOperations_draws limit depth least (.binary op left right) rest').imp
        intro e rest'' ⟨ls, hls, hdrawn⟩
        -- the left operand was written, and drawn, in front of all this
        refine ⟨⟨.operator, op.symbol⟩ :: (right.toNode.literals ++ ls), ?_, ?_⟩
        · rw [hls, Expression.toNode, Node.literals_binaryOp]
          simp
        · exact (hright.append hdrawn).cons hu (Token.comesFrom_operator hop)
termination_by 5 * input.length

theorem readOperand_draws (limit depth : Nat) (input : List Token) :
    (readOperand limit depth input).Gives fun e rest =>
      DrawnFrom e.toNode.literals input rest := by
  -- the name of a call is drawn in front of its arguments; delimiters give no literals and are
  -- passed over
  by_cases hd : depth ≤ limit
  · cases hu : upcoming input with
    | nil =>
      rw [readOperand_of_nil hd hu]
      exact Reading.gives_fail _
    | cons t rest =>
      have := length_lt_of_upcoming hu
      have hsuffix := suffix_of_upcoming hu
      rw [readOperand_of_cons hd hu]
      cases hhead : t.operandHead? with
      | none => exact Reading.gives_fail _
      | some head =>
        have ht := Token.operandHead?_eq_some_iff.mp hhead
        apply Reading.Gives.seenFrom
        cases head with
        | literal => exact readValue_draws hu (.inr ht)
        | name =>
          simp only
          split
          · apply (gives_demand ..).andThen
            intro opening rest₁ hs ⟨hu₁, _⟩
            have := hs.length_le
            apply (readItems_draws limit (depth + 1) ")" rest₁).map
            intro es rest₂ hes
            rw [Expression.toNode, Node.literals_functionCall]
            exact (hes.of_suffix hs).cons hu (Token.comesFrom_name ht)
          · exact readValue_draws hu (.inl ht)
        | group =>
          apply (readExpression_draws limit (depth + 1) 0 rest).andThen
          intro inner rest₁ _ hinner
          apply (gives_demand ..).map
          intro closing rest₂ ⟨hu₂, _⟩
          -- both parentheses are left out, one in front and one behind
          exact (hinner.before (suffix_of_upcoming hu₂)).of_suffix hsuffix
        | list close =>
          apply (readItems_draws limit (depth + 1) close rest).map
          intro es rest₁ hes
          rw [Expression.toNode, Node.literals_list]
          exact hes.of_suffix hsuffix
  · have hlimit : limit < depth := by omega
    rw [readOperand, if_pos hlimit]
    exact Reading.gives_fail _
termination_by 5 * input.length + 1

theorem readExpression_draws (limit depth least : Nat) (input : List Token) :
    (readExpression limit depth least input).Gives fun e rest =>
      DrawnFrom e.toNode.literals input rest := by
  rw [readExpression]
  apply (readOperand_draws limit depth input).andThen
  intro left rest hs hleft
  have := hs.length_le
  apply (readOperations_draws limit depth least left rest).imp
  intro e rest' ⟨ls, hls, hdrawn⟩
  rw [hls]
  exact hleft.append hdrawn
termination_by 5 * input.length + 2

theorem readSeparated_draws (limit depth : Nat) (input : List Token) :
    (readSeparated limit depth input).Gives fun es rest =>
      DrawnFrom ((Expression.toNodes es).flatMap Node.literals) input rest := by
  rw [readSeparated_eq]
  apply (readExpression_draws limit depth 0 input).andThen
  intro e rest hs he
  have := hs.length_le
  apply gives_furtherItems
  · simpa [Expression.toNodes] using he
  · intro comma rest₁ hu
    have := length_lt_of_upcoming hu
    apply (readSeparated_draws limit depth rest₁).imp
    intro es rest₂ hes
    rw [Expression.toNodes, List.flatMap_cons]
    exact he.append (hes.of_suffix (suffix_of_upcoming hu))
termination_by 5 * input.length + 3

theorem readItems_draws (limit depth : Nat) (close : String) (input : List Token) :
    (readItems limit depth close input).Gives fun es rest =>
      DrawnFrom ((Expression.toNodes es).flatMap Node.literals) input rest := by
  unfold readItems
  split
  · apply (gives_demand ..).map
    intro closing rest ⟨hu, _⟩
    exact .nil (suffix_of_upcoming hu)
  · apply (readSeparated_draws limit depth input).andThen
    intro es rest _ hes
    apply (gives_demand ..).map
    intro closing rest' ⟨hu, _⟩
    exact hes.before (suffix_of_upcoming hu)
termination_by 5 * input.length + 4

end

/-! ## Section 5: Statements -/

section simple
variable (limit depth : Nat) {input rest : List Token} {t : Token}

/-- The further parameters that are read are drawn from what is read. -/
theorem moreParameters_draws (input : List Token) :
    DrawnFrom ((moreParameters input).1.map fun text => ⟨.name, text⟩) input
      (moreParameters input).2 := by
  fun_induction moreParameters input with
  | case1 | case2 | case4 | case5 => exact .nil List.suffix_rfl
  | case3 input comma rest hu _ _ name rest' hu' _ hname names left hmore ih =>
    rw [hmore] at ih
    exact (ih.cons hu' (Token.comesFrom_name hname)).of_suffix (suffix_of_upcoming hu)

theorem readParameters_draws (input : List Token) :
    (readParameters input).Gives fun names rest =>
      DrawnFrom (names.map fun text => ⟨.name, text⟩) input rest := by
  have hnone : (Reading.done [] input).Gives fun names rest =>
      DrawnFrom (names.map fun text => ⟨.name, text⟩) input rest :=
    Reading.gives_done (.nil List.suffix_rfl)
  cases hu : upcoming input with
  | nil =>
    rw [readParameters_of_nil hu]
    exact hnone
  | cons name rest =>
    rw [readParameters_of_cons hu]
    split
    · next hname =>
      -- a first name, and the further ones from what follows it
      constructor
      intro names hnames
      obtain rfl := Except.ok.inj hnames
      exact (moreParameters_draws rest).cons hu (Token.comesFrom_name hname)
    · exact hnone

theorem readNamed_draws (hu : upcoming input = t :: rest) (ht : t.kind = .identifier) :
    (readNamed limit depth t.lexeme rest).Gives fun s rest' =>
      DrawnFrom s.toNode.literals input rest' := by
  unfold readNamed
  split
  · apply (gives_demand ..).andThen
    intro equals rest₁ hs _
    apply (readExpression_draws limit depth 0 rest₁).map
    intro value rest₂ hvalue
    rw [Statement.toNode, Node.literals_assign]
    exact (hvalue.of_suffix hs).cons hu (Token.comesFrom_name ht)
  · split
    · apply (gives_demand ..).andThen
      intro opening rest₁ hs _
      apply (readItems_draws limit (depth + 1) ")" rest₁).map
      intro arguments rest₂ harguments
      rw [Statement.toNode, Node.literals_functionCall]
      exact (harguments.of_suffix hs).cons hu (Token.comesFrom_name ht)
    · exact Reading.gives_fail _

theorem readPrint_draws (input : List Token) :
    (readPrint limit depth input).Gives fun s rest => DrawnFrom s.toNode.literals input rest := by
  apply (gives_demand ..).andThen
  intro opening rest₁ hs _
  apply (readExpression_draws limit (depth + 1) 0 rest₁).andThen
  intro argument rest₂ _ hargument
  apply (gives_demand ..).map
  intro closing rest₃ ⟨hu, _⟩
  rw [Statement.toNode, Node.literals_print]
  exact (hargument.before (suffix_of_upcoming hu)).of_suffix hs

end simple

mutual

/-- Statements are drawn from the tokens also where some of them are given up: what was drawn
    for those is left out. -/
theorem readStatements_draws (limit depth : Nat) (scope : Scope) (input : List Token) :
    (readStatements limit depth scope input).toReading.Gives fun ss rest =>
      DrawnFrom ((Statement.toNodes ss).flatMap Node.literals) input rest := by
  -- what was drawn for a statement that is given up is passed over with its tokens
  apply gives_readStatements
  · exact .nil List.suffix_rfl
  · intro t rest head hu ht
    have := length_lt_of_upcoming hu
    exact readStatement_draws limit depth hu ht
  · intro s left _ hstatement
    apply (readStatements_draws limit depth scope left).imp
    intro ss rest hstatements
    rw [Statement.toNodes, List.flatMap_cons]
    exact hstatement.append hstatements
  · intro left _ hs
    exact (readStatements_draws limit depth scope left).imp fun ss rest hstatements =>
      hstatements.of_suffix hs
termination_by 4 * input.length

theorem readBlock_draws (limit depth : Nat) (input : List Token) :
    (readBlock limit depth input).Gives fun ss rest =>
      DrawnFrom ((Statement.toNodes ss).flatMap Node.literals) input rest := by
  apply gives_readBlock
  intro _
  exact readStatements_draws limit depth .body input
termination_by 4 * input.length + 1

theorem readBody_draws (limit depth : Nat) (input : List Token) :
    (readBody limit depth input).Gives fun ss rest =>
      DrawnFrom ((Statement.toNodes ss).flatMap Node.literals) input rest := by
  rw [readBody]
  apply (gives_demand ..).andThen
  intro colon rest hs _
  have := hs.length_le
  apply (readBlock_draws limit (depth + 1) rest).imp
  intro ss rest' hstatements
  exact hstatements.of_suffix hs
termination_by 4 * input.length + 2

/-- A statement is drawn from its first token and what follows it. -/
theorem readStatement_draws (limit depth : Nat) {head : StatementHead} {input rest : List Token}
    {t : Token} (hu : upcoming input = t :: rest) (ht : t.statementHead? = some head) :
    (readStatement limit depth head t.lexeme rest).Gives fun s rest' =>
      DrawnFrom s.toNode.literals input rest' := by
  have hsuffix := suffix_of_upcoming hu
  -- parts are read one behind the other, and their literals follow each other in the same order;
  -- tokens between them that give no literal, words and marks, are left out in front of what comes
  -- next
  cases head with
  | name =>
    rw [readStatement]
    exact readNamed_draws limit depth hu (Token.statementHead?_eq_some_iff.mp ht)
  | printWord =>
    rw [readStatement]
    exact (readPrint_draws limit depth rest).imp fun s rest' hs => hs.of_suffix hsuffix
  | returnWord =>
    rw [readStatement]
    apply (readExpression_draws limit depth 0 rest).map
    intro value rest₁ hvalue
    rw [Statement.toNode, Node.literals_returnValue]
    exact hvalue.of_suffix hsuffix
  | ifWord =>
    rw [readStatement_if]
    apply (readExpression_draws limit depth 0 rest).andThen
    intro condition rest₁ hs₁ hcondition
    have := hs₁.length_le
    apply (readBody_draws limit depth rest₁).andThen
    intro body rest₂ hs₂ hbody
    have := hs₂.length_le
    -- condition and first body are the same with and without an `else`
    have hfirst := (hcondition.append hbody).of_suffix hsuffix
    apply gives_readElse
    · rwa [Statement.toNode, Node.literals_conditional_none, Node.literals_block]
    · intro word rest₃ hu₂
      have := length_lt_of_upcoming hu₂
      apply (readBody_draws limit depth rest₃).imp
      intro otherwise rest₄ hotherwise
      rw [Statement.toNode, Node.literals_conditional_some, Node.literals_block,
        Node.literals_block, ← List.append_assoc]
      exact hfirst.append (hotherwise.of_suffix (suffix_of_upcoming hu₂))
  | whileWord =>
    rw [readStatement]
    apply (readExpression_draws limit depth 0 rest).andThen
    intro condition rest₁ hs₁ hcondition
    have := hs₁.length_le
    apply (readBody_draws limit depth rest₁).map
    intro body rest₂ hbody
    rw [Statement.toNode, Node.literals_whileLoop, Node.literals_block]
    exact (hcondition.append hbody).of_suffix hsuffix
  | forWord =>
    rw [readStatement]
    apply (gives_demand ..).andThen
    intro name rest₁ hs₁ ⟨hu₁, hname⟩
    apply (gives_demand ..).andThen
    intro word rest₂ hs₂ _
    -- the name of the variable stands in front of what is iterated over; `in` gives no literal
    apply (readExpression_draws limit depth 0 rest₂).andThen
    intro iterable rest₃ hs₃ hiterable
    have := (hs₃.trans (hs₂.trans hs₁)).length_le
    apply (readBody_draws limit depth rest₃).map
    intro body rest₄ hbody
    rw [Statement.toNode, Node.literals_forLoop, Node.literals_block]
    have hdrawn := ((hiterable.append hbody).of_suffix hs₂).cons hu₁
      (Token.comesFrom_name (by simpa using hname))
    exact hdrawn.of_suffix hsuffix
  | defWord =>
    rw [readStatement]
    apply (gives_demand ..).andThen
    intro name rest₁ hs₁ ⟨hu₁, hname⟩
    apply (gives_demand ..).andThen
    intro opening rest₂ hs₂ _
    -- name, parameters and body, with the parentheses and the colon left out
    apply (readParameters_draws rest₂).andThen
    intro parameters rest₃ hs₃ hparameters
    apply (gives_demand ..).andThen
    intro closing rest₄ hs₄ _
    have := (hs₄.trans (hs₃.trans (hs₂.trans hs₁))).length_le
    apply (readBody_draws limit depth rest₄).map
    intro body rest₅ hbody
    rw [Statement.toNode, Node.literals_functionDef, Node.literals_block]
    have hdrawn := ((hparameters.append (hbody.of_suffix hs₄)).of_suffix hs₂).cons hu₁
      (Token.comesFrom_name (by simpa using hname))
    exact hdrawn.of_suffix hsuffix
termination_by 4 * rest.length + 3

end

/-! ## Section 6: Trees -/

/-- Whatever tree a check shows, it is the tree of a program, and its literals in the order of the
    source come from some of the significant tokens, in their order and each from a token of its
    own. Nothing is asked of the tokens; with errors in them the tree is of what could be read. -/
theorem checkSyntax_tree_faithful (limit : Nat) (tokens : List Token) (tree : Node)
    (h : (checkSyntax limit tokens).tree = some tree) :
    tree.HasSort .program ∧ tree.findAll .program = [tree] ∧
      ∃ used, used.Sublist (significantTokens tokens) ∧
        List.Forall₂ Literal.ComesFrom tree.literals used := by
  have hsort : tree.HasSort .program := hasSort_of_displayTree? h
  obtain ⟨hne, rfl⟩ := displayTree?_eq_some_iff.mp h
  refine ⟨hsort, by simpa using hsort.findAll_program, ?_⟩
  -- what is left at the end of the program is not used
  obtain ⟨used, hused, hsub⟩ := (readStatements_draws limit 0 .program tokens).of_ok _ rfl
  refine ⟨used, (List.sublist_append_left used _).trans hsub, ?_⟩
  rwa [Node.literals_program, readProgram_statements]

/-- The theorem at a definition in whose body the first statement is given up. -/
theorem checkSyntax_tree_faithful_partial :
    let tokens := Lexer.tokenize {} "def f(a, b): x = 1 + * 2\nprint(a - 3)\n) z\ny = [b]"
    ∃ tree, (checkSyntax 8 tokens).tree = some tree ∧
      (checkSyntax 8 tokens).diagnostics.length = 2 ∧
      tree.literals.map (·.text) = ["f", "a", "b", "a", "-", "3", "y", "b"] ∧
      tree.HasSort .program ∧ tree.findAll .program = [tree] ∧
        ∃ used, used.Sublist (significantTokens tokens) ∧
          List.Forall₂ Literal.ComesFrom tree.literals used := by
  intro tokens
  have htexts : (checkSyntax 8 tokens).tree.map (·.literals.map (·.text)) =
      some ["f", "a", "b", "a", "-", "3", "y", "b"] := by
    decide +kernel
  obtain ⟨tree, htree, htexts⟩ := Option.map_eq_some_iff.mp htexts
  exact ⟨tree, htree, by decide +kernel, htexts, checkSyntax_tree_faithful 8 tokens tree htree⟩

end ScriptCheck
