import ScriptCheck.Tree

/-! # Programs

  The typed form of a program: expressions, statements, and programs as lists of
  statements. What the display tree leaves open is closed here: conditions are
  expressions, bodies are lists of statements, and an operator is one of ten.

  Each type has its display form, a node of the layout that belongs to its kind,
  and no two programs have the same one.
-/

namespace ScriptCheck

/-! ## Section 1: Operators between operands -/

inductive BinaryOperator where
  | equal
  | notEqual
  | less
  | greater
  | atMost
  | atLeast
  | plus
  | minus
  | times
  | divide
  deriving DecidableEq, Repr

namespace BinaryOperator

def all : List BinaryOperator :=
  [.equal, .notEqual, .less, .greater, .atMost, .atLeast, .plus, .minus, .times, .divide]

def symbol : BinaryOperator → String
  | .equal => "=="
  | .notEqual => "!="
  | .less => "<"
  | .greater => ">"
  | .atMost => "<="
  | .atLeast => ">="
  | .plus => "+"
  | .minus => "-"
  | .times => "*"
  | .divide => "/"

/-- The operator that is written so, if it joins operands at all. -/
def ofSymbol? (text : String) : Option BinaryOperator := all.find? fun op => op.symbol == text

/-- How tightly the operator binds: comparisons least, then sums, then products. All associate to
    the left. -/
def precedence : BinaryOperator → Nat
  | .equal | .notEqual | .less | .greater | .atMost | .atLeast => 1
  | .plus | .minus => 2
  | .times | .divide => 3

@[simp] theorem ofSymbol?_symbol (op : BinaryOperator) : ofSymbol? op.symbol = some op := by
  cases op <;> decide

@[simp] theorem symbol_inj {op op' : BinaryOperator} : op.symbol = op'.symbol ↔ op = op' := by
  constructor
  · intro h
    apply Option.some.inj
    rw [← ofSymbol?_symbol, h, ofSymbol?_symbol]
  · rintro rfl
    rfl

/-- An operator is found only under its own spelling. -/
theorem symbol_of_ofSymbol? {text : String} {op : BinaryOperator} (h : ofSymbol? text = some op) :
    op.symbol = text := by
  have := List.find?_some h
  simpa using this

end BinaryOperator

/-! ## Section 2: Expressions -/

/-- An operand or operands joined by operators. -/
inductive Expression where
  /-- A name, a number or a quoted text, as it is written. -/
  | value (lexeme : String)
  /-- A list in square or curly brackets. -/
  | list (elements : List Expression)
  | call (name : String) (arguments : List Expression)
  | binary (op : BinaryOperator) (left right : Expression)
  deriving Inhabited

mutual

def Expression.toNode : Expression → Node
  | .value lexeme => .value lexeme
  | .list elements => .list (Expression.toNodes elements)
  | .call name arguments => .functionCall name (Expression.toNodes arguments)
  | .binary op left right => .binaryOp op.symbol left.toNode right.toNode

def Expression.toNodes : List Expression → List Node
  | [] => []
  | e :: es => e.toNode :: Expression.toNodes es

end

/-! ## Section 3: Statements -/

/-- A statement. Bodies are never written empty, but a body whose statements were all unreadable is
    empty. -/
inductive Statement where
  | assign (target : String) (value : Expression)
  | call (name : String) (arguments : List Expression)
  | print (argument : Expression)
  | returnValue (value : Expression)
  | ifThen (condition : Expression) (body : List Statement)
  | ifElse (condition : Expression) (body otherwise : List Statement)
  | whileLoop (condition : Expression) (body : List Statement)
  | forLoop (name : String) (iterable : Expression) (body : List Statement)
  | define (name : String) (parameters : List String) (body : List Statement)
  deriving Inhabited

mutual

def Statement.toNode : Statement → Node
  | .assign target value => .assign target value.toNode
  | .call name arguments => .functionCall name (Expression.toNodes arguments)
  | .print argument => .print argument.toNode
  | .returnValue value => .returnValue value.toNode
  | .ifThen condition body =>
    .conditional condition.toNode (.block (Statement.toNodes body)) none
  | .ifElse condition body otherwise =>
    .conditional condition.toNode (.block (Statement.toNodes body))
      (some (.block (Statement.toNodes otherwise)))
  | .whileLoop condition body => .whileLoop condition.toNode (.block (Statement.toNodes body))
  | .forLoop name iterable body =>
    .forLoop name iterable.toNode (.block (Statement.toNodes body))
  | .define name parameters body =>
    .functionDef name parameters (.block (Statement.toNodes body))

def Statement.toNodes : List Statement → List Node
  | [] => []
  | s :: ss => s.toNode :: Statement.toNodes ss

end

theorem Expression.toNodes_eq_map (es : List Expression) :
    Expression.toNodes es = es.map Expression.toNode := by
  induction es with
  | nil => simp [Expression.toNodes]
  | cons e es ih => simp [Expression.toNodes, ih]

theorem Statement.toNodes_eq_map (ss : List Statement) :
    Statement.toNodes ss = ss.map Statement.toNode := by
  induction ss with
  | nil => simp [Statement.toNodes]
  | cons s ss ih => simp [Statement.toNodes, ih]

/-- The display tree of a program; a program without a statement has none. -/
def displayTree? (statements : List Statement) : Option Node :=
  if statements.isEmpty then none else some (.program (Statement.toNodes statements))

/-! ## Section 4: Programs from their trees

  The kind of a node tells the constructor that it displays. Only conditionals with
  and without an `else` share one, and these differ in the last child.
-/

mutual

theorem Expression.eq_of_toNode_eq : (e e' : Expression) → e.toNode = e'.toNode → e = e'
  | .value lexeme, e', h => by
    cases e' with
    | value lexeme' => simpa [Expression.toNode, Node.value] using h
    | _ => cases h
  | .list elements, e', h => by
    cases e' with
    | list elements' =>
      have hnodes : Expression.toNodes elements = Expression.toNodes elements' := by
        simpa [Expression.toNode, Node.list] using h
      rw [Expression.eq_of_toNodes_eq elements elements' hnodes]
    | _ => cases h
  | .call name arguments, e', h => by
    cases e' with
    | call name' arguments' =>
      obtain ⟨rfl, hnodes⟩ :
          name = name' ∧ Expression.toNodes arguments = Expression.toNodes arguments' := by
        simpa [Expression.toNode, Node.functionCall] using h
      rw [Expression.eq_of_toNodes_eq arguments arguments' hnodes]
    | _ => cases h
  | .binary op left right, e', h => by
    cases e' with
    | binary op' left' right' =>
      obtain ⟨rfl, hleft, hright⟩ :
          op = op' ∧ left.toNode = left'.toNode ∧ right.toNode = right'.toNode := by
        simpa [Expression.toNode, Node.binaryOp] using h
      rw [Expression.eq_of_toNode_eq left left' hleft,
        Expression.eq_of_toNode_eq right right' hright]
    | _ => cases h

theorem Expression.eq_of_toNodes_eq :
    (es es' : List Expression) → Expression.toNodes es = Expression.toNodes es' → es = es'
  | [], es', h => by
    cases es' with
    | nil => rfl
    | cons e' es' => cases h
  | e :: es, es', h => by
    cases es' with
    | nil => cases h
    | cons e' es' =>
      obtain ⟨he, hes⟩ :
          e.toNode = e'.toNode ∧ Expression.toNodes es = Expression.toNodes es' := by
        simpa [Expression.toNodes] using h
      rw [Expression.eq_of_toNode_eq e e' he, Expression.eq_of_toNodes_eq es es' hes]

end

/-- No two expressions have the same display form. -/
@[simp] theorem Expression.toNode_inj {e e' : Expression} : e.toNode = e'.toNode ↔ e = e' :=
  ⟨Expression.eq_of_toNode_eq e e', congrArg _⟩

@[simp] theorem Expression.toNodes_inj {es es' : List Expression} :
    Expression.toNodes es = Expression.toNodes es' ↔ es = es' :=
  ⟨Expression.eq_of_toNodes_eq es es', congrArg _⟩

mutual

theorem Statement.eq_of_toNode_eq : (s s' : Statement) → s.toNode = s'.toNode → s = s'
  | .assign target value, s', h => by
    cases s' with
    | assign target' value' => simpa [Statement.toNode, Node.assign] using h
    | _ => cases h
  | .call name arguments, s', h => by
    cases s' with
    | call name' arguments' => simpa [Statement.toNode, Node.functionCall] using h
    | _ => cases h
  | .print argument, s', h => by
    cases s' with
    | print argument' => simpa [Statement.toNode, Node.print] using h
    | _ => cases h
  | .returnValue value, s', h => by
    cases s' with
    | returnValue value' => simpa [Statement.toNode, Node.returnValue] using h
    | _ => cases h
  | .ifThen condition body, s', h => by
    cases s' with
    | ifThen condition' body' =>
      obtain ⟨rfl, hbody⟩ :
          condition = condition' ∧ Statement.toNodes body = Statement.toNodes body' := by
        simpa [Statement.toNode, Node.conditional, Node.block, Child.ofOption] using h
      rw [Statement.eq_of_toNodes_eq body body' hbody]
    -- the two conditionals have the same kind, and the last child tells them apart
    | ifElse => simp [Statement.toNode, Node.conditional, Child.ofOption] at h
    | _ => cases h
  | .ifElse condition body otherwise, s', h => by
    cases s' with
    | ifElse condition' body' otherwise' =>
      obtain ⟨rfl, hbody, hotherwise⟩ :
          condition = condition' ∧ Statement.toNodes body = Statement.toNodes body' ∧
            Statement.toNodes otherwise = Statement.toNodes otherwise' := by
        simpa [Statement.toNode, Node.conditional, Node.block, Child.ofOption] using h
      rw [Statement.eq_of_toNodes_eq body body' hbody,
        Statement.eq_of_toNodes_eq otherwise otherwise' hotherwise]
    | ifThen => simp [Statement.toNode, Node.conditional, Child.ofOption] at h
    | _ => cases h
  | .whileLoop condition body, s', h => by
    cases s' with
    | whileLoop condition' body' =>
      obtain ⟨rfl, hbody⟩ :
          condition = condition' ∧ Statement.toNodes body = Statement.toNodes body' := by
        simpa [Statement.toNode, Node.whileLoop, Node.block] using h
      rw [Statement.eq_of_toNodes_eq body body' hbody]
    | _ => cases h
  | .forLoop name iterable body, s', h => by
    cases s' with
    | forLoop name' iterable' body' =>
      obtain ⟨rfl, rfl, hbody⟩ :
          name = name' ∧ iterable = iterable' ∧
            Statement.toNodes body = Statement.toNodes body' := by
        simpa [Statement.toNode, Node.forLoop, Node.block] using h
      rw [Statement.eq_of_toNodes_eq body body' hbody]
    | _ => cases h
  | .define name parameters body, s', h => by
    cases s' with
    | define name' parameters' body' =>
      obtain ⟨rfl, rfl, hbody⟩ :
          name = name' ∧ parameters = parameters' ∧
            Statement.toNodes body = Statement.toNodes body' := by
        simpa [Statement.toNode, Node.functionDef, Node.block, Child.map_literal_inj] using h
      rw [Statement.eq_of_toNodes_eq body body' hbody]
    | _ => cases h

theorem Statement.eq_of_toNodes_eq :
    (ss ss' : List Statement) → Statement.toNodes ss = Statement.toNodes ss' → ss = ss'
  | [], ss', h => by
    cases ss' with
    | nil => rfl
    | cons s' ss' => cases h
  | s :: ss, ss', h => by
    cases ss' with
    | nil => cases h
    | cons s' ss' =>
      obtain ⟨hs, hss⟩ : s.toNode = s'.toNode ∧ Statement.toNodes ss = Statement.toNodes ss' := by
        simpa [Statement.toNodes] using h
      rw [Statement.eq_of_toNode_eq s s' hs, Statement.eq_of_toNodes_eq ss ss' hss]

end

/-- No two statements have the same display form. -/
@[simp] theorem Statement.toNode_inj {s s' : Statement} : s.toNode = s'.toNode ↔ s = s' :=
  ⟨Statement.eq_of_toNode_eq s s', congrArg _⟩

@[simp] theorem Statement.toNodes_inj {ss ss' : List Statement} :
    Statement.toNodes ss = Statement.toNodes ss' ↔ ss = ss' :=
  ⟨Statement.eq_of_toNodes_eq ss ss', congrArg _⟩

/-- A display tree shows one program only. -/
theorem displayTree?_inj {ss ss' : List Statement} :
    displayTree? ss = displayTree? ss' ↔ ss = ss' := by
  unfold displayTree?
  cases ss <;> cases ss' <;> simp [Node.program]

end ScriptCheck
