import ScriptCheck.Program

/-! # The Shape of Trees

  A display tree is of one plain shape, in which any node could have any
  children. The tree of a program is more regular. Each place in it asks for one
  of four sorts of nodes, and the kind of a node settles what its own children
  are and which sorts they have.

  The rules are said here of display trees alone, kind by kind and child by
  child. That programs are shown by such trees follows from the types of
  expressions and statements.
-/

namespace ScriptCheck

/-! ## Section 1: Sorts of nodes -/

/-- What a place in a tree asks for. -/
inductive NodeSort where
  /-- The root. -/
  | program
  /-- A body. -/
  | block
  /-- An entry in a sequence of statements. -/
  | statement
  /-- A condition, a value, an argument, an element or an operand. -/
  | value
  deriving DecidableEq, Repr

/-- The node has this sort, and so do all nodes below it have the sort that their place asks for. -/
inductive Node.HasSort : Node → NodeSort → Prop
  /-- A program has at least one statement. -/
  | program {statements : List Node} (hne : statements ≠ [])
      (hstatements : ∀ s ∈ statements, HasSort s .statement) :
      HasSort (.mk .program [.sequence (statements.map .node)]) .program
  /-- A body can be empty, since statements that cannot be read are left out. -/
  | block {statements : List Node} (hstatements : ∀ s ∈ statements, HasSort s .statement) :
      HasSort (.mk .block [.sequence (statements.map .node)]) .block
  | assign {target : String} {value : Node} (hvalue : HasSort value .value) :
      HasSort (.mk .assign [.literal target, .node value]) .statement
  | call {name : String} {arguments : List Node}
      (harguments : ∀ a ∈ arguments, HasSort a .value) :
      HasSort (.mk .functionCall [.literal name, .sequence (arguments.map .node)]) .statement
  | print {argument : Node} (hargument : HasSort argument .value) :
      HasSort (.mk .print [.node argument]) .statement
  | returnValue {value : Node} (hvalue : HasSort value .value) :
      HasSort (.mk .returnValue [.node value]) .statement
  | ifThen {condition body : Node} (hcondition : HasSort condition .value)
      (hbody : HasSort body .block) :
      HasSort (.mk .conditional [.node condition, .node body, .absent]) .statement
  | ifElse {condition body otherwise : Node} (hcondition : HasSort condition .value)
      (hbody : HasSort body .block) (hotherwise : HasSort otherwise .block) :
      HasSort (.mk .conditional [.node condition, .node body, .node otherwise]) .statement
  | whileLoop {condition body : Node} (hcondition : HasSort condition .value)
      (hbody : HasSort body .block) :
      HasSort (.mk .whileLoop [.node condition, .node body]) .statement
  | forLoop {name : String} {iterable body : Node} (hiterable : HasSort iterable .value)
      (hbody : HasSort body .block) :
      HasSort (.mk .forLoop [.literal name, .node iterable, .node body]) .statement
  | define {name : String} {parameters : List String} {body : Node}
      (hbody : HasSort body .block) :
      HasSort (.mk .functionDef
        [.literal name, .sequence (parameters.map .literal), .node body]) .statement
  | value {lexeme : String} : HasSort (.mk .value [.literal lexeme]) .value
  | list {elements : List Node} (helements : ∀ e ∈ elements, HasSort e .value) :
      HasSort (.mk .list [.sequence (elements.map .node)]) .value
  | callValue {name : String} {arguments : List Node}
      (harguments : ∀ a ∈ arguments, HasSort a .value) :
      HasSort (.mk .functionCall [.literal name, .sequence (arguments.map .node)]) .value
  /-- Of the operators only ten join operands. -/
  | binary {op : BinaryOperator} {left right : Node} (hleft : HasSort left .value)
      (hright : HasSort right .value) :
      HasSort (.mk .binaryOp [.literal op.symbol, .node left, .node right]) .value

/-! ## Section 2: Trees of programs -/

mutual

theorem Expression.hasSort_toNode (e : Expression) : e.toNode.HasSort .value := by
  cases e with
  | value lexeme => exact .value
  | list elements => exact .list (Expression.hasSort_toNodes elements)
  | call name arguments => exact .callValue (Expression.hasSort_toNodes arguments)
  | binary op left right => exact .binary left.hasSort_toNode right.hasSort_toNode

theorem Expression.hasSort_toNodes (es : List Expression) :
    ∀ n ∈ Expression.toNodes es, n.HasSort .value := by
  cases es with
  | nil => simp [Expression.toNodes]
  | cons e es =>
    rw [Expression.toNodes, List.forall_mem_cons]
    exact ⟨e.hasSort_toNode, Expression.hasSort_toNodes es⟩

end

mutual

theorem Statement.hasSort_toNode (s : Statement) : s.toNode.HasSort .statement := by
  cases s with
  | assign target value => exact .assign value.hasSort_toNode
  | call name arguments => exact .call (Expression.hasSort_toNodes arguments)
  | print argument => exact .print argument.hasSort_toNode
  | returnValue value => exact .returnValue value.hasSort_toNode
  | ifThen condition body =>
    exact .ifThen condition.hasSort_toNode (.block (Statement.hasSort_toNodes body))
  | ifElse condition body otherwise =>
    exact .ifElse condition.hasSort_toNode (.block (Statement.hasSort_toNodes body))
      (.block (Statement.hasSort_toNodes otherwise))
  | whileLoop condition body =>
    exact .whileLoop condition.hasSort_toNode (.block (Statement.hasSort_toNodes body))
  | forLoop name iterable body =>
    exact .forLoop iterable.hasSort_toNode (.block (Statement.hasSort_toNodes body))
  | define name parameters body => exact .define (.block (Statement.hasSort_toNodes body))

theorem Statement.hasSort_toNodes (ss : List Statement) :
    ∀ n ∈ Statement.toNodes ss, n.HasSort .statement := by
  cases ss with
  | nil => simp [Statement.toNodes]
  | cons s ss =>
    rw [Statement.toNodes, List.forall_mem_cons]
    exact ⟨s.hasSort_toNode, Statement.hasSort_toNodes ss⟩

end

/-- A program with statements is shown by their nodes under one root. -/
theorem displayTree?_eq_some_iff {statements : List Statement} {tree : Node} :
    displayTree? statements = some tree ↔
      statements ≠ [] ∧ tree = .program (Statement.toNodes statements) := by
  unfold displayTree?
  cases statements with
  | nil => simp
  | cons s ss => simp [eq_comm]

/-- The tree of a program has the sort of a program. -/
theorem hasSort_of_displayTree? {statements : List Statement} {tree : Node}
    (h : displayTree? statements = some tree) : tree.HasSort .program := by
  obtain ⟨hne, rfl⟩ := displayTree?_eq_some_iff.mp h
  refine .program ?_ (Statement.hasSort_toNodes statements)
  rwa [ne_eq, Statement.toNodes_eq_map, List.map_eq_nil_iff]

/-! ## Section 3: Programs occur at the root only -/

theorem Child.findAllIn_nodes (kind : NodeKind) (ns : List Node) :
    Child.findAllIn kind (ns.map .node) = ns.flatMap (·.findAll kind) := by
  induction ns with
  | nil => rfl
  | cons n ns ih => rw [List.map_cons, Child.findAllIn, ih, Child.findAll, List.flatMap_cons]

theorem Child.findAllIn_literals (kind : NodeKind) (texts : List String) :
    Child.findAllIn kind (texts.map .literal) = [] := by
  induction texts with
  | nil => rfl
  | cons text texts ih => rw [List.map_cons, Child.findAllIn, ih, Child.findAll, List.nil_append]

/-- A search for programs finds the node itself or nothing. -/
theorem Node.HasSort.findAll_program {n : Node} {sort : NodeSort} (h : n.HasSort sort) :
    n.findAll .program = if sort = .program then [n] else [] := by
  -- the search goes into all children, and by induction none of them has a program to give
  induction h with
  | program _ _ ih | block _ ih | call _ ih | list _ ih | callValue _ ih =>
    simp only [reduceCtorEq, if_false] at ih
    simpa [Node.findAll, Child.findAll, Child.findAllIn, Child.findAllIn_nodes] using ih
  | define _ ih => simp_all [Node.findAll, Child.findAll, Child.findAllIn, Child.findAllIn_literals]
  | _ => simp_all [Node.findAll, Child.findAll, Child.findAllIn]

end ScriptCheck
