/-! # Display Trees

  A program is shown, searched and walked as a tree of one plain shape: a node
  has a kind and an ordered list of children, and a child is a node, a literal
  text, a sequence of children, or the place of something that was not written.

  The layout of the children belongs to the kind, and there is one constructor
  for each layout:

  * `PROGRAM`, `BLOCK`: the sequence of statements;
  * `ASSIGN`: name, value; `PRINT`, `RETURN`: value; `VALUE`: literal;
  * `IF`: condition, block, block or nothing; `WHILE`: condition, block;
  * `FOR`: name, value, block;
  * `FUNCTION_DEF`: name, sequence of names, block;
  * `FUNCTION_CALL`: name, sequence of values; `LIST`: sequence of values;
  * `BINARY_OP`: operator, two values.
-/

namespace ScriptCheck

/-! ## Section 1: Kinds -/

inductive NodeKind where
  | program
  | block
  | assign
  | conditional
  | whileLoop
  | forLoop
  | functionDef
  | functionCall
  | print
  | returnValue
  | binaryOp
  | value
  | list
  deriving DecidableEq, Repr, Inhabited

namespace NodeKind

def all : List NodeKind :=
  [.program, .block, .assign, .conditional, .whileLoop, .forLoop, .functionDef, .functionCall,
   .print, .returnValue, .binaryOp, .value, .list]

def tag : NodeKind → String
  | .program => "PROGRAM"
  | .block => "BLOCK"
  | .assign => "ASSIGN"
  | .conditional => "IF"
  | .whileLoop => "WHILE"
  | .forLoop => "FOR"
  | .functionDef => "FUNCTION_DEF"
  | .functionCall => "FUNCTION_CALL"
  | .print => "PRINT"
  | .returnValue => "RETURN"
  | .binaryOp => "BINARY_OP"
  | .value => "VALUE"
  | .list => "LIST"

end NodeKind

/-! ## Section 2: Nodes and children -/

mutual

inductive Node where
  | mk (kind : NodeKind) (children : List Child)

/-- One entry among the children of a node. -/
inductive Child where
  /-- A node below this one. -/
  | node (n : Node)
  /-- A bare text, such as a name or an operator. -/
  | literal (text : String)
  /-- Several entries in one place. -/
  | sequence (items : List Child)
  /-- Something optional that was not written. -/
  | absent

end

namespace Child

def node? : Child → Option Node
  | node n => some n
  | _ => none

def sequence? : Child → Option (List Child)
  | sequence items => some items
  | _ => none

def nodes (ns : List Node) : Child := sequence (ns.map node)

@[simp] theorem nodes_inj {ns ns' : List Node} : nodes ns = nodes ns' ↔ ns = ns' := by
  have hnode : Function.Injective node := fun _ _ => node.inj
  rw [nodes, nodes, sequence.injEq, List.map_inj_right hnode]

/-- Sequences of literals are told apart by their texts. -/
theorem map_literal_inj {texts texts' : List String} :
    texts.map literal = texts'.map literal ↔ texts = texts' :=
  List.map_inj_right fun _ _ => literal.inj

def ofOption : Option Node → Child
  | some n => node n
  | none => absent

end Child

namespace Node

def kind : Node → NodeKind
  | mk kind _ => kind

def children : Node → List Child
  | mk _ children => children

instance : Inhabited Node := ⟨mk .program []⟩

/-! ## Section 3: The layout of each kind -/

def program (statements : List Node) : Node := mk .program [.nodes statements]

def block (statements : List Node) : Node := mk .block [.nodes statements]

def assign (target : String) (value : Node) : Node :=
  mk .assign [.literal target, .node value]

def conditional (condition thenBlock : Node) (elseBlock : Option Node) : Node :=
  mk .conditional [.node condition, .node thenBlock, .ofOption elseBlock]

def whileLoop (condition body : Node) : Node := mk .whileLoop [.node condition, .node body]

def forLoop (name : String) (iterable body : Node) : Node :=
  mk .forLoop [.literal name, .node iterable, .node body]

def functionDef (name : String) (parameters : List String) (body : Node) : Node :=
  mk .functionDef [.literal name, .sequence (parameters.map .literal), .node body]

/-- A call, as a statement or as a value. -/
def functionCall (name : String) (arguments : List Node) : Node :=
  mk .functionCall [.literal name, .nodes arguments]

def print (argument : Node) : Node := mk .print [.node argument]

def returnValue (value : Node) : Node := mk .returnValue [.node value]

def binaryOp (op : String) (left right : Node) : Node :=
  mk .binaryOp [.literal op, .node left, .node right]

/-- A single token that is a value. -/
def value (lexeme : String) : Node := mk .value [.literal lexeme]

def list (elements : List Node) : Node := mk .list [.nodes elements]

/-! ## Section 4: Walking a tree -/

/-- The nodes of the first sequence among the children, such as the statements of a program. -/
def sequenceNodes (n : Node) : List Node :=
  ((n.children.findSome? Child.sequence?).getD []).filterMap Child.node?

end Node

mutual

/-- Every node of a kind, this one included, each before the nodes below it. -/
def Node.findAll (kind : NodeKind) : Node → List Node
  | .mk k children =>
    let below := Child.findAllIn kind children
    if k = kind then .mk k children :: below else below

def Child.findAll (kind : NodeKind) : Child → List Node
  | .node n => n.findAll kind
  | .sequence items => Child.findAllIn kind items
  | .literal _ => []
  | .absent => []

/-- Every node of a kind in some children, from left to right. -/
def Child.findAllIn (kind : NodeKind) : List Child → List Node
  | [] => []
  | c :: cs => c.findAll kind ++ Child.findAllIn kind cs

end

/-- The children that can be entered from a child: those of a node, the items of a sequence. -/
def Child.entries : Child → List Child
  | .node n => n.children
  | .sequence items => items
  | .literal _ => []
  | .absent => []

/-- The child that a path of positions leads to. The first position is among the children of the
    root, so an empty path leads nowhere. -/
def Node.descend? (n : Node) : List Nat → Option Child
  | [] => none
  | i :: path => path.foldlM (fun c j => c.entries[j]?) =<< n.children[i]?

end ScriptCheck
