import ScriptCheck.Program
import ScriptCheck.Token.Vocabulary

/-! # The Grammar

  What the tokens of a program may be, said without the parser: a relation
  between a construct and a list of significant tokens, its *yield*. A construct
  has many yields, since any expression may stand in further parentheses and a
  list may be written in either pair of brackets.

  Operators of different precedence may stand side by side without parentheses.
  An expression therefore has a *top*, the operator that joins its outermost
  operands. A left operand needs parentheses if its top binds less tightly than
  the operator it belongs to, a right operand also if it binds equally.

  A yield has a *nesting*, the depth of the deepest operand or body in it when
  the construct itself has depth 0. Parentheses count, so two yields of one
  construct can differ in it.

  The relation by itself is ambiguous where a body ends. The last section says
  which trees take every statement and every `else` as early as they can.
-/

namespace ScriptCheck

/-! ## Section 1: Terminals -/

namespace Token

def Spells (t : Token) (kind : TokenKind) (text : String) : Prop :=
  t.kind = kind ∧ t.lexeme = text

/-- A token that is an operand by itself. -/
def IsValue (t : Token) : Prop :=
  t.kind = .identifier ∨ t.kind = .number ∨ t.kind = .string

/-- An operator is one of the operators and a delimiter one of the delimiters. -/
def IsListed (t : Token) : Prop :=
  (t.kind = .operator → t.lexeme ∈ operators) ∧
    (t.kind = .delimiter → t.lexeme ∈ delimiters.map String.singleton)

instance (t : Token) : Decidable t.IsListed := inferInstanceAs (Decidable (_ ∧ _))

def AreListed (tokens : List Token) : Prop := ∀ t ∈ tokens, t.IsListed

instance (tokens : List Token) : Decidable (AreListed tokens) :=
  inferInstanceAs (Decidable (∀ t ∈ tokens, t.IsListed))

end Token

/-! ## Section 2: Yields of expressions -/

/-- An operand with this top can stand where operators bind with at least the precedence `least`.
    A single operand can stand anywhere. -/
def BindsAtLeast (least : Nat) (top : Option BinaryOperator) : Prop :=
  ∀ op ∈ top, least ≤ op.precedence

/-- What the grammar of expressions speaks of. -/
inductive ExpressionPhrase where
  /-- An expression with its top. -/
  | expression (top : Option BinaryOperator) (e : Expression)
  /-- Expressions with commas between them, perhaps none. -/
  | items (es : List Expression)

/-- The two tokens enclose the elements of a list. -/
def AreListBrackets (opening closing : Token) : Prop :=
  (opening.Spells .delimiter "[" ∧ closing.Spells .delimiter "]") ∨
    (opening.Spells .delimiter "\x7b" ∧ closing.Spells .delimiter "\x7d")

open ExpressionPhrase in
/-- The tokens are a yield of the phrase with this nesting. Items are one deeper than the call or
    list that they belong to. -/
inductive ExpressionPhrase.Yields : ExpressionPhrase → Nat → List Token → Prop
  /-- A name, a number or a quoted text. -/
  | value {t : Token} (ht : t.IsValue) :
      Yields (expression none (.value t.lexeme)) 0 [t]
  /-- A call. -/
  | call {name opening closing : Token} {es : List Expression} {n : Nat} {ys : List Token}
      (hname : name.kind = .identifier) (hopening : opening.Spells .delimiter "(")
      (harguments : Yields (items es) n ys) (hclosing : closing.Spells .delimiter ")") :
      Yields (expression none (.call name.lexeme es)) n (name :: opening :: (ys ++ [closing]))
  /-- A list in either pair of brackets. -/
  | list {opening closing : Token} {es : List Expression} {n : Nat} {ys : List Token}
      (hbrackets : AreListBrackets opening closing) (helements : Yields (items es) n ys) :
      Yields (expression none (.list es)) n (opening :: (ys ++ [closing]))
  /-- Any expression in parentheses, which are not part of the tree. -/
  | group {opening closing : Token} {top : Option BinaryOperator} {e : Expression} {n : Nat}
      {ys : List Token} (hopening : opening.Spells .delimiter "(")
      (hinner : Yields (expression top e) n ys) (hclosing : closing.Spells .delimiter ")") :
      Yields (expression none e) (n + 1) (opening :: (ys ++ [closing]))
  /-- Two operands with an operator between them. The right one is one deeper. -/
  | binary {op : BinaryOperator} {sign : Token} {topLeft topRight : Option BinaryOperator}
      {left right : Expression} {n m : Nat} {ys zs : List Token}
      (hleft : Yields (expression topLeft left) n ys) (hsign : sign.Spells .operator op.symbol)
      (hright : Yields (expression topRight right) m zs)
      (htopLeft : BindsAtLeast op.precedence topLeft)
      (htopRight : BindsAtLeast (op.precedence + 1) topRight) :
      Yields (expression (some op) (.binary op left right)) (max n (m + 1)) (ys ++ sign :: zs)
  /-- No item. -/
  | noItem : Yields (items []) 0 []
  /-- The last item. -/
  | lastItem {top : Option BinaryOperator} {e : Expression} {n : Nat} {ys : List Token}
      (hitem : Yields (expression top e) n ys) : Yields (items [e]) (n + 1) ys
  /-- An item with a comma and at least one item after it. -/
  | moreItems {top : Option BinaryOperator} {e e' : Expression} {es : List Expression}
      {comma : Token} {n m : Nat} {ys zs : List Token} (hitem : Yields (expression top e) n ys)
      (hcomma : comma.Spells .delimiter ",") (hitems : Yields (items (e' :: es)) m zs) :
      Yields (items (e :: e' :: es)) (max (n + 1) m) (ys ++ comma :: zs)

/-! ## Section 3: Yields of statements -/

/-- The tokens are names with commas between them, perhaps none. -/
inductive IsParameterList : List String → List Token → Prop
  | none : IsParameterList [] []
  | last {name : Token} (hname : name.kind = .identifier) : IsParameterList [name.lexeme] [name]
  | more {name comma : Token} {p : String} {ps : List String} {ys : List Token}
      (hname : name.kind = .identifier) (hcomma : comma.Spells .delimiter ",")
      (hrest : IsParameterList (p :: ps) ys) :
      IsParameterList (name.lexeme :: p :: ps) (name :: comma :: ys)

/-- What the grammar of statements speaks of. -/
inductive StatementPhrase where
  | statement (s : Statement)
  /-- One or more statements in a row. -/
  | statements (ss : List Statement)
  /-- A colon and the statements of a body, which are one deeper. -/
  | body (ss : List Statement)

open StatementPhrase ExpressionPhrase in
/-- The tokens are a yield of the phrase with this nesting. -/
inductive StatementPhrase.Yields : StatementPhrase → Nat → List Token → Prop
  | assign {name sign : Token} {top : Option BinaryOperator} {e : Expression} {n : Nat}
      {ys : List Token} (hname : name.kind = .identifier) (hsign : sign.Spells .operator "=")
      (hvalue : (expression top e).Yields n ys) :
      Yields (statement (.assign name.lexeme e)) n (name :: sign :: ys)
  | call {name opening closing : Token} {es : List Expression} {n : Nat} {ys : List Token}
      (hname : name.kind = .identifier) (hopening : opening.Spells .delimiter "(")
      (harguments : (items es).Yields n ys) (hclosing : closing.Spells .delimiter ")") :
      Yields (statement (.call name.lexeme es)) n (name :: opening :: (ys ++ [closing]))
  /-- The argument is one deeper. -/
  | print {word opening closing : Token} {top : Option BinaryOperator} {e : Expression} {n : Nat}
      {ys : List Token} (hword : word.Spells .keyword "print")
      (hopening : opening.Spells .delimiter "(") (hargument : (expression top e).Yields n ys)
      (hclosing : closing.Spells .delimiter ")") :
      Yields (statement (.print e)) (n + 1) (word :: opening :: (ys ++ [closing]))
  | returnValue {word : Token} {top : Option BinaryOperator} {e : Expression} {n : Nat}
      {ys : List Token} (hword : word.Spells .keyword "return")
      (hvalue : (expression top e).Yields n ys) :
      Yields (statement (.returnValue e)) n (word :: ys)
  | ifThen {word : Token} {top : Option BinaryOperator} {e : Expression} {ss : List Statement}
      {n m : Nat} {ys zs : List Token} (hword : word.Spells .keyword "if")
      (hcondition : (expression top e).Yields n ys) (hbody : Yields (body ss) m zs) :
      Yields (statement (.ifThen e ss)) (max n m) (word :: (ys ++ zs))
  | ifElse {word other : Token} {top : Option BinaryOperator} {e : Expression}
      {ss ss' : List Statement} {n m m' : Nat} {ys zs zs' : List Token}
      (hword : word.Spells .keyword "if") (hcondition : (expression top e).Yields n ys)
      (hbody : Yields (body ss) m zs) (hother : other.Spells .keyword "else")
      (hotherwise : Yields (body ss') m' zs') :
      Yields (statement (.ifElse e ss ss')) (max n (max m m'))
        (word :: (ys ++ (zs ++ other :: zs')))
  | whileLoop {word : Token} {top : Option BinaryOperator} {e : Expression} {ss : List Statement}
      {n m : Nat} {ys zs : List Token} (hword : word.Spells .keyword "while")
      (hcondition : (expression top e).Yields n ys) (hbody : Yields (body ss) m zs) :
      Yields (statement (.whileLoop e ss)) (max n m) (word :: (ys ++ zs))
  | forLoop {word name inWord : Token} {top : Option BinaryOperator} {e : Expression}
      {ss : List Statement} {n m : Nat} {ys zs : List Token} (hword : word.Spells .keyword "for")
      (hname : name.kind = .identifier) (hin : inWord.Spells .keyword "in")
      (hiterable : (expression top e).Yields n ys) (hbody : Yields (body ss) m zs) :
      Yields (statement (.forLoop name.lexeme e ss)) (max n m)
        (word :: name :: inWord :: (ys ++ zs))
  | define {word name opening closing : Token} {ps : List String} {ss : List Statement} {n : Nat}
      {ys zs : List Token} (hword : word.Spells .keyword "def") (hname : name.kind = .identifier)
      (hopening : opening.Spells .delimiter "(") (hparameters : IsParameterList ps ys)
      (hclosing : closing.Spells .delimiter ")") (hbody : Yields (body ss) n zs) :
      Yields (statement (.define name.lexeme ps ss)) n
        (word :: name :: opening :: (ys ++ closing :: zs))
  | body {colon : Token} {ss : List Statement} {n : Nat} {ys : List Token}
      (hcolon : colon.Spells .delimiter ":") (hstatements : Yields (statements ss) n ys) :
      Yields (body ss) (n + 1) (colon :: ys)
  | last {s : Statement} {n : Nat} {ys : List Token} (hstatement : Yields (statement s) n ys) :
      Yields (statements [s]) n ys
  | more {s : Statement} {ss : List Statement} {n m : Nat} {ys zs : List Token}
      (hstatement : Yields (statement s) n ys) (hstatements : Yields (statements ss) m zs) :
      Yields (statements (s :: ss)) (max n m) (ys ++ zs)

/-! ## Section 4: Greedy trees

  A body ends only where no statement starts, and an `else` belongs to the
  nearest `if` that can have it. A tree that respects this is greedy: nothing
  that follows one of its bodies could have been part of that body.
-/

namespace Statement

/-- A statement without a body. -/
def isSimple : Statement → Bool
  | .assign .. | .call .. | .print .. | .returnValue .. => true
  | .ifThen .. | .ifElse .. | .whileLoop .. | .forLoop .. | .define .. => false

mutual

/-- An `else` that followed the statement would become part of it: the statement ends in an `if`
    without `else`. -/
def takesElse : Statement → Bool
  | .ifThen .. => true
  | .ifElse _ _ otherwise => lastTakesElse otherwise
  | .whileLoop _ body | .forLoop _ _ body | .define _ _ body => lastTakesElse body
  | .assign .. | .call .. | .print .. | .returnValue .. => false

/-- An `else` that followed the statements would become part of the last one. -/
def lastTakesElse : List Statement → Bool
  | [] => false
  | s :: ss => if ss.isEmpty then takesElse s else lastTakesElse ss

end

mutual

/-- The bodies of the statement are greedy, and the first of two does not take the `else` between
    them. -/
def isGreedy : Statement → Bool
  | .ifThen _ body | .whileLoop _ body | .forLoop _ _ body | .define _ _ body => areGreedy body
  | .ifElse _ body otherwise => !lastTakesElse body && areGreedy body && areGreedy otherwise
  | .assign .. | .call .. | .print .. | .returnValue .. => true

/-- There is a statement, every one is greedy, and only the last has a body. -/
def areGreedy : List Statement → Bool
  | [] => false
  | s :: ss => isGreedy s && (ss.isEmpty || (s.isSimple && areGreedy ss))

end

end Statement

end ScriptCheck
