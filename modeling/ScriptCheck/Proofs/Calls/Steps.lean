import Mathlib.Data.List.Chain
import Mathlib.Logic.Relation
import ScriptCheck.Proofs.Readings

/-! # Calls of the Readers

  The readers call each other. A *call* is a reader with what it is given, and one
  call makes another when the reader comes to the place where the other one is
  called. What the readers do on the way to that place is a condition: a token
  comes next, or another reader has given something.

  A call passes on what is left of its input, and what it passes on never weighs
  more: every call that is made weighs less. So no chain of calls goes on for
  ever, and what holds of a call whenever it holds of the calls it makes holds of
  all of them.

  The depth of a call grows only behind a significant token that was consumed.
  Therefore it never exceeds their number.
-/

namespace ScriptCheck

/-- The reading gives `a` and leaves `rest`, whatever problems were met on the way. -/
structure Reading.Reads {α : Type} {input : List Token} (r : Reading α input) (a : α)
    (rest : List Token) : Prop where
  outcome : r.outcome = .ok a
  rest_eq : r.rest = rest

theorem Reading.Reads.suffix {α : Type} {input rest : List Token} {r : Reading α input} {a : α}
    (h : r.Reads a rest) : rest <:+ input :=
  h.rest_eq ▸ r.suffix

/-- A demanded token that is read was the next one. -/
theorem upcoming_of_reads_demand {wanted : Token → Bool} {what : Expectation}
    {input rest : List Token} {t : Token} (h : (demand wanted what input).Reads t rest) :
    upcoming input = t :: rest ∧ wanted t = true :=
  h.rest_eq ▸ (gives_demand wanted what input).of_ok t h.outcome

/-- Reading goes on behind the beginning of what was read. -/
theorem resume_suffix_of_rest_eq {α : Type} {input rest : List Token} {r : Reading α input}
    (h : r.rest = rest) : resume (upcoming rest) rest <:+ input :=
  (resume_suffix _ rest).trans (h ▸ r.suffix)

/-! ## Section 1: Calls -/

inductive Call where
  | operations (depth least : Nat) (left : Expression) (input : List Token)
  | operand (depth : Nat) (input : List Token)
  | expression (depth least : Nat) (input : List Token)
  | separated (depth : Nat) (input : List Token)
  | items (depth : Nat) (close : String) (input : List Token)
  | named (depth : Nat) (name : String) (input : List Token)
  | printed (depth : Nat) (input : List Token)
  | statements (depth : Nat) (scope : Scope) (input : List Token)
  | block (depth : Nat) (input : List Token)
  | body (depth : Nat) (input : List Token)
  | statement (depth : Nat) (head : StatementHead) (lexeme : String) (input : List Token)

namespace Call

def depth : Call → Nat
  | operations depth _ _ _ | operand depth _ | expression depth _ _ | separated depth _
  | items depth _ _ | named depth _ _ | printed depth _ | statements depth _ _ | block depth _
  | body depth _ | statement depth _ _ _ => depth

def input : Call → List Token
  | operations _ _ _ input | operand _ input | expression _ _ input | separated _ input
  | items _ _ input | named _ _ input | printed _ input | statements _ _ input | block _ input
  | body _ input | statement _ _ _ input => input

def Result : Call → Type
  | operations .. | operand .. | expression .. => Expression
  | separated .. | items .. => List Expression
  | statements .. | block .. | body .. => List Statement
  | named .. | printed .. | statement .. => Statement

/-- What comes of the call under a limit on nesting. -/
def read (limit : Nat) : (c : Call) → Reading c.Result c.input
  | operations depth least left input => readOperations limit depth least left input
  | operand depth input => readOperand limit depth input
  | expression depth least input => readExpression limit depth least input
  | separated depth input => readSeparated limit depth input
  | items depth close input => readItems limit depth close input
  | named depth name input => readNamed limit depth name input
  | printed depth input => readPrint limit depth input
  | statements depth scope input => (readStatements limit depth scope input).toReading
  | block depth input => readBlock limit depth input
  | body depth input => readBody limit depth input
  | statement depth head lexeme input => readStatement limit depth head lexeme input

def ofProgram (tokens : List Token) : Call := statements 0 .program tokens

/-! ## Section 2: Calls that calls make -/

/-- Under the limit the first call makes the second one. -/
inductive Makes (limit : Nat) : Call → Call → Prop
  -- operands and the operators between them
  | rightOperand {depth least : Nat} {left : Expression} {op : BinaryOperator} {t : Token}
      {input rest : List Token} (hu : upcoming input = t :: rest)
      (hop : t.binaryOperator? = some op) (hleast : ¬ op.precedence < least) :
      Makes limit (operations depth least left input)
        (expression (depth + 1) (op.precedence + 1) rest)
  | furtherOperations {depth least : Nat} {left right : Expression} {op : BinaryOperator}
      {t : Token} {input rest rest' : List Token} (hu : upcoming input = t :: rest)
      (hop : t.binaryOperator? = some op) (hleast : ¬ op.precedence < least)
      (hright : (readExpression limit (depth + 1) (op.precedence + 1) rest).Reads right rest') :
      Makes limit (operations depth least left input)
        (operations depth least (.binary op left right) rest')
  | arguments {depth : Nat} {t opening : Token} {input rest rest' : List Token}
      (hd : depth ≤ limit) (hu : upcoming input = t :: rest) (ht : t.operandHead? = some .name)
      (hopening : (demandPunctuation "(" rest).Reads opening rest') :
      Makes limit (operand depth input) (items (depth + 1) ")" rest')
  | group {depth : Nat} {t : Token} {input rest : List Token} (hd : depth ≤ limit)
      (hu : upcoming input = t :: rest) (ht : t.operandHead? = some .group) :
      Makes limit (operand depth input) (expression (depth + 1) 0 rest)
  | elements {depth : Nat} {t : Token} {close : String} {input rest : List Token}
      (hd : depth ≤ limit) (hu : upcoming input = t :: rest)
      (ht : t.operandHead? = some (.list close)) :
      Makes limit (operand depth input) (items (depth + 1) close rest)
  | leftOperand {depth least : Nat} {input : List Token} :
      Makes limit (expression depth least input) (operand depth input)
  | operations {depth least : Nat} {left : Expression} {input rest : List Token}
      (hleft : (readOperand limit depth input).Reads left rest) :
      Makes limit (expression depth least input) (operations depth least left rest)
  -- items between brackets
  | item {depth : Nat} {input : List Token} :
      Makes limit (separated depth input) (expression depth 0 input)
  | furtherItems {depth : Nat} {e : Expression} {comma : Token} {input rest rest' : List Token}
      (hitem : (readExpression limit depth 0 input).Reads e rest)
      (hu : upcoming rest = comma :: rest') (hcomma : comma.isPunctuation "," = true) :
      Makes limit (separated depth input) (separated depth rest')
  | separated {depth : Nat} {close : String} {input : List Token}
      (hclose : nextIs close input = false) :
      Makes limit (items depth close input) (separated depth input)
  -- simple statements, after their first token
  | assigned {depth : Nat} {name : String} {sign : Token} {input rest : List Token}
      (hsign : (demandPunctuation "=" input).Reads sign rest) :
      Makes limit (named depth name input) (expression depth 0 rest)
  | namedArguments {depth : Nat} {name : String} {opening : Token} {input rest : List Token}
      (hopening : (demandPunctuation "(" input).Reads opening rest) :
      Makes limit (named depth name input) (items (depth + 1) ")" rest)
  | printedArgument {depth : Nat} {opening : Token} {input rest : List Token}
      (hopening : (demandPunctuation "(" input).Reads opening rest) :
      Makes limit (printed depth input) (expression (depth + 1) 0 rest)
  -- lists of statements: a list goes on behind a statement, or where reading is resumed
  | firstStatement {depth : Nat} {scope : Scope} {t : Token} {head : StatementHead}
      {input rest : List Token} (hu : upcoming input = t :: rest)
      (ht : t.statementHead? = some head) :
      Makes limit (statements depth scope input) (statement depth head t.lexeme rest)
  | behindStatement {depth : Nat} {scope : Scope} {t : Token} {head : StatementHead}
      {s : Statement} {input rest rest' : List Token} (hu : upcoming input = t :: rest)
      (ht : t.statementHead? = some head)
      (hfirst : (readStatement limit depth head t.lexeme rest).Reads s rest') :
      Makes limit (statements depth scope input) (statements depth scope rest')
  | behindObstacle {depth : Nat} {scope : Scope} {t : Token} {head : StatementHead}
      {obstacle : Obstacle} {input rest rest' : List Token} (hu : upcoming input = t :: rest)
      (ht : t.statementHead? = some head)
      (hfirst : (readStatement limit depth head t.lexeme rest).outcome = .error obstacle)
      (hrest : (readStatement limit depth head t.lexeme rest).rest = rest') :
      Makes limit (statements depth scope input)
        (statements depth scope (resume (upcoming rest') rest'))
  | behindStray {depth : Nat} {t : Token} {input rest : List Token}
      (hu : upcoming input = t :: rest) (ht : t.statementHead? = none) :
      Makes limit (statements depth .program input)
        (statements depth .program (resume (t :: rest) input.tail))
  -- bodies
  | blockStatements {depth : Nat} {t : Token} {input rest : List Token} (hd : depth ≤ limit)
      (hu : upcoming input = t :: rest) (ht : t.startsStatement = true) :
      Makes limit (block depth input) (statements depth .body input)
  | block {depth : Nat} {colon : Token} {input rest : List Token}
      (hcolon : (demandPunctuation ":" input).Reads colon rest) :
      Makes limit (body depth input) (block (depth + 1) rest)
  -- statements, by the token with which they start
  | named {depth : Nat} {lexeme : String} {input : List Token} :
      Makes limit (statement depth .name lexeme input) (named depth lexeme input)
  | printed {depth : Nat} {lexeme : String} {input : List Token} :
      Makes limit (statement depth .printWord lexeme input) (printed depth input)
  | returned {depth : Nat} {lexeme : String} {input : List Token} :
      Makes limit (statement depth .returnWord lexeme input) (expression depth 0 input)
  | condition {depth : Nat} {head : StatementHead} {lexeme : String} {input : List Token}
      (hhead : head = .ifWord ∨ head = .whileWord) :
      Makes limit (statement depth head lexeme input) (expression depth 0 input)
  | conditionalBody {depth : Nat} {head : StatementHead} {lexeme : String} {e : Expression}
      {input rest : List Token} (hhead : head = .ifWord ∨ head = .whileWord)
      (hcondition : (readExpression limit depth 0 input).Reads e rest) :
      Makes limit (statement depth head lexeme input) (body depth rest)
  | otherwise {depth : Nat} {lexeme : String} {e : Expression} {ss : List Statement} {word : Token}
      {input rest rest' rest'' : List Token}
      (hcondition : (readExpression limit depth 0 input).Reads e rest)
      (hbody : (readBody limit depth rest).Reads ss rest') (hu : upcoming rest' = word :: rest'')
      (hword : word.isKeyword "else" = true) :
      Makes limit (statement depth .ifWord lexeme input) (body depth rest'')
  | iterable {depth : Nat} {lexeme : String} {name word : Token} {input rest rest' : List Token}
      (hname : (demandIdentifier input).Reads name rest)
      (hword : (demandKeyword "in" rest).Reads word rest') :
      Makes limit (statement depth .forWord lexeme input) (expression depth 0 rest')
  | repeatedBody {depth : Nat} {lexeme : String} {name word : Token} {e : Expression}
      {input rest rest' rest'' : List Token} (hname : (demandIdentifier input).Reads name rest)
      (hword : (demandKeyword "in" rest).Reads word rest')
      (hiterable : (readExpression limit depth 0 rest').Reads e rest'') :
      Makes limit (statement depth .forWord lexeme input) (body depth rest'')
  | definedBody {depth : Nat} {lexeme : String} {name opening closing : Token} {ps : List String}
      {input rest rest' rest'' rest''' : List Token}
      (hname : (demandIdentifier input).Reads name rest)
      (hopening : (demandPunctuation "(" rest).Reads opening rest')
      (hparameters : (readParameters rest').Reads ps rest'')
      (hclosing : (demandPunctuation ")" rest'').Reads closing rest''') :
      Makes limit (statement depth .defWord lexeme input) (body depth rest''')

/-- Calls lead from the first call to the second one. -/
def Reaches (limit : Nat) : Call → Call → Prop := Relation.ReflTransGen (Makes limit)

/-! ## Section 3: What a single call can do -/

/-- A reader is above the readers that it calls without consuming a token. -/
def rank : Call → Nat
  | operations .. => 0
  | operand .. => 1
  | expression .. => 2
  | separated .. => 3
  | items .. => 4
  | named .. | printed .. | statements .. => 5
  | block .. => 6
  | body .. => 7
  | statement .. => 8

theorem rank_le (c : Call) : c.rank ≤ 8 := by cases c <;> simp [rank]

/-- Tokens weigh more than all ranks together. -/
def weight (c : Call) : Nat := 9 * c.input.length + c.rank

/-- The second call is given an end piece of what the first one was given: either at the same depth,
    or one deeper, and then behind the next significant token. -/
inductive Descends (c c' : Call) : Prop
  | beside (hdepth : c'.depth = c.depth) (hs : c'.input <:+ c.input)
      (hlater : c'.input.length < c.input.length ∨ c'.rank < c.rank)
  | deeper {t : Token} {rest : List Token} (hdepth : c'.depth = c.depth + 1)
      (hu : upcoming c.input = t :: rest) (hs : c'.input <:+ rest)

section steps
variable {limit : Nat} {c c' : Call}

/-- At the same depth, behind the next significant token. -/
theorem Descends.behind {t : Token} {rest : List Token} (hdepth : c'.depth = c.depth)
    (hu : upcoming c.input = t :: rest) (hs : c'.input <:+ rest) : c.Descends c' :=
  .beside hdepth (hs.trans (suffix_of_upcoming hu))
    (.inl (Nat.lt_of_le_of_lt hs.length_le (length_lt_of_upcoming hu)))

theorem Makes.descends (h : Makes limit c c') : c.Descends c' := by
  -- either the call opens a level behind a token, or a token was consumed, or the rank goes down
  cases h with
  | rightOperand hu => exact .deeper rfl hu List.suffix_rfl
  | furtherOperations hu _ _ hright => exact .behind rfl hu hright.suffix
  | arguments _ hu _ hopening => exact .deeper rfl hu hopening.suffix
  | group _ hu => exact .deeper rfl hu List.suffix_rfl
  | elements _ hu => exact .deeper rfl hu List.suffix_rfl
  | leftOperand => exact .beside rfl List.suffix_rfl (.inr (by simp [rank]))
  | operations hleft => exact .beside rfl hleft.suffix (.inr (by simp [rank]))
  | item => exact .beside rfl List.suffix_rfl (.inr (by simp [rank]))
  | furtherItems hitem hu =>
    -- how much the item consumed is not known, but the comma behind it was consumed
    have hs := hitem.suffix
    have hlt := Nat.lt_of_lt_of_le (length_lt_of_upcoming hu) hs.length_le
    exact .beside rfl ((suffix_of_upcoming hu).trans hs) (.inl hlt)
  | separated => exact .beside rfl List.suffix_rfl (.inr (by simp [rank]))
  | assigned hsign => exact .beside rfl hsign.suffix (.inr (by simp [rank]))
  | namedArguments hopening =>
    exact .deeper rfl (upcoming_of_reads_demand hopening).1 List.suffix_rfl
  | printedArgument hopening =>
    exact .deeper rfl (upcoming_of_reads_demand hopening).1 List.suffix_rfl
  | firstStatement hu => exact .behind rfl hu List.suffix_rfl
  | behindStatement hu _ hfirst => exact .behind rfl hu hfirst.suffix
  | behindObstacle hu _ _ hrest => exact .behind rfl hu (resume_suffix_of_rest_eq hrest)
  | @behindStray _ t input rest hu =>
    -- the search may stop where it starts, so it starts behind the first token
    have hpos := List.length_pos_iff.mpr (ne_nil_of_upcoming hu)
    have hlt := resume_tail_length_lt (t :: rest) hpos
    exact .beside rfl (resume_tail_suffix (t :: rest) input) (.inl hlt)
  | blockStatements => exact .beside rfl List.suffix_rfl (.inr (by simp [rank]))
  | block hcolon => exact .deeper rfl (upcoming_of_reads_demand hcolon).1 List.suffix_rfl
  | named | printed | returned | condition =>
    exact .beside rfl List.suffix_rfl (.inr (by simp [rank]))
  | conditionalBody _ hcondition => exact .beside rfl hcondition.suffix (.inr (by simp [rank]))
  | otherwise hcondition hbody hu =>
    have hs := (suffix_of_upcoming hu).trans (hbody.suffix.trans hcondition.suffix)
    exact .beside rfl hs (.inr (by simp [rank]))
  | iterable hname hword =>
    have hs := hword.suffix.trans hname.suffix
    exact .beside rfl hs (.inr (by simp [rank]))
  | repeatedBody hname hword hiterable =>
    have hs := hiterable.suffix.trans (hword.suffix.trans hname.suffix)
    exact .beside rfl hs (.inr (by simp [rank]))
  | definedBody hname hopening hparameters hclosing =>
    have hs := hclosing.suffix.trans
      (hparameters.suffix.trans (hopening.suffix.trans hname.suffix))
    exact .beside rfl hs (.inr (by simp [rank]))

theorem Descends.suffix (h : c.Descends c') : c'.input <:+ c.input := by
  cases h with
  | beside _ hs => exact hs
  | deeper _ hu hs => exact hs.trans (suffix_of_upcoming hu)

theorem Descends.weight_lt (h : c.Descends c') : c'.weight < c.weight := by
  have hrank := c'.rank_le
  have hle := h.suffix.length_le
  unfold weight
  cases h with
  -- ranks are below nine: one token less outweighs any rank
  | beside _ _ hlater => omega
  | deeper _ hu hs =>
    have hlt := Nat.lt_of_le_of_lt hs.length_le (length_lt_of_upcoming hu)
    omega

/-- What a call is given and the depth at which it is made together never grow. -/
theorem Descends.depth_add_le (h : c.Descends c') :
    c'.depth + (significantTokens c'.input).length ≤
      c.depth + (significantTokens c.input).length := by
  cases h with
  | beside hdepth hs =>
    have hle := significantTokens_length_le hs
    omega
  | deeper hdepth hu hs =>
    have hle := significantTokens_length_le hs
    rw [significantTokens_of_upcoming_cons hu, List.length_cons]
    omega

end steps

/-! ## Section 4: What chains of calls can do -/

section chains
variable {limit : Nat} {c c' : Call}

/-- What holds of a call whenever it holds of the calls that it makes holds of every call. -/
theorem induction (limit : Nat) {P : Call → Prop}
    (h : ∀ c, (∀ c', Makes limit c c' → P c') → P c) (c : Call) : P c := by
  -- along the weight, which every call that is made lowers
  induction hw : c.weight using Nat.strongRecOn generalizing c with
  | ind w ih =>
    apply h
    intro c' hmakes
    have hlt := hmakes.descends.weight_lt
    exact ih c'.weight (hw ▸ hlt) c' rfl

/-- Every call in a chain weighs less than the one before it, so chains end. -/
theorem length_le_weight {calls : List Call} (h : List.IsChain (Makes limit) (c :: calls)) :
    calls.length ≤ c.weight := by
  induction calls generalizing c with
  | nil => exact Nat.zero_le _
  | cons c' calls ih =>
    obtain ⟨hmakes, hchain⟩ := List.isChain_cons_cons.mp h
    have hlt := hmakes.descends.weight_lt
    exact Nat.lt_of_le_of_lt (ih hchain) hlt

theorem Reaches.suffix (h : Reaches limit c c') : c'.input <:+ c.input := by
  induction h with
  | refl => exact List.suffix_rfl
  | tail _ hmakes ih => exact hmakes.descends.suffix.trans ih

theorem Reaches.depth_add_le (h : Reaches limit c c') :
    c'.depth + (significantTokens c'.input).length ≤
      c.depth + (significantTokens c.input).length := by
  induction h with
  | refl => exact Nat.le_refl _
  | tail _ hmakes ih => exact Nat.le_trans hmakes.descends.depth_add_le ih

/-- Of a program no more levels are open than significant tokens were consumed. -/
theorem Reaches.exists_consumed {tokens : List Token} (h : Reaches limit (ofProgram tokens) c) :
    ∃ consumed, tokens = consumed ++ c.input ∧ c.depth ≤ (significantTokens consumed).length := by
  obtain ⟨consumed, hconsumed⟩ := h.suffix
  have hle := h.depth_add_le
  refine ⟨consumed, hconsumed.symm, ?_⟩
  have hzero : (ofProgram tokens).depth = 0 := rfl
  -- the significant tokens that are no longer in the input are the consumed ones
  have hlength := congrArg (fun ts => (significantTokens ts).length) hconsumed
  simp only [significantTokens_append, List.length_append] at hlength
  omega

end chains

end Call

end ScriptCheck
