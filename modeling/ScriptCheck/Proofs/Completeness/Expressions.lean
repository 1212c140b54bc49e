import ScriptCheck.Proofs.Completeness.Guarded
import ScriptCheck.Proofs.Following

/-! # Yields of Expressions are Read Back

  A yield of an expression is read as that expression if it is not nested too
  deeply, whatever its precedences and parentheses.

  The left operands of an expression are read by the turns of one loop, not by
  readings of their own. So the statement about an expression is about a reading
  that goes on: once the tokens of the expression are read, what the loop makes
  of the tokens behind them is what the whole reading makes of them. For the
  right operand of an operator the loop stops at once, since no operator that
  binds tightly enough follows.
-/

namespace ScriptCheck

open ExpressionPhrase

/-! ## Section 1: Ends of expressions -/

def NoneMalformed (ys : List Token) : Prop := ∀ t ∈ ys, t.isMalformedNumber = false

instance (ys : List Token) : Decidable (NoneMalformed ys) :=
  inferInstanceAs (Decidable (∀ t ∈ ys, t.isMalformedNumber = false))

@[simp] theorem noneMalformed_cons_iff {t : Token} {ys : List Token} :
    NoneMalformed (t :: ys) ↔ t.isMalformedNumber = false ∧ NoneMalformed ys :=
  List.forall_mem_cons

@[simp] theorem noneMalformed_append_iff {ys zs : List Token} :
    NoneMalformed (ys ++ zs) ↔ NoneMalformed ys ∧ NoneMalformed zs :=
  List.forall_mem_append

section ends
variable {top : Option BinaryOperator} {t : Token} {text : String} {ys : List Token}

/-- A delimiter is no operator. -/
theorem stopsBefore_delimiter {least : Nat} (ht : t.Spells .delimiter text) :
    StopsBefore least (t :: ys) := by
  intro t' ht' op hop
  obtain rfl : t = t' := by simpa using ht'
  have hkind := (Token.binaryOperator?_eq_some_iff.mp hop).1
  rw [ht.1] at hkind
  cases hkind

/-- A delimiter other than an opening parenthesis ends every expression. -/
theorem endsExpression_delimiter (ht : t.Spells .delimiter text) (htext : text ≠ "(") :
    EndsExpression top (t :: ys) where
  noCall t' ht' := by
    obtain rfl : t = t' := by simpa using ht'
    simp [Token.isPunctuation, ht.2, htext]
  noTighter _ _ := stopsBefore_delimiter ht

/-- An operator ends the expressions that can be its left operand. -/
theorem endsExpression_operator {op : BinaryOperator} (ht : t.Spells .operator op.symbol)
    (htop : BindsAtLeast op.precedence top) : EndsExpression top (t :: ys) where
  noCall t' ht' := by
    obtain rfl : t = t' := by simpa using ht'
    rw [Token.isPunctuation, ht.2]
    cases op <;> simp [BinaryOperator.symbol]
  noTighter op' hop' t' ht' op'' hop'' := by
    obtain rfl : t = t' := by simpa using ht'
    obtain rfl : op = op'' := by
      have h := Token.binaryOperator?_eq_some_iff.mpr ht
      exact Option.some.inj (h.symm.trans hop'')
    have := htop op' hop'
    omega

/-- What ends a whole operation ends its right operand. -/
theorem EndsExpression.right {op : BinaryOperator} (h : EndsExpression (some op) ys)
    (htop : BindsAtLeast (op.precedence + 1) top) : EndsExpression top ys where
  noCall := h.noCall
  noTighter op' hop' := by
    have := htop op' hop'
    exact (h.noTighter op rfl).mono (by omega)

end ends

/-! ## Section 2: First tokens -/

/-- An expression, or at least one. -/
def ExpressionPhrase.HasOperand : ExpressionPhrase → Prop
  | expression _ _ => True
  | items es => es ≠ []

/-- What has an operand begins with a token that starts operands. -/
theorem ExpressionPhrase.Yields.exists_operandHead {p : ExpressionPhrase} {n : Nat}
    {ys : List Token} (h : p.Yields n ys) (hp : p.HasOperand) :
    ∃ t zs head, ys = t :: zs ∧ t.operandHead? = some head := by
  induction h with
  | value ht =>
    rcases ht with ht | ht
    · exact ⟨_, _, .name, rfl, Token.operandHead?_eq_some_iff.mpr ht⟩
    · exact ⟨_, _, .literal, rfl, Token.operandHead?_eq_some_iff.mpr ht⟩
  | call hname => exact ⟨_, _, .name, rfl, Token.operandHead?_eq_some_iff.mpr hname⟩
  | list hbrackets =>
    rcases hbrackets with ⟨hopening, _⟩ | ⟨hopening, _⟩
    · exact ⟨_, _, .list "]", rfl, Token.operandHead?_eq_some_iff.mpr (.inl ⟨hopening, rfl⟩)⟩
    · exact ⟨_, _, .list "\x7d", rfl, Token.operandHead?_eq_some_iff.mpr (.inr ⟨hopening, rfl⟩)⟩
  | group hopening => exact ⟨_, _, .group, rfl, Token.operandHead?_eq_some_iff.mpr hopening⟩
  -- a longer phrase begins with its first part, which has an operand too
  | binary _ _ _ _ _ ih | moreItems _ _ _ ih =>
    obtain ⟨t, zs, head, rfl, ht⟩ := ih trivial
    exact ⟨t, _, head, rfl, ht⟩
  | noItem => exact absurd rfl hp
  | lastItem _ ih => exact ih trivial

/-- The spellings of the tokens that close items. -/
def closingMarks : List String := [")", "]", "\x7d"]

/-- No operand starts with a token that closes items. -/
theorem Token.isPunctuation_of_operandHead {t : Token} {head : OperandHead} {close : String}
    (ht : t.operandHead? = some head) (hclose : close ∈ closingMarks) :
    t.isPunctuation close = false := by
  have hhead := operandHead?_eq_some_iff.mp ht
  simp only [closingMarks, List.mem_cons, List.not_mem_nil, or_false] at hclose
  cases head with
  | literal => rcases hhead with h | h <;> simp [isPunctuation, h]
  | name => simp [isPunctuation, show t.kind = .identifier from hhead]
  | group =>
    have h : t.lexeme = "(" := hhead.2
    rcases hclose with rfl | rfl | rfl <;> simp [isPunctuation, h]
  | list close' =>
    rcases hhead with ⟨⟨_, h⟩, _⟩ | ⟨⟨_, h⟩, _⟩ <;>
      rcases hclose with rfl | rfl | rfl <;> simp [isPunctuation, h]

/-! ## Section 3: What is read back -/

/-- A yield of the phrase is read as the phrase. An expression is read by a loop that goes on behind
    it. The token that closes items is left by the reader of the separated ones. -/
def ExpressionPhrase.ReadsBack (limit : Nat) : ExpressionPhrase → Nat → List Token → Prop
  -- the loop behind the expression is that of the caller: `e'` and `Q` are what it comes to
  | expression top e, n, ys =>
    ∀ ⦃depth least : Nat⦄ ⦃input zs following : List Token⦄ ⦃e' : Expression⦄ ⦃Q : Prop⦄,
      significantTokens input = ys ++ zs → BindsAtLeast least top → EndsExpression top zs →
      (∀ rest, significantTokens rest = zs →
        (readOperations limit depth least e rest).Guarded Q e' following) →
      (readExpression limit depth least input).Guarded (depth + n ≤ limit ∧ Q) e' following
  | items es, n, ys =>
    ∀ ⦃depth : Nat⦄ ⦃input following : List Token⦄ ⦃closing : Token⦄ ⦃close : String⦄,
      es ≠ [] → significantTokens input = ys ++ closing :: following →
      closing.Spells .delimiter close → close ∈ closingMarks →
      (readSeparated limit (depth + 1) input).Guarded (depth + n ≤ limit) es
        (closing :: following)

/-! ## Section 4: Readers of operands -/

section operands
variable {limit depth least n : Nat} {e : Expression} {input ys zs : List Token}

/-- The loop stops if no operator follows that binds tightly enough. -/
theorem readOperations_of_stopsBefore (h : StopsBefore least (significantTokens input)) :
    readOperations limit depth least e input = .done e input := by
  cases hu : upcoming input with
  | nil => exact readOperations_of_nil hu
  | cons t rest =>
    rw [readOperations_of_cons hu]
    cases hop : t.binaryOperator? with
    | none => rfl
    | some op => exact if_pos (h t (by simp [significantTokens_of_upcoming_cons hu]) op hop)

theorem guarded_readOperations (hzs : significantTokens input = zs) (h : StopsBefore least zs) :
    (readOperations limit depth least e input).Guarded True e zs := by
  rw [readOperations_of_stopsBefore (hzs ▸ h)]
  exact (Reading.clean_done_iff.mpr ⟨rfl, rfl⟩).guarded hzs

/-- An operand that is itself too deep is an obstacle, so it needs to be looked at only within the
    limit. -/
theorem guarded_readOperand
    (h : depth ≤ limit → (readOperand limit depth input).Guarded (depth + n ≤ limit) e zs) :
    (readOperand limit depth input).Guarded (depth + n ≤ limit) e zs := by
  by_cases hd : depth ≤ limit
  · exact h hd
  · -- beyond the limit the guard is false, and the reader fails before it looks at a token
    have hlimit : limit < depth := by omega
    constructor
    · intro hn
      omega
    · intro _
      rw [readOperand, if_pos hlimit]
      exact Reading.tooDeep_fail

/-- What the reader of operands reads back is read back as an expression without top. -/
theorem ReadsBack.of_operand
    (h : ∀ {depth : Nat} {input zs : List Token}, depth ≤ limit →
      significantTokens input = ys ++ zs → EndsExpression none zs →
      (readOperand limit depth input).Guarded (depth + n ≤ limit) e zs) :
    (expression none e).ReadsBack limit n ys := by
  intro depth least input zs following e' Q hinput _ hends hmore
  rw [readExpression]
  -- the operand is the left operand of the loop that the caller goes on with
  exact (guarded_readOperand fun hd => h hd hinput hends).andThen
    fun rest _ hrest => hmore rest hrest

end operands

/-! ## Section 5: Items and what closes them -/

section items
variable {limit depth least n : Nat} {top : Option BinaryOperator} {e : Expression}
  {es : List Expression} {input ys zs : List Token} {closing : Token} {close : String}

/-- An expression is read back where it ends and no operator follows that binds tightly enough. -/
theorem ExpressionPhrase.ReadsBack.guarded_readExpression
    (h : (expression top e).ReadsBack limit n ys) (hinput : significantTokens input = ys ++ zs)
    (htop : BindsAtLeast least top) (hends : EndsExpression top zs)
    (hstops : StopsBefore least zs) :
    (readExpression limit depth least input).Guarded (depth + n ≤ limit) e zs :=
  (h hinput htop hends fun _ hrest => guarded_readOperations hrest hstops).congr (by simp)

/-- An expression is read back in front of a delimiter other than an opening parenthesis. -/
theorem ExpressionPhrase.ReadsBack.guarded_before_delimiter {t : Token} {text : String}
    (h : (expression top e).ReadsBack limit n ys) (hinput : significantTokens input = ys ++ t :: zs)
    (ht : t.Spells .delimiter text) (htext : text ≠ "(") :
    (readExpression limit depth 0 input).Guarded (depth + n ≤ limit) e (t :: zs) := by
  apply h.guarded_readExpression hinput
  · intro op _
    exact Nat.zero_le _
  · exact endsExpression_delimiter ht htext
  · exact stopsBefore_delimiter ht

/-- Items are read back with the token that closes them. -/
theorem guarded_readItems (hyields : (items es).Yields n ys)
    (h : (items es).ReadsBack limit n ys) (hd : depth ≤ limit)
    (hinput : significantTokens input = ys ++ closing :: zs)
    (hclosing : closing.Spells .delimiter close) (hclose : close ∈ closingMarks) :
    (readItems limit (depth + 1) close input).Guarded (depth + n ≤ limit) es zs := by
  unfold readItems
  by_cases hes : es = []
  -- the closing token comes at once
  · obtain ⟨rfl, rfl⟩ : n = 0 ∧ ys = [] := by
      subst hes
      cases hyields
      exact ⟨rfl, rfl⟩
    have hnext : nextIs close input = true := by
      simp [nextIs_eq, hinput, hclosing.isPunctuation_delimiter]
    rw [if_pos hnext, hes]
    refine ((guarded_demand hinput hclosing.isPunctuation_delimiter).map _).congr ?_
    simp [hd]
  -- an operand comes first, which is no closing token
  · obtain ⟨t, ys', head, rfl, ht⟩ := hyields.exists_operandHead hes
    have hnext : nextIs close input = false := by
      simp [nextIs_eq, hinput, Token.isPunctuation_of_operandHead ht hclose]
    rw [if_neg (by simp [hnext])]
    apply Reading.Guarded.congr (P := depth + n ≤ limit ∧ True)
    · apply (h hes hinput hclosing hclose).andThen
      intro rest _ hrest
      exact (guarded_demand hrest hclosing.isPunctuation_delimiter).map _
    · simp

end items

/-! ## Section 6: One step for each construct -/

section constructs
variable {limit n m : Nat} {top : Option BinaryOperator} {e : Expression} {es : List Expression}
  {t opening closing : Token} {ys zs : List Token}

theorem readsBack_value (ht : t.IsValue) (hnumber : t.isMalformedNumber = false) :
    (expression none (.value t.lexeme)).ReadsBack limit 0 [t] := by
  apply ReadsBack.of_operand
  intro depth input zs hd hinput hends
  obtain ⟨rest, hu, hrest⟩ := exists_upcoming hinput
  have hvalue : (readValue t rest).Guarded (depth + 0 ≤ limit) (.value t.lexeme) zs :=
    ((clean_readValue_iff.mpr ⟨hnumber, rfl, rfl⟩).guarded hrest).congr (by simp [hd])
  rw [readOperand_of_cons hd hu]
  rcases ht with ht | ht
  · -- a name is a value unless a parenthesis opens behind it
    have hnext : nextIs "(" rest = false := by
      rw [nextIs_eq, hrest]
      cases zs with
      | nil => rfl
      | cons t' zs' => exact hends.noCall t' rfl
    have hhead : t.operandHead? = some .name := Token.operandHead?_eq_some_iff.mpr ht
    simp only [hhead, hnext]
    exact hvalue.seenFrom _
  · have hhead : t.operandHead? = some .literal := Token.operandHead?_eq_some_iff.mpr ht
    rw [hhead]
    exact hvalue.seenFrom _

theorem readsBack_call (ht : t.kind = .identifier) (hopening : opening.Spells .delimiter "(")
    (hyields : (items es).Yields n ys) (h : (items es).ReadsBack limit n ys)
    (hclosing : closing.Spells .delimiter ")") :
    (expression none (.call t.lexeme es)).ReadsBack limit n
      (t :: opening :: (ys ++ [closing])) := by
  apply ReadsBack.of_operand
  intro depth input zs hd hinput _
  obtain ⟨rest, hu, hrest⟩ := exists_upcoming hinput
  have hpunct := hopening.isPunctuation_delimiter
  have hhead : t.operandHead? = some .name := Token.operandHead?_eq_some_iff.mpr ht
  have hnext : nextIs "(" rest = true := by simp [nextIs_eq, hrest, hpunct]
  rw [readOperand_of_cons hd hu, hhead]
  -- a name with brackets behind it is a call; these open the level of the arguments
  apply Reading.Guarded.congr (P := True ∧ depth + n ≤ limit)
  · apply Reading.Guarded.seenFrom
    simp only [hnext, if_true]
    apply (guarded_demand hrest hpunct).andThen
    intro rest' _ hrest'
    have hsplit : significantTokens rest' = ys ++ closing :: zs := by simpa using hrest'
    exact (guarded_readItems hyields h hd hsplit hclosing (by decide)).map _
  · simp

theorem readsBack_list (hbrackets : AreListBrackets opening closing)
    (hyields : (items es).Yields n ys) (h : (items es).ReadsBack limit n ys) :
    (expression none (.list es)).ReadsBack limit n (opening :: (ys ++ [closing])) := by
  apply ReadsBack.of_operand
  intro depth input zs hd hinput _
  obtain ⟨rest, hu, hrest⟩ := exists_upcoming hinput
  have hsplit : significantTokens rest = ys ++ closing :: zs := by simpa using hrest
  -- both kinds of brackets are read by the same reader
  have hlist {close : String} (hhead : opening.operandHead? = some (.list close))
      (hclosing : closing.Spells .delimiter close) (hclose : close ∈ closingMarks) :
      (readOperand limit depth input).Guarded (depth + n ≤ limit) (.list es) zs := by
    rw [readOperand_of_cons hd hu, hhead]
    exact ((guarded_readItems hyields h hd hsplit hclosing hclose).map _).seenFrom _
  rcases hbrackets with ⟨hopening, hclosing⟩ | ⟨hopening, hclosing⟩
  · have hhead : opening.operandHead? = some (.list "]") :=
      Token.operandHead?_eq_some_iff.mpr (.inl ⟨hopening, rfl⟩)
    exact hlist hhead hclosing (by decide)
  · have hhead : opening.operandHead? = some (.list "\x7d") :=
      Token.operandHead?_eq_some_iff.mpr (.inr ⟨hopening, rfl⟩)
    exact hlist hhead hclosing (by decide)

theorem readsBack_group (hopening : opening.Spells .delimiter "(")
    (h : (expression top e).ReadsBack limit n ys) (hclosing : closing.Spells .delimiter ")") :
    (expression none e).ReadsBack limit (n + 1) (opening :: (ys ++ [closing])) := by
  apply ReadsBack.of_operand
  intro depth input zs hd hinput _
  obtain ⟨rest, hu, hrest⟩ := exists_upcoming hinput
  have hsplit : significantTokens rest = ys ++ closing :: zs := by simpa using hrest
  have hhead : opening.operandHead? = some .group := Token.operandHead?_eq_some_iff.mpr hopening
  rw [readOperand_of_cons hd hu, hhead]
  apply Reading.Guarded.congr (P := depth + 1 + n ≤ limit ∧ True)
  · apply Reading.Guarded.seenFrom
    apply (h.guarded_before_delimiter hsplit hclosing (by decide)).andThen
    intro rest' _ hrest'
    exact (guarded_demand hrest' hclosing.isPunctuation_delimiter).map _
  · rw [and_true]
    omega

/-- The left operand is read first; then the loop goes on with the operator. -/
theorem readsBack_binary {op : BinaryOperator} {sign : Token}
    {topLeft topRight : Option BinaryOperator} {left right : Expression}
    (hleft : (expression topLeft left).ReadsBack limit n ys)
    (hsign : sign.Spells .operator op.symbol)
    (hright : (expression topRight right).ReadsBack limit m zs)
    (htopLeft : BindsAtLeast op.precedence topLeft)
    (htopRight : BindsAtLeast (op.precedence + 1) topRight) :
    (expression (some op) (.binary op left right)).ReadsBack limit (max n (m + 1))
      (ys ++ sign :: zs) := by
  intro depth least input behind following e' Q hinput htop hends hmore
  have hop : least ≤ op.precedence := htop op rfl
  -- the right operand is read by a loop of its own, which leaves what binds no tighter
  have hstops : StopsBefore (op.precedence + 1) behind := hends.noTighter op rfl
  have hsplit : significantTokens input = ys ++ sign :: (zs ++ behind) := by simpa using hinput
  have htopLeft' : BindsAtLeast least topLeft := by
    intro op' hop'
    exact Nat.le_trans hop (htopLeft op' hop')
  -- with the left operand read, the loop meets the operator and takes the right operand
  have hloop (rest : List Token) (hrest : significantTokens rest = sign :: (zs ++ behind)) :
      (readOperations limit depth least left rest).Guarded (depth + 1 + m ≤ limit ∧ Q) e'
        following := by
    obtain ⟨rest', hu, hrest'⟩ := exists_upcoming hrest
    rw [readOperations_of_cons hu, Token.binaryOperator?_eq_some_iff.mpr hsign]
    simp only [if_neg (Nat.not_lt.mpr hop)]
    apply Reading.Guarded.seenFrom
    apply (hright.guarded_readExpression hrest' htopRight (hends.right htopRight) hstops).andThen
    intro rest'' _ hrest''
    exact hmore rest'' hrest''
  apply (hleft hsplit htopLeft' (endsExpression_operator hsign htopLeft) hloop).congr
  rw [← and_assoc]
  exact and_congr (by omega) Iff.rfl

/-- A mark that closes items neither opens a call nor goes on with the items. -/
theorem ne_of_mem_closingMarks {close : String} (h : close ∈ closingMarks) :
    close ≠ "(" ∧ close ≠ "," := by
  constructor
  all_goals
    intro heq
    subst heq
    exact absurd h (by decide)

theorem readsBack_lastItem (h : (expression top e).ReadsBack limit n ys) :
    (items [e]).ReadsBack limit (n + 1) ys := by
  intro depth input following closing close _ hinput hclosing hclose
  obtain ⟨hcall, hcomma⟩ := ne_of_mem_closingMarks hclose
  rw [readSeparated]
  -- an item is one level deeper than the brackets around it
  apply Reading.Guarded.congr (P := depth + 1 + n ≤ limit ∧ True)
  · apply (h.guarded_before_delimiter hinput hclosing hcall).andThen
    intro rest _ hrest
    have hdone : (Reading.done [e] rest).Guarded True [e] (closing :: following) :=
      (Reading.clean_done_iff.mpr ⟨rfl, rfl⟩).guarded hrest
    split
    · exact hdone
    -- what follows is the closing token and no comma
    · next t rest' hu =>
      rw [significantTokens_of_upcoming_cons hu, List.cons.injEq] at hrest
      rw [if_neg (by simp [Token.isPunctuation, hrest.1, hclosing.2, hcomma])]
      exact hdone
  · rw [and_true]
    omega

theorem readsBack_moreItems {e' : Expression} {comma : Token}
    (h : (expression top e).ReadsBack limit n ys) (hcomma : comma.Spells .delimiter ",")
    (h' : (items (e' :: es)).ReadsBack limit m zs) :
    (items (e :: e' :: es)).ReadsBack limit (max (n + 1) m) (ys ++ comma :: zs) := by
  intro depth input following closing close _ hinput hclosing hclose
  have hsplit : significantTokens input = ys ++ comma :: (zs ++ closing :: following) := by
    simpa using hinput
  rw [readSeparated]
  apply Reading.Guarded.congr (P := depth + 1 + n ≤ limit ∧ depth + m ≤ limit)
  · apply (h.guarded_before_delimiter hsplit hcomma (by decide)).andThen
    intro rest _ hrest
    obtain ⟨rest₁, hu, hrest₁⟩ := exists_upcoming hrest
    have hitems : (readSeparated limit (depth + 1) rest₁).Guarded (depth + m ≤ limit) (e' :: es)
        (closing :: following) :=
      h' (List.cons_ne_nil e' es) hrest₁ hclosing hclose
    -- the next token is the comma, so the reader of items calls itself
    split
    · next hnil => simp [hu] at hnil
    · next t rest' hu' =>
      obtain ⟨rfl, rfl⟩ := List.cons.inj (hu'.symm.trans hu)
      rw [if_pos hcomma.isPunctuation_delimiter]
      exact (hitems.map _).seenFrom _
  · omega

end constructs

/-- Every yield of a phrase is read as the phrase. -/
theorem ExpressionPhrase.Yields.readsBack {p : ExpressionPhrase} {n : Nat} {ys : List Token}
    (limit : Nat) (h : p.Yields n ys) (hnumbers : NoneMalformed ys) : p.ReadsBack limit n ys := by
  -- along the yield; each of its rules is one of the constructs above
  induction h with
  | value ht => exact readsBack_value ht (hnumbers _ List.mem_cons_self)
  | call hname hopening harguments hclosing ih =>
    have harguments' := ih (by simp_all)
    exact readsBack_call hname hopening harguments harguments' hclosing
  | list hbrackets helements ih =>
    have helements' := ih (by simp_all)
    exact readsBack_list hbrackets helements helements'
  | group hopening hinner hclosing ih =>
    have hinner' := ih (by simp_all)
    exact readsBack_group hopening hinner' hclosing
  | binary hleft hsign hright htopLeft htopRight ih ih' =>
    have hleft' := ih (by simp_all)
    have hright' := ih' (by simp_all)
    exact readsBack_binary hleft' hsign hright' htopLeft htopRight
  | noItem =>
    intro depth input following closing close hne
    exact absurd rfl hne
  | lastItem hitem ih => exact readsBack_lastItem (ih hnumbers)
  | moreItems hitem hcomma hitems ih ih' =>
    have hitem' := ih (by simp_all)
    have hitems' := ih' (by simp_all)
    exact readsBack_moreItems hitem' hcomma hitems'

end ScriptCheck
