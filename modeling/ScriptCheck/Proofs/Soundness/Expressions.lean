import ScriptCheck.Proofs.Following

/-! # Clean Readings of Expressions are Yields

  Whatever the expression parser reads without an obstacle or a problem is a
  yield of what it gives back. The five readers call each other, so the five
  statements are proved together, along the measure on which the readers recurse.

  The invariant of the loop over operators is about the operand on the left: it
  may stand without parentheses in front of any operator that can come next. A
  reading stops only where no operator of the precedence it looks for follows, so
  an operand that was itself read by the loop has this property.
-/

namespace ScriptCheck

/-! ## Section 1: Demanded delimiters -/

/-- A delimiter that was demanded and came is the next significant token. -/
theorem demandPunctuation_sound {text : String} {input rest : List Token} {t : Token}
    (hi : Token.AreListed input) (htext : text ∉ operators)
    (h : (demandPunctuation text input).Clean t rest) :
    t.Spells .delimiter text ∧ significantTokens input = t :: significantTokens rest := by
  obtain ⟨hu, ht⟩ := clean_demand_iff.mp h
  exact ⟨(hi.of_upcoming hu).spells_delimiter htext ht, significantTokens_of_upcoming_cons hu⟩

/-! ## Section 2: What a clean reading says -/

open ExpressionPhrase

/-- The tokens begin with a yield of the phrase, no deeper than the limit allows. -/
def ReadsPhrase (limit depth : Nat) (p : ExpressionPhrase) (tokens following : List Token) : Prop :=
  ∃ n ys, p.Yields n ys ∧ tokens = ys ++ following ∧ depth + n ≤ limit

/-- The tokens begin with a yield of the expression, no deeper than the limit allows, that takes
    every operator of at least the precedence `least`. -/
def ReadsExpression (limit depth least : Nat) (e : Expression) (tokens following : List Token) :
    Prop :=
  ∃ top n ys, (expression top e).Yields n ys ∧ tokens = ys ++ following ∧ depth + n ≤ limit ∧
    BindsAtLeast least top ∧ StopsBefore least following

/-- The tokens begin with items and the delimiter that closes them. -/
def ReadsItems (limit depth : Nat) (close : String) (es : List Expression)
    (tokens following : List Token) : Prop :=
  ∃ closing : Token, closing.Spells .delimiter close ∧
    ReadsPhrase limit depth (items es) tokens (closing :: following)

section tokens
variable {limit depth least : Nat} {e : Expression} {es : List Expression} {t : Token}
  {tokens following : List Token}

/-- A single token is no deeper than its place. -/
theorem ReadsPhrase.value (ht : t.IsValue) (hd : depth ≤ limit) :
    ReadsPhrase limit depth (expression none (.value t.lexeme)) (t :: following) following :=
  ⟨0, [t], .value ht, rfl, hd⟩

theorem ReadsItems.call {opening : Token} (hname : t.kind = .identifier)
    (hopening : opening.Spells .delimiter "(")
    (h : ReadsItems limit depth ")" es tokens following) :
    ReadsPhrase limit depth (expression none (.call t.lexeme es)) (t :: opening :: tokens)
      following := by
  obtain ⟨closing, hclosing, n, ys, hyield, rfl, hn⟩ := h
  refine ⟨n, t :: opening :: (ys ++ [closing]), .call hname hopening hyield hclosing, ?_, hn⟩
  simp

theorem ReadsItems.list {close : String} (h : ReadsItems limit depth close es tokens following)
    (hopening : (t.Spells .delimiter "[" ∧ close = "]") ∨
      (t.Spells .delimiter "\x7b" ∧ close = "\x7d")) :
    ReadsPhrase limit depth (expression none (.list es)) (t :: tokens) following := by
  obtain ⟨closing, hclosing, n, ys, hyield, rfl, hn⟩ := h
  have hbrackets : AreListBrackets t closing := by
    rcases hopening with ⟨hopening, rfl⟩ | ⟨hopening, rfl⟩
    · exact .inl ⟨hopening, hclosing⟩
    · exact .inr ⟨hopening, hclosing⟩
  refine ⟨n, t :: (ys ++ [closing]), .list hbrackets hyield, ?_, hn⟩
  simp

/-- The inside of a pair of parentheses is one deeper than the pair. -/
theorem ReadsExpression.group {closing : Token} (hopening : t.Spells .delimiter "(")
    (h : ReadsExpression limit (depth + 1) least e tokens (closing :: following))
    (hclosing : closing.Spells .delimiter ")") :
    ReadsPhrase limit depth (expression none e) (t :: tokens) following := by
  obtain ⟨top, n, ys, hyield, rfl, hn, -, -⟩ := h
  refine ⟨n + 1, t :: (ys ++ [closing]), .group hopening hyield hclosing, ?_, by omega⟩
  simp

end tokens

/-! ## Section 3: The five readers -/

mutual

theorem readOperations_sound {limit depth least : Nat} {left e : Expression}
    {input rest ys : List Token} {top : Option BinaryOperator} {n : Nat}
    (hi : Token.AreListed input) (hleft : (expression top left).Yields n ys)
    (hn : depth + n ≤ limit) (htop : BindsAtLeast least top)
    (hnext : ∀ op ∈ top, StopsBefore (op.precedence + 1) (significantTokens input))
    (h : (readOperations limit depth least left input).Clean e rest) :
    ReadsExpression limit depth least e (ys ++ significantTokens input)
      (significantTokens rest) := by
  -- where the loop ends, what it gives back is the operand it has
  have hdone (hstop : StopsBefore least (significantTokens input))
      (h : (Reading.done left input).Clean e rest) :
      ReadsExpression limit depth least e (ys ++ significantTokens input)
        (significantTokens rest) := by
    obtain ⟨rfl, rfl⟩ := Reading.clean_done_iff.mp h
    exact ⟨top, n, ys, hleft, rfl, hn, htop, hstop⟩
  cases hu : upcoming input with
  | nil =>
    rw [readOperations_of_nil hu] at h
    refine hdone ?_ h
    rw [significantTokens_of_upcoming_nil hu]
    simp [StopsBefore]
  | cons t rest₁ =>
    rw [readOperations_of_cons hu] at h
    split at h
    -- what follows is no operator
    · next hop => exact hdone (stopsBefore_of_upcoming hu (by simp [hop])) h
    · next op hop =>
      split at h
      -- the operator binds too loosely and is left to a loop further out
      · next hlt => exact hdone (stopsBefore_of_upcoming hu (by simpa [hop] using hlt)) h
      · next hge =>
        rw [Reading.clean_seenFrom_iff, Reading.clean_andThen_iff] at h
        obtain ⟨right, rest₂, hle, hright, hmore⟩ := h
        have := length_lt_of_upcoming hu
        have hsig := significantTokens_of_upcoming_cons hu
        obtain ⟨topRight, m, zs, hyield, hzs, hm, hbinds, hstops⟩ :=
          readExpression_sound (hi.of_suffix (suffix_of_upcoming hu)) hright
        -- the reading of the left operand went past every operator that binds tighter
        have htopLeft : BindsAtLeast op.precedence top := by
          intro op' hop'
          have := hnext op' hop' t (by simp [hsig]) op hop
          omega
        have hboth :=
          Yields.binary hleft (Token.binaryOperator?_eq_some_iff.mp hop) hyield htopLeft hbinds
        -- the binary expression takes the place of the operand on the left, and the loop goes on
        have hlater := readOperations_sound
          (hi.of_suffix (hright.suffix.trans (suffix_of_upcoming hu))) hboth (by omega)
          (by simpa [BindsAtLeast] using hge) (by simpa using hstops) hmore
        have hall : ys ++ significantTokens input =
            ys ++ t :: zs ++ significantTokens rest₂ := by
          rw [hsig, hzs, List.append_assoc, List.cons_append]
        rwa [hall]
termination_by 5 * input.length

theorem readOperand_sound {limit depth : Nat} {e : Expression} {input rest : List Token}
    (hi : Token.AreListed input) (h : (readOperand limit depth input).Clean e rest) :
    ReadsPhrase limit depth (expression none e) (significantTokens input)
      (significantTokens rest) := by
  by_cases hd : depth ≤ limit
  · cases hu : upcoming input with
    | nil =>
      rw [readOperand_of_nil hd hu] at h
      exact absurd h Reading.not_clean_fail
    | cons t rest₁ =>
      rw [readOperand_of_cons hd hu] at h
      have hlt := length_lt_of_upcoming hu
      have hsig := significantTokens_of_upcoming_cons hu
      have hi₁ := hi.of_suffix (suffix_of_upcoming hu)
      cases hhead : t.operandHead? with
      | none =>
        rw [hhead] at h
        exact absurd h Reading.not_clean_fail
      | some head =>
        rw [hhead] at h
        simp only [Reading.clean_seenFrom_iff] at h
        have ht := Token.operandHead?_eq_some_iff.mp hhead
        cases head with
        | literal =>
          obtain ⟨-, rfl, rfl⟩ := clean_readValue_iff.mp h
          rw [hsig]
          exact .value (.inr ht) hd
        | name =>
          simp only at h ht
          split at h
          -- a parenthesis opens behind the name, so this is a call
          · simp only [Reading.clean_andThen_iff, Reading.clean_map_iff] at h
            obtain ⟨opening, rest₂, hle, hopen, es, hes, rfl⟩ := h
            obtain ⟨hopening, hsig₁⟩ := demandPunctuation_sound hi₁ (by decide) hopen
            have hitems := readItems_sound (hi₁.of_suffix hopen.suffix) (by decide) hd hes
            rw [hsig, hsig₁]
            exact hitems.call ht hopening
          · obtain ⟨-, rfl, rfl⟩ := clean_readValue_iff.mp h
            rw [hsig]
            exact .value (.inl ht) hd
        | group =>
          simp only [Reading.clean_andThen_iff, Reading.clean_map_iff] at h
          obtain ⟨inner, rest₂, hle, hinner, closing, hclose, rfl⟩ := h
          have hi₂ := hi₁.of_suffix hinner.suffix
          have hexpression := readExpression_sound hi₁ hinner
          obtain ⟨hclosing, hsig₂⟩ := demandPunctuation_sound hi₂ (by decide) hclose
          rw [hsig₂] at hexpression
          rw [hsig]
          exact hexpression.group ht hclosing
        | list close =>
          obtain ⟨es, hes, rfl⟩ := Reading.clean_map_iff.mp h
          have hclose : close ∉ operators := by
            rcases ht with ⟨-, rfl⟩ | ⟨-, rfl⟩
            · decide
            · decide
          have hitems := readItems_sound hi₁ hclose hd hes
          rw [hsig]
          exact hitems.list ht
  -- beyond the limit the reader looks at nothing
  · have hlimit : limit < depth := by omega
    rw [readOperand, if_pos hlimit] at h
    exact absurd h Reading.not_clean_fail
termination_by 5 * input.length + 1

theorem readExpression_sound {limit depth least : Nat} {e : Expression} {input rest : List Token}
    (hi : Token.AreListed input) (h : (readExpression limit depth least input).Clean e rest) :
    ReadsExpression limit depth least e (significantTokens input) (significantTokens rest) := by
  rw [readExpression, Reading.clean_andThen_iff] at h
  obtain ⟨left, rest₁, hle, hleft, hmore⟩ := h
  obtain ⟨n, ys, hyield, hys, hn⟩ := readOperand_sound hi hleft
  rw [hys]
  exact readOperations_sound (hi.of_suffix hleft.suffix) hyield hn (by simp [BindsAtLeast])
    (by simp) hmore
termination_by 5 * input.length + 2

/-- There is at least one item, which stands one deeper. -/
theorem readSeparated_sound {limit depth : Nat} {es : List Expression} {input rest : List Token}
    (hi : Token.AreListed input) (h : (readSeparated limit (depth + 1) input).Clean es rest) :
    es ≠ [] ∧ ReadsPhrase limit depth (items es) (significantTokens input)
      (significantTokens rest) := by
  rw [readSeparated, Reading.clean_andThen_iff] at h
  obtain ⟨e, rest₁, hle, hitem, hmore⟩ := h
  obtain ⟨top, n, ys, hyield, hys, hn, -, -⟩ := readExpression_sound hi hitem
  -- without a comma behind it the item is the last one
  have hlast (hone : (Reading.done [e] rest₁).Clean es rest) :
      es ≠ [] ∧ ReadsPhrase limit depth (items es) (significantTokens input)
        (significantTokens rest) := by
    obtain ⟨rfl, rfl⟩ := Reading.clean_done_iff.mp hone
    exact ⟨by simp, n + 1, ys, .lastItem hyield, hys, by omega⟩
  split at hmore
  · exact hlast hmore
  · next comma rest₂ hu =>
    split at hmore
    · next hcomma =>
      rw [Reading.clean_seenFrom_iff, Reading.clean_map_iff] at hmore
      obtain ⟨es', hes', rfl⟩ := hmore
      have := length_lt_of_upcoming hu
      have hi₁ := hi.of_suffix hitem.suffix
      obtain ⟨hne, m, zs, hyield', hzs, hm⟩ :=
        readSeparated_sound (hi₁.of_suffix (suffix_of_upcoming hu)) hes'
      obtain ⟨e', es'', rfl⟩ := List.exists_cons_of_ne_nil hne
      have hspells := (hi₁.of_upcoming hu).spells_delimiter (by decide) hcomma
      refine ⟨by simp, max (n + 1) m, ys ++ comma :: zs, .moreItems hyield hspells hyield', ?_,
        by omega⟩
      rw [hys, significantTokens_of_upcoming_cons hu, hzs]
      simp
    · exact hlast hmore
termination_by 5 * input.length + 3

theorem readItems_sound {limit depth : Nat} {close : String} {es : List Expression}
    {input rest : List Token} (hi : Token.AreListed input) (hclose : close ∉ operators)
    (hd : depth ≤ limit) (h : (readItems limit (depth + 1) close input).Clean es rest) :
    ReadsItems limit depth close es (significantTokens input) (significantTokens rest) := by
  unfold readItems at h
  split at h
  -- the closing delimiter comes at once
  · obtain ⟨closing, hclosing, rfl⟩ := Reading.clean_map_iff.mp h
    obtain ⟨hspells, hsig⟩ := demandPunctuation_sound hi hclose hclosing
    exact ⟨closing, hspells, 0, [], .noItem, hsig, hd⟩
  · simp only [Reading.clean_andThen_iff, Reading.clean_map_iff] at h
    obtain ⟨es', rest₁, hle, hes, closing, hclosing, rfl⟩ := h
    obtain ⟨-, hitems⟩ := readSeparated_sound hi hes
    obtain ⟨hspells, hsig⟩ := demandPunctuation_sound (hi.of_suffix hes.suffix) hclose hclosing
    rw [hsig] at hitems
    exact ⟨closing, hspells, hitems⟩
termination_by 5 * input.length + 4

end

end ScriptCheck
