import ScriptCheck.Proofs.FirstError.Completion
import ScriptCheck.Proofs.Soundness.Expressions

/-! # Stuck Expressions Can Be Completed

  Where the reading of an expression gets stuck, what was read before is the
  beginning of an expression. Nesting is no reason to get stuck here: the limit
  leaves room for as many levels as there are tokens.

  The loop over operators is about an operand that it already has, and so are
  the completions of its readings: that operand and an operator stand in front
  of the operand that could not be read.
-/

namespace ScriptCheck

open ExpressionPhrase

/-! ## Section 1: What is completed -/

def IsOperand (ws : List Token) : Prop := ∃ e n, (expression none e).Yields n ws

/-- The tokens are a yield of an expression whose operators have at least the precedence `least`
    where they are not in brackets. -/
def IsExpression (least : Nat) (ws : List Token) : Prop :=
  ∃ top e n, (expression top e).Yields n ws ∧ BindsAtLeast least top

def AreItems (ws : List Token) : Prop := ∃ es n, es ≠ [] ∧ (items es).Yields n ws

/-- The tokens are items, perhaps none, and the delimiter that closes them. -/
def AreClosedItems (close : String) (ws : List Token) : Prop :=
  ∃ es n ys closing, (items es).Yields n ys ∧ closing.Spells .delimiter close ∧
    ws = ys ++ [closing]

section phrases
variable {least : Nat} {t opening closing : Token} {ys ws : List Token}

theorem IsOperand.isExpression (h : IsOperand ws) : IsExpression least ws := by
  obtain ⟨e, n, hyields⟩ := h
  exact ⟨none, e, n, hyields, by simp [BindsAtLeast]⟩

theorem isOperand_filler : IsOperand [filler .identifier "x"] := ⟨_, 0, .value (.inl rfl)⟩

theorem IsExpression.group (hopening : opening.Spells .delimiter "(") (h : IsExpression least ws)
    (hclosing : closing.Spells .delimiter ")") : IsOperand (opening :: (ws ++ [closing])) := by
  obtain ⟨top, e, n, hyields, -⟩ := h
  exact ⟨e, n + 1, .group hopening hyields hclosing⟩

theorem AreClosedItems.call (ht : t.kind = .identifier) (hopening : opening.Spells .delimiter "(")
    (h : AreClosedItems ")" ws) : IsOperand (t :: opening :: ws) := by
  obtain ⟨es, n, ys, closing, hyields, hclosing, rfl⟩ := h
  exact ⟨.call t.lexeme es, n, .call ht hopening hyields hclosing⟩

theorem AreClosedItems.list {close : String} (h : AreClosedItems close ws)
    (hopening : (opening.Spells .delimiter "[" ∧ close = "]") ∨
      (opening.Spells .delimiter "\x7b" ∧ close = "\x7d")) : IsOperand (opening :: ws) := by
  obtain ⟨es, n, ys, closing, hyields, hclosing, rfl⟩ := h
  have hbrackets : AreListBrackets opening closing := by
    rcases hopening with ⟨hopening, rfl⟩ | ⟨hopening, rfl⟩
    · exact .inl ⟨hopening, hclosing⟩
    · exact .inr ⟨hopening, hclosing⟩
  exact ⟨.list es, n, .list hbrackets hyields⟩

theorem areClosedItems_none {close : String} : AreClosedItems close [filler .delimiter close] :=
  ⟨[], 0, [], _, .noItem, filler_spells _ _, rfl⟩

theorem AreItems.closed {close : String} (h : AreItems ws)
    (hclosing : closing.Spells .delimiter close) : AreClosedItems close (ws ++ [closing]) := by
  obtain ⟨es, n, -, hyields⟩ := h
  exact ⟨es, n, ws, closing, hyields, hclosing, rfl⟩

theorem IsExpression.areItems (h : IsExpression least ws) : AreItems ws := by
  obtain ⟨top, e, n, hyields, -⟩ := h
  exact ⟨[e], n + 1, List.cons_ne_nil _ _, .lastItem hyields⟩

theorem AreItems.more {comma : Token} {e : Expression} {top : Option BinaryOperator} {n : Nat}
    (hitem : (expression top e).Yields n ys) (hcomma : comma.Spells .delimiter ",")
    (h : AreItems ws) : AreItems (ys ++ comma :: ws) := by
  obtain ⟨es, m, hne, hyields⟩ := h
  obtain ⟨e', es', rfl⟩ := List.exists_cons_of_ne_nil hne
  exact ⟨e :: e' :: es', max (n + 1) m, List.cons_ne_nil _ _, .moreItems hitem hcomma hyields⟩

theorem ReadsExpression.exists_isExpression {limit depth : Nat} {e : Expression}
    {tokens following : List Token} (h : ReadsExpression limit depth least e tokens following) :
    ∃ ys, IsExpression least ys ∧ tokens = ys ++ following := by
  obtain ⟨top, n, ys, hyields, hys, -, hbinds, -⟩ := h
  exact ⟨ys, ⟨top, e, n, hyields, hbinds⟩, hys⟩

end phrases

/-- A delimiter that closes items is listed, and not as an operator. -/
theorem closingMark_listed {close : String} (h : close ∈ closingMarks) :
    close ∉ operators ∧ AreFillers [filler .delimiter close] := by
  simp only [closingMarks, List.mem_cons, List.not_mem_nil, or_false] at h
  rcases h with rfl | rfl | rfl
  · decide
  · decide
  · decide

/-! ## Section 2: The five readers -/

mutual

theorem readOperations_completes {limit depth least : Nat} {left : Expression}
    {input ahead ys : List Token} {top : Option BinaryOperator} {n : Nat}
    (hi : Token.AreListed input) (hd : depth + (significantTokens input).length ≤ limit)
    (hleft : (expression top left).Yields n ys)
    (hnext : ∀ op ∈ top, StopsBefore (op.precedence + 1) (significantTokens input))
    (h : (readOperations limit depth least left input).StuckAt ahead) :
    CompletesTo (IsExpression least) (ys ++ significantTokens input) (significantTokens ahead) := by
  cases hu : upcoming input with
  | nil =>
    rw [readOperations_of_nil hu] at h
    exact absurd h Reading.not_stuckAt_done
  | cons t rest =>
    have hlt := length_lt_of_upcoming hu
    have hsig := significantTokens_of_upcoming_cons hu
    have hi₁ := hi.of_suffix (suffix_of_upcoming hu)
    -- one level deeper, but with the operator consumed: there is room for what is left
    have hd₁ : depth + 1 + (significantTokens rest).length ≤ limit := by
      rw [hsig, List.length_cons] at hd
      omega
    rw [readOperations_of_cons hu] at h
    split at h
    · exact absurd h Reading.not_stuckAt_done
    · next op hop =>
      split at h
      · exact absurd h Reading.not_stuckAt_done
      · next hge =>
        have hsign := Token.binaryOperator?_eq_some_iff.mp hop
        -- the reading of the left operand went past every operator that binds tighter
        have htopLeft : BindsAtLeast op.precedence top := by
          intro op' hop'
          have := hnext op' hop' t (by simp [hsig]) op hop
          omega
        have hleast : BindsAtLeast least (some op) := by simpa [BindsAtLeast] using hge
        rcases (Reading.stuckAt_seenFrom_iff.mp h).of_andThen with
          h | ⟨right, rest₂, hle, hright, h⟩
        · -- stuck in the right operand, whose completion completes the operation
          apply (readExpression_completes hi₁ hd₁ h).behind (ys ++ [t])
          · rw [hsig, List.append_assoc]
            rfl
          · intro ws ⟨topRight, e, m, hyield, hbinds⟩
            rw [List.append_assoc]
            exact ⟨_, _, _, .binary hleft hsign hyield htopLeft hbinds, hleast⟩
        · -- stuck behind it: the operation is the left operand of the next turn
          obtain ⟨topRight, m, zs, hyield, hzs, hm, hbinds, hstops⟩ :=
            readExpression_sound hi₁ hright
          have hboth := Yields.binary hleft hsign hyield htopLeft hbinds
          have hs := hright.suffix.trans (suffix_of_upcoming hu)
          have hshorter := significantTokens_length_le hs
          have hlater := readOperations_completes (hi.of_suffix hs) (by omega) hboth
            (by simpa using hstops) h
          rw [hsig, hzs]
          simpa using hlater
termination_by 5 * input.length

theorem readOperand_completes {limit depth : Nat} {input ahead : List Token}
    (hi : Token.AreListed input) (hd : depth + (significantTokens input).length ≤ limit)
    (h : (readOperand limit depth input).StuckAt ahead) :
    CompletesTo IsOperand (significantTokens input) (significantTokens ahead) := by
  have hdepth : depth ≤ limit := by omega
  -- where no operand begins, a name is one
  have hnone (h : (Reading.fail (.expected .expression) input :
      Reading Expression input).StuckAt ahead) :
      CompletesTo IsOperand (significantTokens input) (significantTokens ahead) := by
    exact .of_fillers (Reading.significantTokens_of_stuckAt_fail h) (by decide) isOperand_filler
  cases hu : upcoming input with
  | nil =>
    rw [readOperand_of_nil hdepth hu] at h
    exact hnone h
  | cons t rest =>
    rw [readOperand_of_cons hdepth hu] at h
    have hlt := length_lt_of_upcoming hu
    have hsig := significantTokens_of_upcoming_cons hu
    have hi₁ := hi.of_suffix (suffix_of_upcoming hu)
    have hd₁ : depth + 1 + (significantTokens rest).length ≤ limit := by
      rw [hsig, List.length_cons] at hd
      omega
    cases hhead : t.operandHead? with
    | none =>
      rw [hhead] at h
      exact hnone h
    | some head =>
      rw [hhead] at h
      have h := Reading.stuckAt_seenFrom_iff.mp h
      have ht := Token.operandHead?_eq_some_iff.mp hhead
      rw [hsig]
      cases head with
      | literal => exact absurd h not_stuckAt_readValue
      | name =>
        simp only at h ht
        split at h
        · rcases h.of_demandPunctuation hi₁ (by decide) with
            hsame | ⟨opening, rest₂, hle, hs, hopening, hsig₁, h⟩
          · -- no arguments yet, so a call without any completes the name
            refine ⟨[t], [filler .delimiter "(", filler .delimiter ")"], by rw [hsame]; rfl,
              by decide, ?_⟩
            exact areClosedItems_none.call ht (filler_spells _ _)
          · have hshorter := significantTokens_length_le hs
            have hitems := readItems_completes (hi₁.of_suffix hs) (by decide) (by omega)
              (Reading.stuckAt_map_iff.mp h)
            rw [hsig₁]
            exact hitems.behind [t, opening] rfl fun _ hws => hws.call ht hopening
        · exact absurd h not_stuckAt_readValue
      | group =>
        rcases h.of_andThen with h | ⟨inner, rest₂, hle, hinner, h⟩
        · -- stuck inside the parentheses, or else in front of the closing one
          exact (readExpression_completes hi₁ hd₁ h).frame [t] [filler .delimiter ")"] (by decide)
            rfl fun _ hws => hws.group ht (filler_spells _ _)
        · have hsame := significantTokens_of_stuckAt_demand (Reading.stuckAt_map_iff.mp h)
          obtain ⟨ys, hexpression, hys⟩ := (readExpression_sound hi₁ hinner).exists_isExpression
          refine ⟨t :: ys, [filler .delimiter ")"], by rw [hys, hsame]; rfl, by decide, ?_⟩
          exact hexpression.group ht (filler_spells _ _)
      | list close =>
        have hclose : close ∈ closingMarks := by
          rcases ht with ⟨-, rfl⟩ | ⟨-, rfl⟩
          · decide
          · decide
        exact (readItems_completes hi₁ hclose hd₁ (Reading.stuckAt_map_iff.mp h)).behind [t] rfl
          fun _ hws => hws.list ht
termination_by 5 * input.length + 1

theorem readExpression_completes {limit depth least : Nat} {input ahead : List Token}
    (hi : Token.AreListed input) (hd : depth + (significantTokens input).length ≤ limit)
    (h : (readExpression limit depth least input).StuckAt ahead) :
    CompletesTo (IsExpression least) (significantTokens input) (significantTokens ahead) := by
  rw [readExpression] at h
  -- stuck in the first operand or in the loop behind it
  rcases h.of_andThen with h | ⟨left, rest, hle, hleft, h⟩
  · exact (readOperand_completes hi hd h).mono fun _ => IsOperand.isExpression
  · obtain ⟨n, ys, hyield, hys, -⟩ := readOperand_sound hi hleft
    have := significantTokens_length_le hleft.suffix
    rw [hys]
    exact readOperations_completes (hi.of_suffix hleft.suffix) (by omega) hyield (by simp) h
termination_by 5 * input.length + 2

theorem readSeparated_completes {limit depth : Nat} {input ahead : List Token}
    (hi : Token.AreListed input) (hd : depth + (significantTokens input).length ≤ limit)
    (h : (readSeparated limit depth input).StuckAt ahead) :
    CompletesTo AreItems (significantTokens input) (significantTokens ahead) := by
  rw [readSeparated_eq] at h
  -- stuck in the first item, or in the items behind the comma
  rcases h.of_andThen with h | ⟨e, rest, hle, hitem, h⟩
  · exact (readExpression_completes hi hd h).mono fun _ => IsExpression.areItems
  · obtain ⟨top, n, ys, hyield, hys, hn, -, -⟩ := readExpression_sound hi hitem
    have hi₁ := hi.of_suffix hitem.suffix
    cases hu : upcoming rest with
    | nil =>
      rw [furtherItems_of_nil hu] at h
      exact absurd h Reading.not_stuckAt_done
    | cons t rest₁ =>
      rw [furtherItems_of_cons hu] at h
      split at h
      · next hcomma =>
        have h := Reading.stuckAt_map_iff.mp (Reading.stuckAt_seenFrom_iff.mp h)
        have hlt := length_lt_of_upcoming hu
        have hspells := (hi₁.of_upcoming hu).spells_delimiter (by decide) hcomma
        have hshorter := significantTokens_length_le
          ((suffix_of_upcoming hu).trans hitem.suffix)
        have hmore := readSeparated_completes (hi₁.of_suffix (suffix_of_upcoming hu))
          (by omega) h
        apply hmore.behind (ys ++ [t])
        · rw [hys, significantTokens_of_upcoming_cons hu, List.append_assoc]
          rfl
        · intro ws hws
          rw [List.append_assoc]
          exact hws.more hyield hspells
      · exact absurd h Reading.not_stuckAt_done
termination_by 5 * input.length + 3

theorem readItems_completes {limit depth : Nat} {close : String} {input ahead : List Token}
    (hi : Token.AreListed input) (hclose : close ∈ closingMarks)
    (hd : depth + 1 + (significantTokens input).length ≤ limit)
    (h : (readItems limit (depth + 1) close input).StuckAt ahead) :
    CompletesTo (AreClosedItems close) (significantTokens input) (significantTokens ahead) := by
  obtain ⟨hoperator, hfiller⟩ := closingMark_listed hclose
  unfold readItems at h
  split at h
  · -- there is no item, and only the closing mark is missing
    have hsame := significantTokens_of_stuckAt_demand (Reading.stuckAt_map_iff.mp h)
    exact .of_fillers hsame hfiller areClosedItems_none
  · rcases h.of_andThen with h | ⟨es, rest, hle, hes, h⟩
    · -- stuck in the items, or in front of the mark that closes them
      exact (readSeparated_completes hi hd h).frame [] _ hfiller rfl fun _ hws =>
        hws.closed (filler_spells _ _)
    · have hsame := significantTokens_of_stuckAt_demand (Reading.stuckAt_map_iff.mp h)
      obtain ⟨-, n, ys, hyield, hys, -⟩ := readSeparated_sound hi hes
      refine ⟨ys, _, by rw [hys, hsame], hfiller, ?_⟩
      exact ⟨es, n, ys, _, hyield, filler_spells _ _, rfl⟩
termination_by 5 * input.length + 4

end

/-- Behind an expression a reading is stuck where what follows is, unless the expression itself
    could not be read. -/
theorem Reading.StuckAt.of_readExpression {β : Type} {limit depth least : Nat}
    {input ahead : List Token}
    {f : Expression → (rest : List Token) → rest.length ≤ input.length → Reading β rest}
    (h : ((readExpression limit depth least input).andThen f).StuckAt ahead)
    (hi : Token.AreListed input) (hd : depth + (significantTokens input).length ≤ limit) :
    CompletesTo (IsExpression least) (significantTokens input) (significantTokens ahead) ∨
      ∃ e rest ys, ∃ hle : rest.length ≤ input.length, rest <:+ input ∧ IsExpression least ys ∧
        significantTokens input = ys ++ significantTokens rest ∧ (f e rest hle).StuckAt ahead := by
  rcases h.of_andThen with h | ⟨e, rest, hle, he, h⟩
  · exact .inl (readExpression_completes hi hd h)
  · obtain ⟨ys, hexpression, hys⟩ := (readExpression_sound hi he).exists_isExpression
    exact .inr ⟨e, rest, ys, hle, he.suffix, hexpression, hys, h⟩

end ScriptCheck
