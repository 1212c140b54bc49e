import ScriptCheck.Proofs.Readings

/-! # The Order of Problems in Expressions

  A problem knows the tokens that were left when it was found, so its place in
  the input is known from how many these are. While an expression is read, places
  only move forward: each problem is found at a later token than the one before
  it, and what is left begins behind the last of them.

  The only problems of expressions are malformed numbers. Each is found at a
  token that is consumed at once, which is why places move strictly.
-/

namespace ScriptCheck

/-! ## Section 1: Places -/

@[simp] theorem upcoming_upcoming (tokens : List Token) :
    upcoming (upcoming tokens) = upcoming tokens := by
  cases hu : upcoming tokens with
  | nil => rfl
  | cons t rest => simp [upcoming, isTrivia_of_upcoming hu]

/-- The significant tokens behind a place do not come before it. -/
theorem upcoming_suffix_upcoming {later tokens : List Token} (h : later <:+ tokens) :
    upcoming later <:+ upcoming tokens := by
  obtain ⟨front, rfl⟩ := h
  unfold upcoming
  rw [List.dropWhile_append]
  split
  · exact List.suffix_rfl
  · exact (List.dropWhile_suffix _).trans (List.suffix_append _ _)

/-- The problem was found at a significant token of the input or at its end. -/
structure Problem.LiesIn (p : Problem) (input : List Token) : Prop where
  ahead_suffix : p.ahead <:+ upcoming input
  upcoming_ahead : upcoming p.ahead = p.ahead

namespace Problem.LiesIn

variable {p : Problem} {input later : List Token}

theorem of_suffix (h : p.LiesIn later) (hs : later <:+ input) : p.LiesIn input :=
  ⟨h.ahead_suffix.trans (upcoming_suffix_upcoming hs), h.upcoming_ahead⟩

theorem suffix (h : p.LiesIn input) : p.ahead <:+ input :=
  h.ahead_suffix.trans (upcoming_suffix input)

theorem length_le (h : p.LiesIn input) : p.ahead.length ≤ input.length := h.suffix.length_le

end Problem.LiesIn

/-! ## Section 2: Readings that move forward -/

namespace Reading

variable {α β : Type} {input : List Token}

/-- Each problem was found at a later token than the one before it, and what is left begins behind
    the last of them. -/
structure Forward (r : Reading α input) : Prop where
  liesIn : ∀ p ∈ r.problems, p.LiesIn input
  descending : r.problems.Pairwise fun p q => q.ahead.length < p.ahead.length
  behind : ∀ p ∈ r.problems, r.rest.length < p.ahead.length

/-- Without problems there is nothing to order. -/
theorem Forward.of_no_problems {r : Reading α input} (h : r.problems = []) : r.Forward where
  liesIn := by simp [h]
  descending := by simp [h]
  behind := by simp [h]

theorem forward_done (a : α) : (done a input).Forward := .of_no_problems rfl

theorem forward_fail (obstacle : Obstacle) : (fail obstacle input : Reading α input).Forward :=
  .of_no_problems rfl

theorem Forward.seenFrom {later : List Token} {r : Reading α later} (h : r.Forward)
    (hs : later <:+ input) : (seenFrom hs r).Forward where
  liesIn p hp := (h.liesIn p hp).of_suffix hs
  descending := h.descending
  behind := h.behind

theorem Forward.map {r : Reading α input} (h : r.Forward) (f : α → β) : (r.map f).Forward :=
  ⟨h.liesIn, h.descending, h.behind⟩

theorem Forward.andThen {r : Reading α input}
    {f : α → (rest : List Token) → rest.length ≤ input.length → Reading β rest} (h : r.Forward)
    (hf : ∀ a rest (hs : rest <:+ input), (f a rest hs.length_le).Forward) :
    (r.andThen f).Forward := by
  obtain ⟨outcome, rest, problems, suffix⟩ := r
  cases outcome with
  -- the second reading is not made, and the first one left its problems behind
  | error obstacle => exact ⟨h.liesIn, h.descending, h.behind⟩
  | ok a =>
    have hnext := hf a rest suffix
    -- what the second reading finds lies in what the first one left
    have hlater (q : Problem) (hq : q ∈ (f a rest suffix.length_le).problems) :
        q.ahead.length ≤ rest.length := (hnext.liesIn q hq).length_le
    constructor
    · intro p hp
      rcases List.mem_append.mp hp with hp | hp
      · exact h.liesIn p hp
      · exact (hnext.liesIn p hp).of_suffix suffix
    · refine List.pairwise_append.mpr ⟨h.descending, hnext.descending, ?_⟩
      intro p hp q hq
      exact Nat.lt_of_le_of_lt (hlater q hq) (h.behind p hp)
    · intro p hp
      rcases List.mem_append.mp hp with hp | hp
      · exact Nat.lt_of_le_of_lt (f a rest suffix.length_le).suffix.length_le (h.behind p hp)
      · exact hnext.behind p hp

end Reading

theorem forward_demand (wanted : Token → Bool) (what : Expectation) (input : List Token) :
    (demand wanted what input).Forward := by
  unfold demand
  split
  · exact .of_no_problems rfl
  · split
    · exact .of_no_problems rfl
    · exact .of_no_problems rfl

/-- A malformed number is found at the token that is read as a value. -/
theorem forward_readValue {input rest : List Token} {t : Token} (h : upcoming input = t :: rest) :
    (Reading.seenFrom (suffix_of_upcoming h) (readValue t rest)).Forward := by
  by_cases ht : t.isMalformedNumber
  · have hproblems : (readValue t rest).problems = [.malformedNumber t rest] := by
      simp [readValue, ht]
    -- the number is the next significant token
    have hlies : (Problem.malformedNumber t rest).LiesIn input := by
      refine ⟨h ▸ List.suffix_rfl, ?_⟩
      rw [Problem.ahead, ← h, upcoming_upcoming]
    constructor
    · simpa [Reading.seenFrom, hproblems] using hlies
    · simp [Reading.seenFrom, hproblems]
    · simp [Reading.seenFrom, Problem.ahead, readValue]
  · exact .of_no_problems (by simp [Reading.seenFrom, readValue, ht])

/-! ## Section 3: The five readers -/

mutual

theorem readOperations_forward (limit depth least : Nat) (left : Expression)
    (input : List Token) : (readOperations limit depth least left input).Forward := by
  cases hu : upcoming input with
  | nil =>
    rw [readOperations_of_nil hu]
    exact Reading.forward_done left
  | cons t rest =>
    have := length_lt_of_upcoming hu
    rw [readOperations_of_cons hu]
    split
    · exact Reading.forward_done left
    · next op hop =>
      split
      · exact Reading.forward_done left
      · -- the right operand and the loop behind it, each on what is left
        apply Reading.Forward.seenFrom
        apply (readExpression_forward limit (depth + 1) (op.precedence + 1) rest).andThen
        intro right rest' hs
        have := hs.length_le
        exact readOperations_forward limit depth least (.binary op left right) rest'
termination_by 5 * input.length

theorem readOperand_forward (limit depth : Nat) (input : List Token) :
    (readOperand limit depth input).Forward := by
  by_cases hd : depth ≤ limit
  · cases hu : upcoming input with
    | nil =>
      rw [readOperand_of_nil hd hu]
      exact Reading.forward_fail _
    | cons t rest =>
      have := length_lt_of_upcoming hu
      rw [readOperand_of_cons hd hu]
      cases hhead : t.operandHead? with
      | none => exact Reading.forward_fail _
      | some head =>
        -- only a number and what is in brackets can have problems
        cases head with
        | literal => exact forward_readValue hu
        | name =>
          simp only
          split
          · apply Reading.Forward.seenFrom
            apply (forward_demand _ _ _).andThen
            intro _ rest' hs
            have := hs.length_le
            exact (readItems_forward limit (depth + 1) ")" rest').map _
          · exact forward_readValue hu
        | group =>
          apply Reading.Forward.seenFrom
          apply (readExpression_forward limit (depth + 1) 0 rest).andThen
          intro inner rest' _
          exact (forward_demand _ _ _).map _
        | list close => exact ((readItems_forward limit (depth + 1) close rest).map _).seenFrom _
  · have hlimit : limit < depth := by omega
    rw [readOperand, if_pos hlimit]
    exact Reading.forward_fail _
termination_by 5 * input.length + 1

theorem readExpression_forward (limit depth least : Nat) (input : List Token) :
    (readExpression limit depth least input).Forward := by
  rw [readExpression]
  apply (readOperand_forward limit depth input).andThen
  intro left rest hs
  have := hs.length_le
  exact readOperations_forward limit depth least left rest
termination_by 5 * input.length + 2

theorem readSeparated_forward (limit depth : Nat) (input : List Token) :
    (readSeparated limit depth input).Forward := by
  rw [readSeparated]
  apply (readExpression_forward limit depth 0 input).andThen
  intro e rest hs
  have := hs.length_le
  split
  · exact Reading.forward_done _
  · next t rest' hu =>
    have := length_lt_of_upcoming hu
    split
    · exact ((readSeparated_forward limit depth rest').map _).seenFrom _
    · exact Reading.forward_done _
termination_by 5 * input.length + 3

theorem readItems_forward (limit depth : Nat) (close : String) (input : List Token) :
    (readItems limit depth close input).Forward := by
  unfold readItems
  split
  · exact (forward_demand _ _ _).map _
  · apply (readSeparated_forward limit depth input).andThen
    intro items rest _
    exact (forward_demand _ _ _).map _
termination_by 5 * input.length + 4

end

end ScriptCheck
