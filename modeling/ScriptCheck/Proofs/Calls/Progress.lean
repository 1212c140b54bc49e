import ScriptCheck.Proofs.Calls.Origins

/-! # Progress

  A check comes to an end on all tokens, also on such as no text has: their lines
  may decrease and their spans overlap. Calls lead to calls only as long as there
  is something to consume, and a list of statements takes a token away at every
  turn. What it takes away it answers for, with a statement or with a problem, and
  a program goes on until nothing significant is left.

  So the outcome is never undecided: a check finds an error and says which, or it
  shows a tree.
-/

namespace ScriptCheck

/-! ## Section 1: Turns of a list of statements -/

/-- What a list of statements does first. -/
inductive Turn (limit depth : Nat) (scope : Scope) (input : List Token) : Prop
  /-- The list ends. In a program this means that the input does. -/
  | ended (hend : upcoming input = [] ∨ scope = .body)
      (h : readStatements limit depth scope input = .done input)
  /-- The list consumes at least one token and reads on. There is a statement to show for it or a
      problem with the token that came next. -/
  | taken {ss : List Statement} {ps : List Problem} {t : Token} {ahead left : List Token}
      (hu : upcoming input = t :: ahead) (hs : left <:+ input)
      (hshorter : left.length < input.length)
      (hshown : ss ≠ [] ∨ ∃ obstacle fault, .blocked obstacle (some t) fault ∈ ps)
      (h : readStatements limit depth scope input =
        (readStatements limit depth scope left).precededBy hs ss ps)

/-- A statement that starts with a token is a turn, whether it can be read or not. -/
theorem turn_of_head {limit depth : Nat} {scope : Scope} {input rest : List Token} {t : Token}
    {head : StatementHead} (hu : upcoming input = t :: rest) (ht : t.statementHead? = some head) :
    Turn limit depth scope input := by
  have heq : readStatements limit depth scope input =
      .precededBy (suffix_of_upcoming hu) [] []
        ((readStatement limit depth head t.lexeme rest).continueWith t fun left _ =>
          readStatements limit depth scope left) := readStatements_of_head hu ht
  have hlt := length_lt_of_upcoming hu
  have hrest := suffix_of_upcoming hu
  -- of the statement only its outcome and what it leaves matter from here on
  generalize readStatement limit depth head t.lexeme rest = r at heq
  obtain ⟨outcome, left, problems, suffix⟩ := r
  cases outcome with
  | ok s =>
    have hshorter := Nat.lt_of_le_of_lt suffix.length_le hlt
    exact .taken hu (suffix.trans hrest) hshorter (.inl (List.cons_ne_nil s [])) heq
  | error obstacle =>
    -- reading is resumed no earlier than where the statement met its obstacle
    have hs := (resume_suffix (upcoming left) left).trans suffix
    have hshorter := Nat.lt_of_le_of_lt hs.length_le hlt
    have hshown : .blocked obstacle (some t) (upcoming left) ∈
        problems ++ [.blocked obstacle (some t) (upcoming left)] :=
      List.mem_append_right problems (List.mem_singleton_self _)
    exact .taken hu (hs.trans hrest) hshorter (.inr ⟨_, _, hshown⟩) heq

/-- Every turn of a list of statements ends the list or consumes a token. -/
theorem turn (limit depth : Nat) (scope : Scope) (input : List Token) :
    Turn limit depth scope input := by
  cases hu : upcoming input with
  | nil => exact .ended (.inl hu) (readStatements_of_nil hu)
  | cons t rest =>
    cases ht : t.statementHead? with
    | some head => exact turn_of_head hu ht
    | none =>
      cases scope with
      | body => exact .ended (.inr rfl) (readStatements_body_of_none hu ht)
      | program =>
        -- the first token is left out of the search, so that at least this one is consumed
        have hpos := List.length_pos_iff.mpr (ne_nil_of_upcoming hu)
        exact .taken hu (resume_tail_suffix (t :: rest) input)
          (resume_tail_length_lt (t :: rest) hpos) (.inr ⟨_, _, List.mem_singleton_self _⟩)
          (readStatements_program_of_none hu ht)

/-- A program is read to its end. -/
theorem upcoming_rest_readStatements (limit depth : Nat) (input : List Token) :
    upcoming (readStatements limit depth .program input).rest = [] := by
  -- along the length of the input, which every turn but the last shortens
  induction hn : input.length using Nat.strongRecOn generalizing input with
  | ind n ih =>
    cases turn limit depth .program input with
    | ended hend h =>
      rw [h]
      rcases hend with hu | hscope
      · exact hu
      · cases hscope
    | taken hu hs hshorter hshown h =>
      rw [h]
      exact ih _ (hn ▸ hshorter) _ rfl

/-! ## Section 2: Outcomes of checks -/

section checks
variable {limit : Nat} {tokens : List Token}

/-- A check without an error has a tree. -/
theorem SyntaxCheck.exists_tree (h : (checkSyntax limit tokens).succeeded = true) :
    ∃ tree, (checkSyntax limit tokens).tree = some tree := by
  obtain ⟨ss, rest, hne, hclean⟩ := checkSyntax_succeeded_iff.mp h
  exact ⟨_, checkSyntax_tree_of_clean hne hclean⟩

theorem SyntaxCheck.result_of_not_succeeded {check : SyntaxCheck} (h : check.succeeded = false) :
    check.result = .error check.diagnostics := by
  simp [result, h]

/-- A check gives its tree exactly if it finds no error. -/
theorem SyntaxCheck.succeeded_iff_result :
    (checkSyntax limit tokens).succeeded = true ↔
      ∃ tree, (checkSyntax limit tokens).tree = some tree ∧
        (checkSyntax limit tokens).result = .ok tree := by
  constructor
  · intro h
    obtain ⟨tree, htree⟩ := exists_tree h
    exact ⟨tree, htree, result_eq_ok_iff.mpr ⟨h, htree⟩⟩
  · intro ⟨tree, htree, hresult⟩
    exact (result_eq_ok_iff.mp hresult).1

/-- Otherwise it gives its diagnostics, and there are some. -/
theorem SyntaxCheck.diagnostics_of_error {ds : List Diagnostic}
    (h : (checkSyntax limit tokens).result = .error ds) :
    ds = (checkSyntax limit tokens).diagnostics ∧ ds ≠ [] := by
  cases hsucceeded : (checkSyntax limit tokens).succeeded with
  | true =>
    obtain ⟨tree, -, hresult⟩ := succeeded_iff_result.mp hsucceeded
    cases hresult.symm.trans h
  | false =>
    rw [result_of_not_succeeded hsucceeded] at h
    obtain rfl := Except.error.inj h
    refine ⟨rfl, ?_⟩
    simpa [succeeded] using hsucceeded

end checks

/-! ## Section 3: The main result -/

/-- A check ends on all tokens and leaves none of them unanswered. Chains of calls are bounded by
    the number of tokens. No call is deeper than the tokens consumed before it are many, so that a
    depth is always representable where the number of tokens is; and these depths are the ones that
    are held against the limit. Every turn of a list of statements ends it or consumes a token, and
    a program leaves nothing significant. The check succeeds exactly if there are no diagnostics;
    then it gives a tree, and otherwise diagnostics. -/
theorem checkSyntax_ends (limit : Nat) (tokens : List Token) :
    (∀ calls, List.IsChain (Call.Makes limit) (.ofProgram tokens :: calls) →
        calls.length ≤ 9 * tokens.length + 5) ∧
      (∀ c, Call.Reaches limit (.ofProgram tokens) c →
        ∃ consumed, tokens = consumed ++ c.input ∧ c.depth ≤ consumed.length ∧
          (tokens.length < UInt64.size → c.depth < UInt64.size)) ∧
      (∀ start ahead, .blocked .tooDeep start ahead ∈ (readProgram limit tokens).problems →
        ∃ c, Call.Reaches limit (.ofProgram tokens) c ∧ limit < c.depth ∧
          upcoming c.input = ahead) ∧
      (∀ depth scope input, Turn limit depth scope input) ∧
      significantTokens (readStatements limit 0 .program tokens).rest = [] ∧
      ((checkSyntax limit tokens).succeeded = true ↔
        (checkSyntax limit tokens).diagnostics = []) ∧
      ((checkSyntax limit tokens).succeeded = true ↔
        ∃ tree, (checkSyntax limit tokens).tree = some tree ∧
          (checkSyntax limit tokens).result = .ok tree) ∧
      ∀ ds, (checkSyntax limit tokens).result = .error ds →
        ds = (checkSyntax limit tokens).diagnostics ∧ ds ≠ [] := by
  refine ⟨?chains, ?depths, ?nesting, turn limit, ?finished, ?success,
    SyntaxCheck.succeeded_iff_result, fun ds => SyntaxCheck.diagnostics_of_error⟩
  case chains =>
    intro calls hchain
    exact Call.length_le_weight hchain
  case depths =>
    intro c hreaches
    obtain ⟨consumed, hconsumed, hdepth⟩ := hreaches.exists_consumed
    have hsignificant : (significantTokens consumed).length ≤ consumed.length :=
      List.length_filter_le _ _
    have hlength := congrArg List.length hconsumed
    rw [List.length_append] at hlength
    exact ⟨consumed, hconsumed, by omega, by omega⟩
  case nesting =>
    intro start ahead hproblem
    exact Call.exists_exceeds_of_tooDeep hproblem
  case finished =>
    exact significantTokens_of_upcoming_nil (upcoming_rest_readStatements limit 0 tokens)
  case success => simp [SyntaxCheck.succeeded]

/-- The theorem at tokens whose lines decrease and whose spans overlap: the calls lead down to an
    operand that the limit excludes. -/
theorem checkSyntax_ends_overlapping :
    let tokens : List Token :=
      [⟨.identifier, "x", 5, 1, .between 0 9⟩, ⟨.operator, "=", 4, 1, .between 3 7⟩,
        ⟨.delimiter, "(", 3, 1, .between 2 5⟩, ⟨.number, "1", 2, 1, .between 0 4⟩]
    let innermost : Call := .operand 1 (tokens.drop 3)
    let calls : List Call :=
      [.statement 0 .name "x" (tokens.drop 1), .named 0 "x" (tokens.drop 1),
        .expression 0 0 (tokens.drop 2), .operand 0 (tokens.drop 2),
        .expression 1 0 (tokens.drop 3), innermost]
    List.IsChain (Call.Makes 0) (.ofProgram tokens :: calls) ∧
      calls.length ≤ 9 * tokens.length + 5 ∧
      Call.Reaches 0 (.ofProgram tokens) innermost ∧
      (∃ consumed, tokens = consumed ++ innermost.input ∧ innermost.depth ≤ consumed.length) ∧
      (∃ c, Call.Reaches 0 (.ofProgram tokens) c ∧ 0 < c.depth ∧
        upcoming c.input = tokens.drop 3) ∧
      ∃ ds, (checkSyntax 0 tokens).result = .error ds ∧ ds ≠ [] := by
  intro tokens innermost calls
  obtain ⟨hchains, hdepths, hnesting, -, -, -, -, herror⟩ := checkSyntax_ends 0 tokens
  have hfirst : Call.Makes 0 (.ofProgram tokens) (.statement 0 .name "x" (tokens.drop 1)) :=
    .firstStatement (t := tokens[0]) rfl rfl
  have hgroup : Call.Makes 0 (.operand 0 (tokens.drop 2)) (.expression 1 0 (tokens.drop 3)) :=
    .group (Nat.le_refl 0) rfl (by decide)
  -- the calls go from the program through the value of `x` into the brackets
  have hchain : List.IsChain (Call.Makes 0) (.ofProgram tokens :: calls) :=
    .cons_cons hfirst <| .cons_cons .named <| .cons_cons (.assigned ⟨rfl, rfl⟩) <|
      .cons_cons .leftOperand <| .cons_cons hgroup <| .cons_cons .leftOperand <| .singleton _
  have hreaches : Call.Reaches 0 (.ofProgram tokens) innermost :=
    List.relationReflTransGen_of_exists_isChain_cons calls hchain rfl
  obtain ⟨consumed, hconsumed, hdepth, -⟩ := hdepths innermost hreaches
  have hproblem : .blocked .tooDeep (some tokens[0]) (tokens.drop 3) ∈
      (readProgram 0 tokens).problems := by decide +kernel
  have hresult : (checkSyntax 0 tokens).result =
      .error (checkSyntax 0 tokens).diagnostics := by
    apply SyntaxCheck.result_of_not_succeeded
    decide +kernel
  exact ⟨hchain, hchains calls hchain, hreaches, ⟨consumed, hconsumed, hdepth⟩,
    hnesting _ _ hproblem, _, hresult, (herror _ hresult).2⟩

end ScriptCheck
