import ScriptCheck.Proofs.FirstError.Expressions
import ScriptCheck.Proofs.Soundness.Programs

/-! # Stuck Programs Can Be Completed

  Where the reading of a program gets stuck for the first time, what was read
  before is the beginning of a program. A missing body becomes the simplest one,
  and whatever was read before the statement that got stuck stays as it is.

  The completed program has to be greedy. The statements that stand in front of
  another one are simple, since a body would have taken what stands behind it;
  and only the last of the completed statements is one that has been completed.
-/

namespace ScriptCheck

open ExpressionPhrase StatementPhrase

/-! ## Section 1: What is completed -/

def IsGreedyStatement (ws : List Token) : Prop :=
  ∃ s n, (statement s).Yields n ws ∧ s.isGreedy = true

def AreGreedyStatements (ws : List Token) : Prop :=
  ∃ ss n, (statements ss).Yields n ws ∧ Statement.areGreedy ss = true

/-- The tokens are a yield of a greedy body with the colon in front of it. -/
def IsGreedyBody (ws : List Token) : Prop :=
  ∃ ss n, (body ss).Yields n ws ∧ Statement.areGreedy ss = true

/-- The tokens are a yield of an expression and of a greedy body behind it. -/
def IsHeadedBody (ws : List Token) : Prop :=
  ∃ ys zs, ws = ys ++ zs ∧ IsExpression 0 ys ∧ IsGreedyBody zs

section phrases
variable {word t : Token} {n : Nat} {ys zs ws : List Token}

theorem IsExpression.assign {least : Nat} (ht : t.kind = .identifier) {sign : Token}
    (hsign : sign.Spells .operator "=") (h : IsExpression least ws) :
    IsGreedyStatement (t :: sign :: ws) := by
  obtain ⟨top, e, n, hyields, -⟩ := h
  exact ⟨.assign t.lexeme e, n, .assign ht hsign hyields, rfl⟩

theorem AreClosedItems.callStatement (ht : t.kind = .identifier) {opening : Token}
    (hopening : opening.Spells .delimiter "(") (h : AreClosedItems ")" ws) :
    IsGreedyStatement (t :: opening :: ws) := by
  obtain ⟨es, n, ys, closing, hyields, hclosing, rfl⟩ := h
  exact ⟨.call t.lexeme es, n, .call ht hopening hyields hclosing, rfl⟩

theorem IsExpression.print {least : Nat} {opening closing : Token}
    (hword : word.Spells .keyword "print") (hopening : opening.Spells .delimiter "(")
    (h : IsExpression least ws) (hclosing : closing.Spells .delimiter ")") :
    IsGreedyStatement (word :: opening :: (ws ++ [closing])) := by
  obtain ⟨top, e, n, hyields, -⟩ := h
  exact ⟨.print e, n + 1, .print hword hopening hyields hclosing, rfl⟩

theorem IsExpression.returnValue {least : Nat} (hword : word.Spells .keyword "return")
    (h : IsExpression least ws) : IsGreedyStatement (word :: ws) := by
  obtain ⟨top, e, n, hyields, -⟩ := h
  exact ⟨.returnValue e, n, .returnValue hword hyields, rfl⟩

theorem IsHeadedBody.ifThen (hword : word.Spells .keyword "if") (h : IsHeadedBody ws) :
    IsGreedyStatement (word :: ws) := by
  obtain ⟨ys, zs, rfl, ⟨top, e, n, hyields, -⟩, ss, m, hbody, hgreedy⟩ := h
  exact ⟨.ifThen e ss, max n m, .ifThen hword hyields hbody, hgreedy⟩

theorem IsHeadedBody.whileLoop (hword : word.Spells .keyword "while") (h : IsHeadedBody ws) :
    IsGreedyStatement (word :: ws) := by
  obtain ⟨ys, zs, rfl, ⟨top, e, n, hyields, -⟩, ss, m, hbody, hgreedy⟩ := h
  exact ⟨.whileLoop e ss, max n m, .whileLoop hword hyields hbody, hgreedy⟩

theorem IsHeadedBody.forLoop {name inWord : Token} (hword : word.Spells .keyword "for")
    (hname : name.kind = .identifier) (hin : inWord.Spells .keyword "in") (h : IsHeadedBody ws) :
    IsGreedyStatement (word :: name :: inWord :: ws) := by
  obtain ⟨ys, zs, rfl, ⟨top, e, n, hyields, -⟩, ss, m, hbody, hgreedy⟩ := h
  exact ⟨.forLoop name.lexeme e ss, max n m, .forLoop hword hname hin hyields hbody, hgreedy⟩

theorem IsGreedyBody.define {name opening closing : Token} {ps : List String}
    (hword : word.Spells .keyword "def") (hname : name.kind = .identifier)
    (hopening : opening.Spells .delimiter "(") (hparameters : IsParameterList ps ys)
    (hclosing : closing.Spells .delimiter ")") (h : IsGreedyBody ws) :
    IsGreedyStatement (word :: name :: opening :: (ys ++ closing :: ws)) := by
  obtain ⟨ss, m, hbody, hgreedy⟩ := h
  exact ⟨.define name.lexeme ps ss, m,
    .define hword hname hopening hparameters hclosing hbody, hgreedy⟩

theorem IsGreedyBody.ifElse {least : Nat} {other : Token} {ss : List Statement}
    (hword : word.Spells .keyword "if") (hcondition : IsExpression least ys)
    (hbody : (body ss).Yields n zs) (hgreedy : Statement.areGreedy ss = true)
    (hleft : Statement.lastTakesElse ss = false) (hother : other.Spells .keyword "else")
    (h : IsGreedyBody ws) : IsGreedyStatement (word :: (ys ++ (zs ++ other :: ws))) := by
  obtain ⟨top, e, m, hyields, -⟩ := hcondition
  obtain ⟨ss', m', hotherwise, hgreedy'⟩ := h
  refine ⟨.ifElse e ss ss', _, .ifElse hword hyields hbody hother hotherwise, ?_⟩
  simp [Statement.isGreedy, hleft, hgreedy, hgreedy']

theorem IsGreedyStatement.statements (h : IsGreedyStatement ws) : AreGreedyStatements ws := by
  obtain ⟨s, n, hyields, hgreedy⟩ := h
  exact ⟨[s], n, .last hyields, by simp [Statement.areGreedy, hgreedy]⟩

theorem AreGreedyStatements.body {colon : Token} (hcolon : colon.Spells .delimiter ":")
    (h : AreGreedyStatements ws) : IsGreedyBody (colon :: ws) := by
  obtain ⟨ss, n, hyields, hgreedy⟩ := h
  exact ⟨ss, n + 1, .body hcolon hyields, hgreedy⟩

theorem areGreedyStatements_filler : AreGreedyStatements fillerStatement :=
  ((isOperand_filler.isExpression : IsExpression 0 _).assign rfl (filler_spells _ _)).statements

theorem isGreedyBody_filler : IsGreedyBody fillerBody :=
  areGreedyStatements_filler.body (filler_spells _ _)

theorem isHeadedBody_filler : IsHeadedBody (filler .identifier "x" :: fillerBody) :=
  ⟨_, _, rfl, isOperand_filler.isExpression, isGreedyBody_filler⟩

end phrases

/-! ## Section 2: Simple statements and parameters -/

section simple
variable {limit depth : Nat} {input ahead : List Token} {t : Token}

theorem readNamed_completes (hi : Token.AreListed input)
    (hd : depth + (significantTokens input).length ≤ limit) (ht : t.kind = .identifier)
    (h : (readNamed limit depth t.lexeme input).StuckAt ahead) :
    CompletesTo IsGreedyStatement (t :: significantTokens input) (significantTokens ahead) := by
  -- a name alone is completed to an assignment
  have hmissing (hsame : significantTokens ahead = significantTokens input) :
      CompletesTo IsGreedyStatement (t :: significantTokens input) (significantTokens ahead) := by
    refine ⟨[t], [filler .operator "=", filler .identifier "x"], by rw [hsame]; rfl, by decide, ?_⟩
    exact (isOperand_filler.isExpression : IsExpression 0 _).assign ht (filler_spells _ _)
  unfold readNamed at h
  split at h
  · -- an assignment: stuck at its sign or in its value
    rcases h.of_demand with hsame | ⟨sign, rest, hle, hu, hsign, h⟩
    · exact hmissing hsame
    · have hspells := (hi.of_upcoming hu).spells_operator (by decide) hsign
      have hs := suffix_of_upcoming hu
      have hshorter := significantTokens_length_le hs
      rw [significantTokens_of_upcoming_cons hu]
      exact (readExpression_completes (hi.of_suffix hs) (by omega)
        (Reading.stuckAt_map_iff.mp h)).behind [t, sign] rfl fun _ hws => hws.assign ht hspells
  · split at h
    · -- a call: stuck at its parenthesis or in its arguments
      rcases h.of_demandPunctuation hi (by decide) with
        hsame | ⟨opening, rest, hle, hs, hopening, hsig, h⟩
      · exact hmissing hsame
      · rw [hsig, List.length_cons] at hd
        rw [hsig]
        exact (readItems_completes (hi.of_suffix hs) (by decide) (by omega)
          (Reading.stuckAt_map_iff.mp h)).behind [t, opening] rfl
          fun _ hws => hws.callStatement ht hopening
    · exact hmissing (Reading.significantTokens_of_stuckAt_fail h)

theorem readPrint_completes (hi : Token.AreListed input)
    (hd : depth + (significantTokens input).length ≤ limit) (ht : t.Spells .keyword "print")
    (h : (readPrint limit depth input).StuckAt ahead) :
    CompletesTo IsGreedyStatement (t :: significantTokens input) (significantTokens ahead) := by
  -- stuck at the opening parenthesis, in the argument or at the closing parenthesis
  rcases h.of_demandPunctuation hi (by decide) with
    hsame | ⟨opening, rest₁, hle₁, hs, hopening, hsig, h⟩
  · refine ⟨[t], [filler .delimiter "(", filler .identifier "x", filler .delimiter ")"],
      by rw [hsame]; rfl, by decide, ?_⟩
    exact (isOperand_filler.isExpression : IsExpression 0 _).print ht (filler_spells _ _)
      (filler_spells _ _)
  · rw [hsig, List.length_cons] at hd
    rw [hsig]
    rcases h.of_readExpression (hi.of_suffix hs) (by omega) with
      hcompletes | ⟨argument, rest₂, ys, hle₂, -, hexpression, hys, h⟩
    · exact hcompletes.frame [t, opening] [filler .delimiter ")"] (by decide) rfl
        fun _ hws => hws.print ht hopening (filler_spells _ _)
    · have hsame := significantTokens_of_stuckAt_demand (Reading.stuckAt_map_iff.mp h)
      refine ⟨t :: opening :: ys, [filler .delimiter ")"], by rw [hys, hsame]; rfl, by decide, ?_⟩
      exact hexpression.print ht hopening (filler_spells _ _)

/-- A list of parameters ends in front of whatever does not belong to it. -/
theorem not_stuckAt_readParameters : ¬ (readParameters input).StuckAt ahead := by
  cases hu : upcoming input with
  | nil =>
    rw [readParameters_of_nil hu]
    exact Reading.not_stuckAt_done
  | cons name rest =>
    rw [readParameters_of_cons hu]
    split
    · -- with a name in front it gives parameters and reports nothing
      rintro (⟨-, -, _, h⟩ | ⟨_, _, _, h⟩)
      · cases h
      · cases h
    · exact Reading.not_stuckAt_done

end simple

/-! ## Section 3: The four readers -/

/-- An expression and the body behind it, if the reading of such a body can be completed. -/
theorem readHeadedBody_completes {limit depth : Nat} {input ahead : List Token}
    {make : Expression → List Statement → Statement} (hi : Token.AreListed input)
    (hd : depth + (significantTokens input).length ≤ limit)
    (hbody : ∀ rest, rest <:+ input → (readBody limit depth rest).StuckAt ahead →
      CompletesTo IsGreedyBody (significantTokens rest) (significantTokens ahead))
    (h : ((readExpression limit depth 0 input).andThen fun e rest _ =>
      (readBody limit depth rest).map (make e)).StuckAt ahead) :
    CompletesTo IsHeadedBody (significantTokens input) (significantTokens ahead) := by
  -- stuck in the expression, which the simplest body completes, or in the body itself
  rcases h.of_readExpression hi hd with hcompletes | ⟨e, rest, ys, hle, hs, hexpression, hys, h⟩
  · exact hcompletes.frame [] fillerBody (by decide) rfl
      fun ws hws => ⟨ws, _, rfl, hws, isGreedyBody_filler⟩
  · exact (hbody rest hs (Reading.stuckAt_map_iff.mp h)).behind ys hys
      fun ws hws => ⟨ys, ws, rfl, hexpression, hws⟩

/-- The second body of a conditional, behind the first one. -/
theorem readElse_completes {limit depth : Nat} {e : Expression} {ss : List Statement} {word : Token}
    {ys tokens input ahead : List Token} (hword : word.Spells .keyword "if")
    (hcondition : IsExpression 0 ys)
    (hfirst : ReadsBody limit depth ss tokens (significantTokens input))
    (hbody : ∀ rest, rest <:+ input → (readBody limit depth rest).StuckAt ahead →
      CompletesTo IsGreedyBody (significantTokens rest) (significantTokens ahead))
    (h : (readElse limit depth e ss input).StuckAt ahead) :
    CompletesTo IsGreedyStatement (word :: (ys ++ tokens)) (significantTokens ahead) := by
  cases hu : upcoming input with
  | nil =>
    rw [readElse_of_nil hu] at h
    exact absurd h Reading.not_stuckAt_done
  | cons other rest =>
    rw [readElse_of_cons hu] at h
    rw [significantTokens_of_upcoming_cons hu] at hfirst
    split at h
    · next helse =>
      have hother := Token.isKeyword_iff.mp helse
      obtain ⟨htook, n, zs, hyields, rfl, -⟩ := hfirst
      -- the first body is followed by the `else` and did not take it
      have hleft := htook.lastTakesElse_eq_false hother
      apply (hbody rest (suffix_of_upcoming hu) (Reading.stuckAt_map_iff.mp h)).behind
        (word :: (ys ++ (zs ++ [other])))
      · simp
      · intro ws hws
        have hifElse := hws.ifElse hword hcondition hyields htook.greedy hleft hother
        simpa using hifElse
    · exact absurd h Reading.not_stuckAt_done

mutual

/-- In a program nothing may have been read in front of the token at fault. Otherwise a statement
    has been begun. -/
theorem readStatements_completes {limit depth : Nat} {scope : Scope} {input ahead : List Token}
    (hi : Token.AreListed input) (hd : depth + (significantTokens input).length ≤ limit)
    (h : (readStatements limit depth scope input).toReading.StuckAt ahead) :
    (scope = .program ∧ significantTokens ahead = significantTokens input) ∨
      (¬ StartsNoStatement (significantTokens input) ∧
        CompletesTo AreGreedyStatements (significantTokens input) (significantTokens ahead)) := by
  cases hu : upcoming input with
  | nil =>
    rw [readStatements_of_nil hu] at h
    exact absurd h Reading.not_stuckAt_done
  | cons t rest =>
    have hlt := length_lt_of_upcoming hu
    have hsig := significantTokens_of_upcoming_cons hu
    have hi₁ := hi.of_suffix (suffix_of_upcoming hu)
    cases ht : t.statementHead? with
    | none =>
      cases scope with
      | body =>
        rw [readStatements_body_of_none hu ht] at h
        exact absurd h Reading.not_stuckAt_done
      | program =>
        rw [readStatements_program_of_none hu ht] at h
        -- the token that starts no statement is reported as the first problem
        rcases h with ⟨-, -, _, h⟩ | ⟨obstacle, start, problems, h⟩
        · cases h
        · obtain ⟨hp, -⟩ := List.cons.inj h
          left
          rw [← (Problem.blocked.inj hp).2.2, ← hu, significantTokens_upcoming]
          exact ⟨rfl, rfl⟩
    | some head =>
      right
      refine ⟨fun hnone => by simp [hnone t (by simp [hsig])] at ht, ?_⟩
      rw [readStatements_of_head hu ht] at h
      have hd₁ : depth + (significantTokens rest).length ≤ limit := by
        rw [hsig, List.length_cons] at hd
        omega
      rw [hsig]
      have h : ((readStatement limit depth head t.lexeme rest).continueWith t fun left _ =>
          readStatements limit depth scope left).toReading.StuckAt ahead := h
      -- stuck in the first statement, or in the list behind it
      rcases h.of_continueWith with h | ⟨s, mid, hle, hs, h⟩
      · exact (readStatement_completes hi₁ hd₁ ht h).mono fun _ => IsGreedyStatement.statements
      · obtain ⟨htook, n, ys, hyields, hys, -⟩ := readStatement_sound hi₁ (by omega) ht hs
        have hshorter := significantTokens_length_le hs.suffix
        rcases readStatements_completes (hi₁.of_suffix hs.suffix) (by omega) h with
          ⟨-, hsame⟩ | ⟨hstarts, hmore⟩
        -- nothing was begun behind the statement, so it is the last one
        · refine ⟨ys, [], by rw [hys, hsame], by decide, [s], n, ?_, ?_⟩
          · rw [List.append_nil]
            exact .last hyields
          · simp [Statement.areGreedy, htook.greedy]
        -- a body of the statement would have taken what has been begun behind it
        · have hsimple : s.isSimple = true := by
            by_cases hcompound : s.isSimple = false
            · exact absurd (htook.noStatement hcompound) hstarts
            · simpa using hcompound
          apply hmore.behind ys hys
          intro ws ⟨ss, m, hyields', hgreedy⟩
          refine ⟨s :: ss, max n m, .more hyields hyields', ?_⟩
          simp [Statement.areGreedy, htook.greedy, hsimple, hgreedy]
termination_by 4 * input.length

theorem readBlock_completes {limit depth : Nat} {input ahead : List Token}
    (hi : Token.AreListed input) (hd : depth + (significantTokens input).length ≤ limit)
    (h : (readBlock limit depth input).StuckAt ahead) :
    CompletesTo AreGreedyStatements (significantTokens input) (significantTokens ahead) := by
  -- where no statement starts, any statement completes the body
  have hmissing (h : (Reading.fail (.expected .statement) input :
      Reading (List Statement) input).StuckAt ahead) :
      CompletesTo AreGreedyStatements (significantTokens input) (significantTokens ahead) := by
    exact .of_fillers (Reading.significantTokens_of_stuckAt_fail h) (by decide)
      areGreedyStatements_filler
  unfold readBlock at h
  split at h
  · -- the body is within the limit
    omega
  · split at h
    · exact hmissing h
    · split at h
      · rcases readStatements_completes hi hd h with ⟨hscope, -⟩ | ⟨-, hcompletes⟩
        · cases hscope
        · exact hcompletes
      · exact hmissing h
termination_by 4 * input.length + 1

theorem readBody_completes {limit depth : Nat} {input ahead : List Token}
    (hi : Token.AreListed input) (hd : depth + (significantTokens input).length ≤ limit)
    (h : (readBody limit depth input).StuckAt ahead) :
    CompletesTo IsGreedyBody (significantTokens input) (significantTokens ahead) := by
  rw [readBody] at h
  rcases h.of_demandPunctuation hi (by decide) with
    hsame | ⟨colon, rest, hle, hs, hcolon, hsig, h⟩
  · exact .of_fillers hsame (by decide) isGreedyBody_filler
  · rw [hsig, List.length_cons] at hd
    rw [hsig]
    exact (readBlock_completes (hi.of_suffix hs) (by omega) h).behind [colon] rfl
      fun _ hws => hws.body hcolon
termination_by 4 * input.length + 2

theorem readStatement_completes {limit depth : Nat} {head : StatementHead} {t : Token}
    {input ahead : List Token} (hi : Token.AreListed input)
    (hd : depth + (significantTokens input).length ≤ limit) (ht : t.statementHead? = some head)
    (h : (readStatement limit depth head t.lexeme input).StuckAt ahead) :
    CompletesTo IsGreedyStatement (t :: significantTokens input) (significantTokens ahead) := by
  have hword := Token.statementHead?_eq_some_iff.mp ht
  -- a body further on has no less room for nesting
  have hbody {rest : List Token} (hs : rest <:+ input)
      (h : (readBody limit depth rest).StuckAt ahead) :
      CompletesTo IsGreedyBody (significantTokens rest) (significantTokens ahead) := by
    have := hs.length_le
    have := significantTokens_length_le hs
    exact readBody_completes (hi.of_suffix hs) (by omega) h
  cases head with
  | name =>
    rw [readStatement] at h
    exact readNamed_completes hi hd hword h
  | printWord =>
    rw [readStatement] at h
    exact readPrint_completes hi hd hword h
  | returnWord =>
    rw [readStatement] at h
    exact (readExpression_completes hi hd (Reading.stuckAt_map_iff.mp h)).behind [t] rfl
      fun _ hws => hws.returnValue hword
  | ifWord =>
    rw [readStatement_if] at h
    rcases h.of_readExpression hi hd with
      hcompletes | ⟨e, rest₁, ys, hle₁, hs₁, hcondition, hys, h⟩
    · -- the condition is completed in front of the simplest body
      exact hcompletes.frame [t] fillerBody (by decide) rfl
        fun ws hws => IsHeadedBody.ifThen hword ⟨ws, _, rfl, hws, isGreedyBody_filler⟩
    · rw [hys]
      -- stuck in the first body, or in the second one
      rcases h.of_andThen with h | ⟨ss, rest₂, hle₂, hss, h⟩
      · exact (hbody hs₁ h).behind (t :: ys) rfl
          fun ws hws => IsHeadedBody.ifThen hword ⟨ys, ws, rfl, hcondition, hws⟩
      · exact readElse_completes hword hcondition (readBody_sound (hi.of_suffix hs₁) hss)
          (fun _ hs => hbody (hs.trans (hss.suffix.trans hs₁))) h
  | whileWord =>
    rw [readStatement] at h
    exact (readHeadedBody_completes hi hd (fun _ => hbody) h).behind [t] rfl
      fun _ hws => hws.whileLoop hword
  | forWord =>
    rw [readStatement] at h
    -- whatever is missing in the header, the simplest body comes behind it
    rcases h.of_demand with hsame | ⟨name, rest₁, hle₁, hu₁, hname, h⟩
    · refine ⟨[t], filler .identifier "x" :: filler .keyword "in" :: filler .identifier "x" ::
        fillerBody, by rw [hsame]; rfl, by decide, ?_⟩
      exact isHeadedBody_filler.forLoop hword rfl (filler_spells _ _)
    · have hname : name.kind = .identifier := by simpa using hname
      rw [significantTokens_of_upcoming_cons hu₁]
      rcases h.of_demand with hsame | ⟨inWord, rest₂, hle₂, hu₂, hin, h⟩
      · refine ⟨[t, name], filler .keyword "in" :: filler .identifier "x" :: fillerBody,
          by rw [hsame]; rfl, by decide, ?_⟩
        exact isHeadedBody_filler.forLoop hword hname (filler_spells _ _)
      · have hin := Token.isKeyword_iff.mp hin
        have hs := (suffix_of_upcoming hu₂).trans (suffix_of_upcoming hu₁)
        have hshorter := significantTokens_length_le hs
        rw [significantTokens_of_upcoming_cons hu₂]
        exact (readHeadedBody_completes (hi.of_suffix hs) (by omega)
          (fun _ hs' => hbody (hs'.trans hs)) h).behind [t, name, inWord] rfl
          fun _ hws => hws.forLoop hword hname hin
  | defWord =>
    rw [readStatement] at h
    rcases h.of_demand with hsame | ⟨name, rest₁, hle₁, hu₁, hname, h⟩
    · refine ⟨[t], filler .identifier "x" :: filler .delimiter "(" ::
        ([] ++ filler .delimiter ")" :: fillerBody), by rw [hsame]; rfl, by decide, ?_⟩
      exact isGreedyBody_filler.define hword rfl (filler_spells _ _) .none (filler_spells _ _)
    · have hname : name.kind = .identifier := by simpa using hname
      have hs₁ := suffix_of_upcoming hu₁
      rw [significantTokens_of_upcoming_cons hu₁]
      rcases h.of_demandPunctuation (hi.of_suffix hs₁) (by decide) with
        hsame | ⟨opening, rest₂, hle₂, hs₂, hopening, hsig₁, h⟩
      · refine ⟨[t, name], filler .delimiter "(" :: ([] ++ filler .delimiter ")" :: fillerBody),
          by rw [hsame]; rfl, by decide, ?_⟩
        exact isGreedyBody_filler.define hword hname (filler_spells _ _) .none (filler_spells _ _)
      · have hs₂ := hs₂.trans hs₁
        -- a list of parameters ends anywhere, so the closing parenthesis is missed instead
        rcases h.of_andThen with h | ⟨ps, rest₃, hle₃, hps, h⟩
        · exact absurd h not_stuckAt_readParameters
        · obtain ⟨ys, hlist, hys⟩ := readParameters_sound (hi.of_suffix hs₂) hps
          have hs₃ := hps.suffix.trans hs₂
          rw [hsig₁, hys]
          rcases h.of_demandPunctuation (hi.of_suffix hs₃) (by decide) with
            hsame | ⟨closing, rest₄, hle₄, hs₄, hclosing, hsig₃, h⟩
          · refine ⟨t :: name :: opening :: ys, filler .delimiter ")" :: fillerBody,
              by rw [hsame]; rfl, by decide, ?_⟩
            exact isGreedyBody_filler.define hword hname hopening hlist (filler_spells _ _)
          · apply (hbody (hs₄.trans hs₃) (Reading.stuckAt_map_iff.mp h)).behind
              (t :: name :: opening :: (ys ++ [closing]))
            · rw [hsig₃]
              simp
            · intro ws hws
              have hdefine := hws.define hword hname hopening hlist hclosing
              simpa using hdefine
termination_by 4 * input.length + 3

end

end ScriptCheck
