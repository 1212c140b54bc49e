import ScriptCheck.Proofs.Soundness.Expressions
import ScriptCheck.Token.Lexer

/-! # Clean Readings of Programs are Greedy Yields

  Whatever the program parser reads without a problem is a yield of the
  statements that it gives back, and these statements are a greedy tree.

  Greediness is a fact about where readings stop. A body was left because no
  statement could start there, so a statement that follows a body belongs to no
  list that the body is part of; and an `if` was left without an `else` because
  none came. Both facts travel with a reading as conditions on the next token.
-/

namespace ScriptCheck

open ExpressionPhrase StatementPhrase

/-! ## Section 1: What a clean reading says -/

/-- The tokens begin with a yield of the phrase, no deeper than the limit allows. -/
def ReadsStatementPhrase (limit depth : Nat) (p : StatementPhrase) (tokens following : List Token) :
    Prop :=
  ∃ n ys, p.Yields n ys ∧ tokens = ys ++ following ∧ depth + n ≤ limit

/-! ## Section 2: Parameters -/

/-- The names after the first one continue the list of parameters. -/
theorem moreParameters_sound {input : List Token} (hi : Token.AreListed input) {name : Token}
    (hname : name.kind = .identifier) :
    ∃ ys, IsParameterList (name.lexeme :: (moreParameters input).1) (name :: ys) ∧
      significantTokens input = ys ++ significantTokens (moreParameters input).2 := by
  fun_induction moreParameters input generalizing name with
  | case3 input comma rest hu _ hcomma name' rest' hu' _ hname' names left heq ih =>
    obtain ⟨ys, hlist, hys⟩ :=
      ih (hi.of_suffix ((suffix_of_upcoming hu').trans (suffix_of_upcoming hu))) hname'
    rw [heq] at hlist hys
    refine ⟨comma :: name' :: ys, ?_, ?_⟩
    · exact .more hname ((hi.of_upcoming hu).spells_delimiter (by decide) hcomma) hlist
    · rw [significantTokens_of_upcoming_cons hu, significantTokens_of_upcoming_cons hu', hys]
      simp
  | _ => exact ⟨[], .last hname, rfl⟩

theorem readParameters_sound {input rest : List Token} {ps : List String}
    (hi : Token.AreListed input) (h : (readParameters input).Clean ps rest) :
    ∃ ys, IsParameterList ps ys ∧ significantTokens input = ys ++ significantTokens rest := by
  unfold readParameters at h
  split at h
  · obtain ⟨rfl, rfl⟩ := Reading.clean_done_iff.mp h
    exact ⟨[], .none, rfl⟩
  · next name rest₁ hu =>
    split at h
    · next hname =>
      obtain rfl : _ = ps := Except.ok.inj h.outcome
      obtain rfl : _ = rest := h.rest_eq
      obtain ⟨ys, hlist, hys⟩ := moreParameters_sound (hi.of_suffix (suffix_of_upcoming hu)) hname
      exact ⟨name :: ys, hlist, by rw [significantTokens_of_upcoming_cons hu, hys]; simp⟩
    · obtain ⟨rfl, rfl⟩ := Reading.clean_done_iff.mp h
      exact ⟨[], .none, rfl⟩

/-! ## Section 3: Simple statements -/

section simple
variable {limit depth : Nat} {s : Statement} {input rest : List Token} {t : Token}

theorem readNamed_sound (hi : Token.AreListed input) (hd : depth ≤ limit)
    (ht : t.kind = .identifier) (h : (readNamed limit depth t.lexeme input).Clean s rest) :
    s.isSimple = true ∧
      ReadsStatementPhrase limit depth (statement s) (t :: significantTokens input)
        (significantTokens rest) := by
  -- an assignment or a call, by the mark behind the name; with neither the reading is not clean
  unfold readNamed at h
  split at h
  · simp only [Reading.clean_andThen_iff, Reading.clean_map_iff] at h
    obtain ⟨sign, rest₁, hle, hsign, e, he, rfl⟩ := h
    obtain ⟨hu, hpunct⟩ := clean_demand_iff.mp hsign
    have hi₁ := hi.of_suffix hsign.suffix
    obtain ⟨top, n, ys, hyield, hys, hn, -, -⟩ := readExpression_sound hi₁ he
    have hspells := (hi.of_upcoming hu).spells_operator (by decide) hpunct
    refine ⟨rfl, n, t :: sign :: ys, .assign ht hspells hyield, ?_, hn⟩
    rw [significantTokens_of_upcoming_cons hu, hys]
    simp
  · split at h
    · simp only [Reading.clean_andThen_iff, Reading.clean_map_iff] at h
      obtain ⟨opening, rest₁, hle, hopen, es, hes, rfl⟩ := h
      obtain ⟨hopening, hsig⟩ := demandPunctuation_sound hi (by decide) hopen
      obtain ⟨closing, hclosing, n, ys, hyield, hsig₁, hn⟩ :=
        readItems_sound (hi.of_suffix hopen.suffix) (by decide) hd hes
      refine ⟨rfl, n, t :: opening :: (ys ++ [closing]), .call ht hopening hyield hclosing, ?_, hn⟩
      rw [hsig, hsig₁]
      simp
    · exact absurd h Reading.not_clean_fail

theorem readPrint_sound (hi : Token.AreListed input) (ht : t.Spells .keyword "print")
    (h : (readPrint limit depth input).Clean s rest) :
    s.isSimple = true ∧
      ReadsStatementPhrase limit depth (statement s) (t :: significantTokens input)
        (significantTokens rest) := by
  simp only [readPrint, Reading.clean_andThen_iff, Reading.clean_map_iff] at h
  obtain ⟨opening, rest₁, -, hopen, e, rest₂, -, he, closing, hclose, rfl⟩ := h
  have hi₁ := hi.of_suffix hopen.suffix
  obtain ⟨hopening, hsig⟩ := demandPunctuation_sound hi (by decide) hopen
  obtain ⟨top, n, ys, hyield, hys, hn, -, -⟩ := readExpression_sound hi₁ he
  obtain ⟨hclosing, hsig₂⟩ := demandPunctuation_sound (hi₁.of_suffix he.suffix) (by decide) hclose
  refine ⟨rfl, n + 1, t :: opening :: (ys ++ [closing]), .print ht hopening hyield hclosing, ?_,
    by omega⟩
  rw [hsig, hys, hsig₂]
  simp

end simple

/-! ## Section 4: Statements and bodies on tokens

  Each lemma puts phrases that stand one behind the other together. What a phrase
  took is a condition on what follows it, which here is the next phrase.
-/

/-- The tokens begin with a statement that took all that it could of what follows it. -/
def ReadsStatement (limit depth : Nat) (s : Statement) (tokens following : List Token) : Prop :=
  s.TookAll following ∧ ReadsStatementPhrase limit depth (statement s) tokens following

/-- The tokens begin with statements that took all that they could of what follows them. -/
def ReadsStatements (limit depth : Nat) (ss : List Statement) (tokens following : List Token) :
    Prop :=
  Statement.TookAllInRow ss following ∧
    ReadsStatementPhrase limit depth (statements ss) tokens following

/-- The tokens begin with a body that took all that it could of what follows it. -/
def ReadsBody (limit depth : Nat) (ss : List Statement) (tokens following : List Token) : Prop :=
  Statement.TookAllInRow ss following ∧ ReadsStatementPhrase limit depth (body ss) tokens following

section tokens
variable {limit depth : Nat} {s : Statement} {ss ss' : List Statement} {e : Expression}
  {word : Token} {tokens behind behind' following : List Token}

theorem ReadsStatements.last (h : ReadsStatement limit depth s tokens following)
    (hstop : StartsNoStatement following) :
    ReadsStatements limit depth [s] tokens following := by
  obtain ⟨htook, n, ys, hyield, hys, hn⟩ := h
  refine ⟨⟨?_, hstop, ?_⟩, n, ys, .last hyield, hys, hn⟩
  · simp [Statement.areGreedy, htook.greedy]
  · simpa [Statement.lastTakesElse] using htook.noElse

theorem ReadsStatements.more (h : ReadsStatement limit depth s tokens behind)
    (hmore : ReadsStatements limit depth ss behind following) :
    ReadsStatements limit depth (s :: ss) tokens following := by
  obtain ⟨htook, n, ys, hyield, rfl, hn⟩ := h
  obtain ⟨htook', m, zs, hyield', rfl, hm⟩ := hmore
  -- a body of the statement would have taken the statement behind it
  have hsimple : s.isSimple = true := by
    by_cases hcompound : s.isSimple = false
    · have hnone := htook.noStatement hcompound
      exact absurd hnone hyield'.not_startsNoStatement
    · simpa using hcompound
  have hne : ss ≠ [] := by
    intro hnil
    have hgreedy := htook'.greedy
    simp [hnil, Statement.areGreedy] at hgreedy
  refine ⟨⟨?_, htook'.noStatement, ?_⟩, max n m, ys ++ zs, .more hyield hyield', ?_, by omega⟩
  · simp [Statement.areGreedy, htook.greedy, hsimple, htook'.greedy]
  · intro hlast
    apply htook'.noElse
    simpa [Statement.lastTakesElse, hne] using hlast
  · rw [List.append_assoc]

theorem ReadsStatements.body {colon : Token} (hcolon : colon.Spells .delimiter ":")
    (h : ReadsStatements limit (depth + 1) ss tokens following) :
    ReadsBody limit depth ss (colon :: tokens) following := by
  obtain ⟨htook, n, ys, hyield, rfl, hn⟩ := h
  exact ⟨htook, n + 1, colon :: ys, .body hcolon hyield, rfl, by omega⟩

/-- A statement whose only body comes last takes what the body takes. -/
theorem Statement.TookAllInRow.tookAll (h : TookAllInRow ss following)
    (hgreedy : s.isGreedy = areGreedy ss) (htakes : s.takesElse = lastTakesElse ss) :
    s.TookAll following := by
  refine ⟨hgreedy.trans h.greedy, fun _ => h.noStatement, ?_⟩
  intro helse
  exact h.noElse (htakes ▸ helse)

/-- Statements in front of an `else` leave it to the conditional around them. -/
theorem Statement.TookAllInRow.lastTakesElse_eq_false {other : Token}
    (h : TookAllInRow ss (other :: following)) (hother : other.Spells .keyword "else") :
    lastTakesElse ss = false := by
  by_cases htakes : lastTakesElse ss = true
  · have hnone := h.noElse htakes other rfl
    rw [Token.isKeyword_iff.mpr hother] at hnone
    cases hnone
  · simpa using htakes

theorem ReadsStatement.ifThen (hword : word.Spells .keyword "if")
    (hcondition : ReadsExpression limit depth 0 e tokens behind)
    (hbody : ReadsBody limit depth ss behind following) (hnone : StartsNoElse following) :
    ReadsStatement limit depth (.ifThen e ss) (word :: tokens) following := by
  obtain ⟨top, n, ys, hyield, rfl, hn, -, -⟩ := hcondition
  obtain ⟨htook, m, zs, hyield', rfl, hm⟩ := hbody
  refine ⟨⟨htook.greedy, fun _ => htook.noStatement, fun _ => hnone⟩, max n m, word :: (ys ++ zs),
    .ifThen hword hyield hyield', ?_, by omega⟩
  simp

theorem ReadsStatement.ifElse {other : Token} (hword : word.Spells .keyword "if")
    (hcondition : ReadsExpression limit depth 0 e tokens behind)
    (hbody : ReadsBody limit depth ss behind (other :: behind'))
    (hother : other.Spells .keyword "else")
    (hotherwise : ReadsBody limit depth ss' behind' following) :
    ReadsStatement limit depth (.ifElse e ss ss') (word :: tokens) following := by
  obtain ⟨top, n, ys, hyield, rfl, hn, -, -⟩ := hcondition
  obtain ⟨htook, m, zs, hyield', rfl, hm⟩ := hbody
  obtain ⟨htook', m', zs', hyield'', rfl, hm'⟩ := hotherwise
  have hleft := htook.lastTakesElse_eq_false hother
  refine ⟨⟨?_, fun _ => htook'.noStatement, htook'.noElse⟩, max n (max m m'),
    word :: (ys ++ (zs ++ other :: zs')), .ifElse hword hyield hyield' hother hyield'', ?_,
    by omega⟩
  · simp [Statement.isGreedy, hleft, htook.greedy, htook'.greedy]
  · simp

theorem ReadsStatement.whileLoop (hword : word.Spells .keyword "while")
    (hcondition : ReadsExpression limit depth 0 e tokens behind)
    (hbody : ReadsBody limit depth ss behind following) :
    ReadsStatement limit depth (.whileLoop e ss) (word :: tokens) following := by
  obtain ⟨top, n, ys, hyield, rfl, hn, -, -⟩ := hcondition
  obtain ⟨htook, m, zs, hyield', rfl, hm⟩ := hbody
  refine ⟨htook.tookAll rfl rfl, max n m, word :: (ys ++ zs), .whileLoop hword hyield hyield', ?_,
    by omega⟩
  simp

theorem ReadsStatement.forLoop {name inWord : Token} (hword : word.Spells .keyword "for")
    (hname : name.kind = .identifier) (hin : inWord.Spells .keyword "in")
    (hiterable : ReadsExpression limit depth 0 e tokens behind)
    (hbody : ReadsBody limit depth ss behind following) :
    ReadsStatement limit depth (.forLoop name.lexeme e ss) (word :: name :: inWord :: tokens)
      following := by
  obtain ⟨top, n, ys, hyield, rfl, hn, -, -⟩ := hiterable
  obtain ⟨htook, m, zs, hyield', rfl, hm⟩ := hbody
  refine ⟨htook.tookAll rfl rfl, max n m, word :: name :: inWord :: (ys ++ zs),
    .forLoop hword hname hin hyield hyield', ?_, by omega⟩
  simp

theorem ReadsStatement.define {name opening closing : Token} {ps : List String} {ys : List Token}
    (hword : word.Spells .keyword "def") (hname : name.kind = .identifier)
    (hopening : opening.Spells .delimiter "(") (hparameters : IsParameterList ps ys)
    (hclosing : closing.Spells .delimiter ")") (hbody : ReadsBody limit depth ss tokens following) :
    ReadsStatement limit depth (.define name.lexeme ps ss)
      (word :: name :: opening :: (ys ++ closing :: tokens)) following := by
  obtain ⟨htook, n, zs, hyield, rfl, hn⟩ := hbody
  refine ⟨htook.tookAll rfl rfl, n, word :: name :: opening :: (ys ++ closing :: zs),
    .define hword hname hopening hparameters hclosing hyield, ?_, hn⟩
  simp

end tokens

/-! ## Section 5: The four readers -/

mutual

/-- A list of statements is read up to a token that starts none. In a program there is none. -/
theorem readStatements_sound {limit depth : Nat} {scope : Scope} {ss : List Statement}
    {input rest : List Token} (hi : Token.AreListed input) (hd : depth ≤ limit)
    (h : (readStatements limit depth scope input).Clean ss rest) :
    StartsNoStatement (significantTokens rest) ∧
      (scope = .program → significantTokens rest = []) ∧
      (significantTokens input = significantTokens rest ∧ ss = [] ∨
        ReadsStatements limit depth ss (significantTokens input) (significantTokens rest)) := by
  cases hu : upcoming input with
  | nil =>
    rw [readStatements_of_nil hu] at h
    obtain ⟨rfl, rfl⟩ := Passage.clean_done_iff.mp h
    have hsig := significantTokens_of_upcoming_nil hu
    exact ⟨by simp [hsig, StartsNoStatement], fun _ => hsig, .inl ⟨rfl, rfl⟩⟩
  | cons t rest₁ =>
    have hsig := significantTokens_of_upcoming_cons hu
    have := length_lt_of_upcoming hu
    cases ht : t.statementHead? with
    | none =>
      cases scope with
      | body =>
        -- the body ends here
        rw [readStatements_body_of_none hu ht] at h
        obtain ⟨rfl, rfl⟩ := Passage.clean_done_iff.mp h
        refine ⟨?_, by simp, .inl ⟨rfl, rfl⟩⟩
        simpa [hsig, StartsNoStatement] using ht
      | program =>
        -- a program goes on behind the token, but not cleanly
        rw [readStatements_program_of_none hu ht] at h
        simp at h
    | some head =>
      rw [readStatements_of_head hu ht] at h
      simp only [Passage.clean_precededBy_iff, Reading.clean_continueWith_iff,
        List.nil_append] at h
      obtain ⟨-, _, ⟨s, rest₂, hle, hs, ss', hss', rfl⟩, rfl⟩ := h
      have hi₁ := hi.of_suffix (suffix_of_upcoming hu)
      have hfirst := readStatement_sound hi₁ hd ht hs
      obtain ⟨hstop, hprogram, hlater⟩ := readStatements_sound (hi₁.of_suffix hs.suffix) hd hss'
      refine ⟨hstop, hprogram, .inr ?_⟩
      rw [hsig]
      rcases hlater with ⟨hsame, rfl⟩ | hmore
      -- no statement was read behind this one, so it is the last
      · rw [hsame] at hfirst
        exact .last hfirst hstop
      · exact .more hfirst hmore
termination_by 4 * input.length

theorem readBlock_sound {limit depth : Nat} {ss : List Statement} {input rest : List Token}
    (hi : Token.AreListed input) (h : (readBlock limit depth input).Clean ss rest) :
    ReadsStatements limit depth ss (significantTokens input) (significantTokens rest) := by
  unfold readBlock at h
  split at h
  · exact absurd h Reading.not_clean_fail
  · next hd =>
    split at h
    · exact absurd h Reading.not_clean_fail
    · next t rest₁ hu =>
      split at h
      · next hstart =>
        obtain ⟨hstop, -, hsame | hread⟩ :=
          readStatements_sound hi (by omega) (Passage.clean_toReading_iff.mp h)
        · -- the body cannot be empty, since a statement starts it
          have hnone := hstop t (by simp [← hsame.1, significantTokens_of_upcoming_cons hu])
          simp [Token.startsStatement, hnone] at hstart
        · exact hread
      · exact absurd h Reading.not_clean_fail
termination_by 4 * input.length + 1

theorem readBody_sound {limit depth : Nat} {ss : List Statement} {input rest : List Token}
    (hi : Token.AreListed input) (h : (readBody limit depth input).Clean ss rest) :
    ReadsBody limit depth ss (significantTokens input) (significantTokens rest) := by
  rw [readBody, Reading.clean_andThen_iff] at h
  obtain ⟨colon, rest₁, hle, hcolon, hblock⟩ := h
  obtain ⟨hspells, hsig⟩ := demandPunctuation_sound hi (by decide) hcolon
  rw [hsig]
  exact (readBlock_sound (hi.of_suffix hcolon.suffix) hblock).body hspells
termination_by 4 * input.length + 2

theorem readStatement_sound {limit depth : Nat} {head : StatementHead} {s : Statement}
    {t : Token} {input rest : List Token} (hi : Token.AreListed input) (hd : depth ≤ limit)
    (ht : t.statementHead? = some head)
    (h : (readStatement limit depth head t.lexeme input).Clean s rest) :
    ReadsStatement limit depth s (t :: significantTokens input) (significantTokens rest) := by
  unfold readStatement at h
  have hword := Token.statementHead?_eq_some_iff.mp ht
  -- a clean reading is a clean reading of each part in turn; the parts give phrases, and the lemma
  -- for the statement puts these together
  cases head with
  | name =>
    obtain ⟨hsimple, hread⟩ := readNamed_sound hi hd hword h
    exact ⟨.of_isSimple hsimple, hread⟩
  | printWord =>
    obtain ⟨hsimple, hread⟩ := readPrint_sound hi hword h
    exact ⟨.of_isSimple hsimple, hread⟩
  | returnWord =>
    obtain ⟨e, he, rfl⟩ := Reading.clean_map_iff.mp h
    obtain ⟨top, n, ys, hyield, hys, hn, -, -⟩ := readExpression_sound hi he
    exact ⟨.of_isSimple rfl, n, t :: ys, .returnValue hword hyield, congrArg (t :: ·) hys, hn⟩
  | ifWord =>
    simp only [Reading.clean_andThen_iff] at h
    obtain ⟨e, rest₁, hle₁, he, ss, rest₂, hle₂, hss, hother⟩ := h
    have hi₁ := hi.of_suffix he.suffix
    have hcondition := readExpression_sound hi he
    have hbody := readBody_sound hi₁ hss
    split at hother
    · next hu =>
      obtain ⟨rfl, rfl⟩ := Reading.clean_done_iff.mp hother
      -- nothing follows, so no `else` does
      apply ReadsStatement.ifThen hword hcondition hbody
      simp [StartsNoElse, significantTokens_of_upcoming_nil hu]
    · next other rest₃ hu =>
      have hsig := significantTokens_of_upcoming_cons hu
      split at hother
      · next helse =>
        rw [Reading.clean_seenFrom_iff, Reading.clean_map_iff] at hother
        obtain ⟨ss', hss', rfl⟩ := hother
        have := length_lt_of_upcoming hu
        have hi₂ := hi₁.of_suffix hss.suffix
        have hotherwise := readBody_sound (hi₂.of_suffix (suffix_of_upcoming hu)) hss'
        -- what follows the first body begins with the `else`
        rw [hsig] at hbody
        exact .ifElse hword hcondition hbody (Token.isKeyword_iff.mp helse) hotherwise
      · next helse =>
        obtain ⟨rfl, rfl⟩ := Reading.clean_done_iff.mp hother
        apply ReadsStatement.ifThen hword hcondition hbody
        simpa [StartsNoElse, hsig] using helse
  | whileWord =>
    simp only [Reading.clean_andThen_iff, Reading.clean_map_iff] at h
    obtain ⟨e, rest₁, hle, he, ss, hss, rfl⟩ := h
    have hcondition := readExpression_sound hi he
    have hbody := readBody_sound (hi.of_suffix he.suffix) hss
    exact .whileLoop hword hcondition hbody
  | forWord =>
    simp only [Reading.clean_andThen_iff, Reading.clean_map_iff] at h
    obtain ⟨name, rest₁, -, hname, inWord, rest₂, -, hin, e, rest₃, hle, he, ss, hss, rfl⟩ := h
    obtain ⟨hu₁, hidentifier⟩ := clean_demand_iff.mp hname
    obtain ⟨hu₂, hinWord⟩ := clean_demand_iff.mp hin
    have hi₂ := (hi.of_suffix hname.suffix).of_suffix hin.suffix
    have hiterable := readExpression_sound hi₂ he
    have hbody := readBody_sound (hi₂.of_suffix he.suffix) hss
    rw [significantTokens_of_upcoming_cons hu₁, significantTokens_of_upcoming_cons hu₂]
    exact .forLoop hword (by simpa using hidentifier) (Token.isKeyword_iff.mp hinWord) hiterable
      hbody
  | defWord =>
    simp only [Reading.clean_andThen_iff, Reading.clean_map_iff] at h
    obtain ⟨name, rest₁, -, hname, opening, rest₂, -, hopen, ps, rest₃, -, hps, closing, rest₄,
      hle, hclose, ss, hss, rfl⟩ := h
    obtain ⟨hu₁, hidentifier⟩ := clean_demand_iff.mp hname
    have hi₁ := hi.of_suffix hname.suffix
    obtain ⟨hopening, hsig₁⟩ := demandPunctuation_sound hi₁ (by decide) hopen
    have hi₂ := hi₁.of_suffix hopen.suffix
    -- the parameters are the only part that can be empty
    obtain ⟨ys, hlist, hys⟩ := readParameters_sound hi₂ hps
    have hi₃ := hi₂.of_suffix hps.suffix
    obtain ⟨hclosing, hsig₃⟩ := demandPunctuation_sound hi₃ (by decide) hclose
    have hbody := readBody_sound (hi₃.of_suffix hclose.suffix) hss
    rw [significantTokens_of_upcoming_cons hu₁, hsig₁, hys, hsig₃]
    exact .define hword (by simpa using hidentifier) hopening hlist hclosing hbody
termination_by 4 * input.length + 3

end

/-! ## Section 6: Checked programs -/

/-- A check without errors gives a tree of which the significant tokens are a yield. The tree is
    greedy, and nothing in it is nested deeper than the limit. -/
theorem yields_of_succeeded {limit : Nat} {tokens : List Token} (hi : Token.AreListed tokens)
    (h : (checkSyntax limit tokens).succeeded = true) :
    ∃ program n, (checkSyntax limit tokens).tree = some (.program (Statement.toNodes program)) ∧
      (statements program).Yields n (significantTokens tokens) ∧ n ≤ limit ∧
      Statement.areGreedy program = true := by
  obtain ⟨program, rest, hne, hclean⟩ := checkSyntax_succeeded_iff.mp h
  obtain ⟨-, hend, ⟨-, hnil⟩ | ⟨htook, n, ys, hyield, hys, hn⟩⟩ :=
    readStatements_sound hi (Nat.zero_le limit) hclean
  · exact absurd hnil hne
  · rw [hend rfl, List.append_nil] at hys
    refine ⟨program, n, checkSyntax_tree_of_clean hne hclean, ?_, by omega, htook.greedy⟩
    rwa [hys]

/-- The theorem at a program with a body in each branch, a comment and line ends. -/
theorem yields_of_succeeded_conditional :
    let tokens := Lexer.tokenize { emitNewlines := true }
      "if a: # first\n  x = 1 - (b) - f()\nelse:\n  print([c, 2 * d])\n"
    Token.AreListed tokens ∧ (checkSyntax 4 tokens).succeeded = true ∧
      ∃ program n, (checkSyntax 4 tokens).tree = some (.program (Statement.toNodes program)) ∧
        (statements program).Yields n (significantTokens tokens) ∧ n ≤ 4 ∧
        Statement.areGreedy program = true := by
  intro tokens
  have hi : Token.AreListed tokens := by decide +kernel
  have h : (checkSyntax 4 tokens).succeeded = true := by decide +kernel
  exact ⟨hi, h, yields_of_succeeded hi h⟩

end ScriptCheck
