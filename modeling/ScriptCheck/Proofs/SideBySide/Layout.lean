import Mathlib.Data.List.Forall2
import ScriptCheck.Proofs.FirstError.Earliest

/-! # Layout Does Not Matter up to the First Error

  Where the tokens stand on lines, and what trivia stands between them, is looked
  at in one situation only: when reading goes on after an obstacle. Two lists of
  tokens that are spelled alike are therefore read alike up to the first obstacle
  that either of them meets, and if they meet none, to the end.

  Both runs see the same kinds and lexemes, and so they are at tokens of the same
  index among the significant ones. What is behind the first obstacle is not
  compared.
-/

namespace ScriptCheck

/-! ## Section 1: Tokens spelled alike -/

/-- The tokens have the same kind and the same lexeme, wherever they stand. -/
structure Token.SpelledAlike (t t' : Token) : Prop where
  kind : t'.kind = t.kind
  lexeme : t'.lexeme = t.lexeme

/-- The significant tokens are spelled alike, one by one. -/
def SpelledAlike (tokens tokens' : List Token) : Prop :=
  List.Forall₂ Token.SpelledAlike (significantTokens tokens) (significantTokens tokens')

instance (t t' : Token) : Decidable (t.SpelledAlike t') :=
  decidable_of_iff (t'.kind = t.kind ∧ t'.lexeme = t.lexeme)
    ⟨fun h => ⟨h.1, h.2⟩, fun h => ⟨h.kind, h.lexeme⟩⟩

instance (tokens tokens' : List Token) : Decidable (SpelledAlike tokens tokens') :=
  inferInstanceAs (Decidable (List.Forall₂ _ _ _))

theorem Token.SpelledAlike.faultCode_eq {t t' : Token} (h : t.SpelledAlike t') :
    t'.faultCode = t.faultCode := by
  rw [faultCode, faultCode, h.kind, h.lexeme]

/-- What comes next is spelled alike, or nothing comes next in either. -/
theorem SpelledAlike.upcoming {xs ys : List Token} (h : SpelledAlike xs ys) :
    (ScriptCheck.upcoming xs = [] ∧ ScriptCheck.upcoming ys = []) ∨
      ∃ t t' rest rest', ScriptCheck.upcoming xs = t :: rest ∧
        ScriptCheck.upcoming ys = t' :: rest' ∧ t.SpelledAlike t' ∧ SpelledAlike rest rest' := by
  unfold SpelledAlike at h
  -- the lists of significant tokens are equally long, so that both end or neither does
  cases hu : ScriptCheck.upcoming xs with
  | nil =>
    rw [significantTokens_of_upcoming_nil hu] at h
    cases hu' : ScriptCheck.upcoming ys with
    | nil => exact .inl ⟨rfl, rfl⟩
    | cons t' rest' =>
      rw [significantTokens_of_upcoming_cons hu'] at h
      cases h
  | cons t rest =>
    rw [significantTokens_of_upcoming_cons hu] at h
    cases hu' : ScriptCheck.upcoming ys with
    | nil =>
      rw [significantTokens_of_upcoming_nil hu'] at h
      cases h
    | cons t' rest' =>
      rw [significantTokens_of_upcoming_cons hu'] at h
      cases h with
      | cons hsame hrest => exact .inr ⟨t, t', rest, rest', rfl, rfl, hsame, hrest⟩

/-! ## Section 2: Runs on tokens spelled alike -/

/-- The significant tokens are spelled alike. After an obstacle the runs can go on at different
    places, since this depends on lines. -/
def Comparison.ofLayout (limit : Nat) : Comparison where
  limit := limit
  limit' := limit
  Exact := True
  KeepsPace := False
  Same := Token.SpelledAlike
  Near _ xs ys := SpelledAlike xs ys
  Past _ := False

theorem Comparison.lawful_ofLayout (limit : Nat) : (ofLayout limit).Lawful where
  kind_eq h := h.kind
  lexeme_eq h _ := h.lexeme
  wellFormed _ hexact := absurd trivial hexact
  limit_lt_iff _ := Iff.rfl
  shallower h := h
  past_of_suffix h _ := h
  next := by
    intro d xs ys h
    rcases h.upcoming with ⟨hu, hu'⟩ | ⟨t, t', rest, rest', hu, hu', hsame, hrest⟩
    · exact .ended hu hu' .nil id
    · refine .token hu hu' hsame ?_ hrest id
      show SpelledAlike _ _
      rw [← hu, ← hu', SpelledAlike, significantTokens_upcoming, significantTokens_upcoming]
      exact h
  resume hpace := hpace.elim
  resume_tail hpace := hpace.elim
  noLastComma _ _ _ _ _ := id

/-! ## Section 3: The place of a problem -/

/-- The problem was found at the significant token of an index, or at the end of the input if there
    are just that many significant tokens. -/
structure Problem.IsAt (tokens : List Token) (index : Nat) (p : Problem) : Prop where
  exists_front : ∃ front, front ++ p.ahead = tokens ∧ (significantTokens front).length = index
  head?_eq : p.ahead.head? = (significantTokens tokens)[index]?

/-- Both problems were found at the significant token of the same index or at the end. -/
def FoundAlike (tokens tokens' : List Token) (p p' : Problem) : Prop :=
  ∃ index, p.IsAt tokens index ∧ p'.IsAt tokens' index

/-- A problem is at the index that the tokens in front of it leave to it. -/
theorem Problem.LiesIn.isAt {tokens : List Token} {p : Problem} (h : p.LiesIn tokens) :
    p.IsAt tokens ((significantTokens tokens).length - (significantTokens p.ahead).length) := by
  obtain ⟨front, hfront⟩ := h.suffix
  have hsig : significantTokens tokens = significantTokens front ++ significantTokens p.ahead := by
    rw [← hfront, significantTokens_append]
  have hindex : (significantTokens tokens).length - (significantTokens p.ahead).length =
      (significantTokens front).length := by
    rw [hsig, List.length_append, Nat.add_sub_cancel]
  have hhead : (significantTokens p.ahead).head? = p.ahead.head? := by
    cases hahead : p.ahead with
    | nil => rfl
    | cons t rest =>
      have ht : t.isTrivia = false := isTrivia_of_upcoming (h.upcoming_ahead.trans hahead)
      rw [significantTokens_cons ht]
      rfl
  rw [hindex]
  refine ⟨⟨front, hfront, rfl⟩, ?_⟩
  rw [hsig, List.getElem?_append_right (Nat.le_refl _), Nat.sub_self, ← List.head?_eq_getElem?,
    hhead]

/-- As much is ahead of the one problem as of the other, so they were found alike. -/
theorem foundAlike_of_spelledAlike {tokens tokens' : List Token} {p p' : Problem}
    (h : SpelledAlike tokens tokens') (hp : p.LiesIn tokens) (hp' : p'.LiesIn tokens')
    (hahead : SpelledAlike p.ahead p'.ahead) : FoundAlike tokens tokens' p p' := by
  refine ⟨_, hp.isAt, ?_⟩
  rw [List.Forall₂.length_eq h, List.Forall₂.length_eq hahead]
  exact hp'.isAt

/-! ## Section 4: Problems up to the first error -/

/-- Two checks report malformed numbers at the same tokens and then, at the same token, an error
    with the same code and the same hint, unless there is no such error in either. What they report
    behind that error is not compared. -/
inductive AlikeUpToError (limit : Nat) (tokens tokens' : List Token) :
    List Problem → List Problem → Prop
  | ended : AlikeUpToError limit tokens tokens' [] []
  | number {p p' : Problem} {ps ps' : List Problem}
      (hp : (p.diagnose limit tokens).isAboutNumber = true)
      (hp' : (p'.diagnose limit tokens').isAboutNumber = true)
      (hfound : FoundAlike tokens tokens' p p') (hps : AlikeUpToError limit tokens tokens' ps ps') :
      AlikeUpToError limit tokens tokens' (p :: ps) (p' :: ps')
  | error {p p' : Problem} (hp : (p.diagnose limit tokens).isAboutNumber = false)
      (hp' : (p'.diagnose limit tokens').isAboutNumber = false)
      (hfound : FoundAlike tokens tokens' p p')
      (hcode : (p'.diagnose limit tokens').code = (p.diagnose limit tokens).code)
      (hhelp : (p'.diagnose limit tokens').help = (p.diagnose limit tokens).help)
      (ps ps' : List Problem) : AlikeUpToError limit tokens tokens' (p :: ps) (p' :: ps')

/-- The hint is that of the obstacle. -/
theorem Problem.diagnose_help (limit : Nat) (tokens : List Token) (obstacle : Obstacle)
    (start : Option Token) (ahead : List Token) :
    ((Problem.blocked obstacle start ahead).diagnose limit tokens).help = some obstacle.help := rfl

section runs
variable {limit : Nat} {tokens tokens' : List Token} {ps ps' ms ms' : List Problem}

/-- What both runs report is alike up to the first error. Behind an error they may go on
    differently. -/
theorem Comparison.Reports.alikeUpToError (h : SpelledAlike tokens tokens')
    (hreports : (ofLayout limit).Reports ps ps') (hps : ∀ p ∈ ps, p.LiesIn tokens)
    (hps' : ∀ p ∈ ps', p.LiesIn tokens')
    (hend : (∃ p ∈ ps, p.isBlocked = true) ∨ (ms = [] ∧ ms' = [])) :
    AlikeUpToError limit tokens tokens' (ps ++ ms) (ps' ++ ms') := by
  -- behind the first blocked statement nothing has to be shown, so only numbers use the induction
  induction hreports with
  | nil =>
    rcases hend with ⟨p, hp, -⟩ | ⟨rfl, rfl⟩
    · cases hp
    · exact .ended
  | @blocked obstacle start start' ahead ahead' ps ps' _ hfaces _ _ =>
    obtain ⟨d, hahead⟩ := hfaces.near
    have hcode : obstacle.code ahead'.head? = obstacle.code ahead.head? := by
      rcases hfaces.heads with ⟨rfl, rfl⟩ | ⟨t, t', rest, rest', rfl, rfl, hsame⟩
      · rfl
      · cases obstacle with
        | tooDeep => rfl
        | expected what => exact Token.SpelledAlike.faultCode_eq hsame
    refine .error (by simp [Problem.isAboutNumber_diagnose, Problem.isBlocked])
      (by simp [Problem.isAboutNumber_diagnose, Problem.isBlocked]) ?_ ?_ ?_ _ _
    · exact foundAlike_of_spelledAlike h (hps _ List.mem_cons_self) (hps' _ List.mem_cons_self)
        hahead
    · rw [Problem.diagnose_code, Problem.diagnose_code, hcode]
    · rw [Problem.diagnose_help, Problem.diagnose_help]
  | @number number number' after after' ps ps' _ _ hfaces _ ih =>
    obtain ⟨d, hahead⟩ := hfaces.near
    refine .number rfl rfl ?_ (ih (fun p hp => hps p (List.mem_cons_of_mem _ hp))
      (fun p hp => hps' p (List.mem_cons_of_mem _ hp)) ?_)
    · exact foundAlike_of_spelledAlike h (hps _ List.mem_cons_self) (hps' _ List.mem_cons_self)
        hahead
    · -- the number is not an error of this sort, so the error is behind it
      refine hend.imp_left ?_
      rintro ⟨p, hp, hblocked⟩
      rcases List.mem_cons.mp hp with rfl | hp
      · cases hblocked
      · exact ⟨p, hp, hblocked⟩
  | skipped hexact => exact absurd trivial hexact

/-- Programs spelled alike are read to the end alike, or both up to an error. -/
theorem exists_reports_layout (limit : Nat) (h : SpelledAlike tokens tokens') :
    ∃ ps ms ps' ms', (readProgram limit tokens).problems = ps ++ ms ∧
      (readProgram limit tokens').problems = ps' ++ ms' ∧
      (Comparison.ofLayout limit).Reports ps ps' ∧
      ((∃ p ∈ ps, p.isBlocked = true) ∨ (ms = [] ∧ ms' = []) ∧
        (readProgram limit tokens').statements = (readProgram limit tokens).statements) := by
  rcases h.upcoming with ⟨hu, hu'⟩ | ⟨t, t', rest, rest', hu, hu', -, -⟩
  · -- there is nothing to read, which is an error at the end of both
    have hproblems {tokens : List Token} (hu : upcoming tokens = []) :
        (readProgram limit tokens).problems = [.blocked (.expected .statement) none []] := by
      simp [readProgram, readStatements_of_nil hu, Passage.done]
    have hfaces : (Comparison.ofLayout limit).Faces [] [] :=
      Comparison.faces_nil (d := 0) .nil id
    exact ⟨_, [], _, [], by rw [hproblems hu, List.append_nil],
      by rw [hproblems hu', List.append_nil], .blocked .none hfaces .nil,
      .inl ⟨_, List.mem_cons_self, rfl⟩⟩
  · rw [readProgram_problems_of_cons hu, readProgram_problems_of_cons hu',
      readProgram_statements, readProgram_statements]
    have hlawful := Comparison.lawful_ofLayout limit
    have hnear : (Comparison.ofLayout limit).Near 0 tokens tokens' := h
    cases Comparison.sideBySide_readStatements hlawful .program hnear with
    | inStep houtcome hrest hreports =>
      refine ⟨_, [], _, [], (List.append_nil _).symm, (List.append_nil _).symm, hreports,
        .inr ⟨⟨rfl, rfl⟩, ?_⟩⟩
      cases houtcome with
      | ok hagree => exact hagree trivial
    | parted hparted =>
      -- runs that have parted did so at an obstacle, as there is no end to what corresponds
      obtain ⟨ps, ms, ps', hps, ⟨ms', hps'⟩, hreports, ⟨hpast, -⟩ | ⟨-, _, _, _, hmem⟩⟩ :=
        hparted
      · exact hpast.elim
      · exact ⟨ps, ms, ps', ms', hps, hps'.symm, hreports, .inl ⟨_, hmem, rfl⟩⟩

/-- Nothing is reported in the one check if nothing is in the other. -/
theorem AlikeUpToError.isEmpty_eq (h : AlikeUpToError limit tokens tokens' ps ps') :
    ps'.isEmpty = ps.isEmpty := by
  cases h <;> rfl

end runs

/-! ## Section 5: The main result -/

/-- Layout does not matter up to the first error. Of two lists of tokens that are spelled alike both
    are accepted, with the same tree, or neither is. If neither is, malformed numbers are reported
    at the same tokens in front of the first other error, which is reported in both at the token of
    the same index, or at the end of both, with the same code and the same hint. If there is no such
    error, the trees are the same. -/
theorem layout_irrelevant_up_to_error (limit : Nat) {tokens tokens' : List Token}
    (h : SpelledAlike tokens tokens') :
    let check := checkSyntax limit tokens
    let check' := checkSyntax limit tokens'
    let problems := (readProgram limit tokens).problems
    let problems' := (readProgram limit tokens').problems
    check.diagnostics = problems.map (Problem.diagnose limit tokens) ∧
      check'.diagnostics = problems'.map (Problem.diagnose limit tokens') ∧
      ((check.succeeded = true ∧ check'.succeeded = true ∧ check'.tree = check.tree) ∨
        (check.succeeded = false ∧ check'.succeeded = false ∧
          AlikeUpToError limit tokens tokens' problems problems' ∧
          ((∀ d ∈ check.diagnostics, d.isAboutNumber = true) → check'.tree = check.tree))) := by
  intro check check' problems problems'
  obtain ⟨ps, ms, ps', ms', hps, hps', hreports, hend⟩ := exists_reports_layout limit h
  have halike : AlikeUpToError limit tokens tokens' problems problems' := by
    have hlies (p : Problem) (hp : p ∈ ps) : p.LiesIn tokens :=
      readProgram_liesIn (hps ▸ List.mem_append_left ms hp)
    have hlies' (p : Problem) (hp : p ∈ ps') : p.LiesIn tokens' :=
      readProgram_liesIn (hps' ▸ List.mem_append_left ms' hp)
    simp only [problems, problems', hps, hps']
    exact hreports.alikeUpToError h hlies hlies' (hend.imp_right And.left)
  have htree (hnumbers : ∀ d ∈ check.diagnostics, d.isAboutNumber = true) :
      check'.tree = check.tree := by
    -- a blocked statement would be an error of another sort
    rcases hend with ⟨p, hp, hblocked⟩ | ⟨-, hstatements⟩
    · have hnot := isAboutNumber_iff.mp hnumbers p (hps ▸ List.mem_append_left ms hp)
      rw [hblocked] at hnot
      cases hnot
    · simp only [check, check', checkSyntax, hstatements]
  have hsucceeded : check'.succeeded = check.succeeded := by
    simp only [check, check', checkSyntax, SyntaxCheck.succeeded, List.isEmpty_map]
    exact halike.isEmpty_eq
  refine ⟨rfl, rfl, ?_⟩
  cases hcheck : check.succeeded with
  | true =>
    refine .inl ⟨rfl, hsucceeded.trans hcheck, htree ?_⟩
    have hnone : check.diagnostics = [] := List.isEmpty_iff.mp hcheck
    simp [hnone]
  | false => exact .inr ⟨rfl, hsucceeded.trans hcheck, halike, htree⟩

/-- The theorem at the same tokens with the line end in two places and a malformed number in front
    of the error. Behind the error layout does matter: a statement is read there if it is on a line
    of its own. -/
theorem layout_irrelevant_up_to_error_two_lines :
    let tokens := Lexer.tokenize {} "x = 1.2.3 + ) # more\ny = 2"
    let tokens' := Lexer.tokenize {} "x =1.2.3\n+) y=2"
    let check := checkSyntax 6 tokens
    let check' := checkSyntax 6 tokens'
    SpelledAlike tokens tokens' ∧ check.tree.isSome = true ∧ check'.tree.isSome = false ∧
      check.diagnostics.map (·.line) = [some 1, some 1] ∧
      check'.diagnostics.map (·.line) = [some 1, some 2] ∧
      AlikeUpToError 6 tokens tokens' (readProgram 6 tokens).problems
        (readProgram 6 tokens').problems := by
  intro tokens tokens' check check'
  have halike : SpelledAlike tokens tokens' := by decide +kernel
  have hfailed : check.succeeded = false := by decide +kernel
  refine ⟨halike, by decide +kernel, by decide +kernel, by decide +kernel, by decide +kernel, ?_⟩
  obtain ⟨-, -, ⟨hsucceeded, -⟩ | ⟨-, -, hproblems, -⟩⟩ := layout_irrelevant_up_to_error 6 halike
  · cases hsucceeded.symm.trans hfailed
  · exact hproblems

end ScriptCheck
