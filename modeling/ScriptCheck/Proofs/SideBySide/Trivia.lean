import ScriptCheck.Analysis
import ScriptCheck.Proofs.Scanner.Tiling
import ScriptCheck.Proofs.SideBySide.Programs

/-! # Trivia Never Changes a Check

  Two lists of tokens with the same significant tokens give the same tree and
  the same diagnostics. Only where the input ends can differ, since trivia counts
  for that place.

  Looking ahead passes over trivia. What has to be shown is that trivia does not
  change where reading goes on after an obstacle, although it can itself be the
  first token of a later line. Lines never decrease, so the next significant
  token is then on a later line too.

  Line ends are trivia, and all that they depend on is whether the lexer gives
  them out. So the syntax check says of a source what it would say of the tokens
  that are listed.
-/

namespace ScriptCheck

/-! ## Section 1: Reading on with and without trivia -/

theorem LinesAscend.significantTokens {tokens : List Token} (h : LinesAscend tokens) :
    LinesAscend (significantTokens tokens) :=
  List.Pairwise.sublist List.filter_sublist h

section resume
variable {fault u : Token} {rest us : List Token}

theorem resume_cons_of_stop (h : fault.line < u.line ∨ u.isStatementKeyword = true) :
    resume (fault :: rest) (u :: us) = u :: us := by
  rcases h with h | h <;> simp [resume, h]

theorem resume_cons_of_pass (h : ¬ (fault.line < u.line ∨ u.isStatementKeyword = true)) :
    resume (fault :: rest) (u :: us) = resume (fault :: rest) us := by
  rw [not_or] at h
  simp [resume, h]

end resume

/-- Reading goes on at the same significant token with and without trivia. -/
theorem significantTokens_resume {ahead tokens : List Token} (h : LinesAscend tokens) :
    significantTokens (resume ahead tokens) = resume ahead (significantTokens tokens) := by
  cases ahead with
  | nil => rfl
  | cons fault rest =>
    -- token by token: the search stops or passes on, and the token is trivia or not
    induction tokens with
    | nil => rfl
    | cons u us ih =>
      have ih := ih (h.of_suffix (List.suffix_cons u us))
      by_cases hstop : fault.line < u.line ∨ u.isStatementKeyword = true
      · rw [resume_cons_of_stop hstop]
        cases hu : u.isTrivia with
        | false => rw [significantTokens_cons hu, resume_cons_of_stop hstop]
        | true =>
          -- the search stopped for the line, and no significant token behind is on an earlier one
          have hline : fault.line < u.line := by
            simpa [Token.isStatementKeyword_of_isTrivia hu] using hstop
          rw [significantTokens_cons_of_isTrivia hu]
          cases hv : significantTokens us with
          | nil => rfl
          | cons v vs =>
            have hmem : v ∈ us := by
              have hmem' : v ∈ significantTokens us := by simp [hv]
              exact (List.mem_filter.mp hmem').1
            have hlater : u.line ≤ v.line := List.rel_of_pairwise_cons h hmem
            rw [resume_cons_of_stop (.inl (Nat.lt_of_lt_of_le hline hlater))]
      · rw [resume_cons_of_pass hstop, ih]
        cases hu : u.isTrivia with
        | false => rw [significantTokens_cons hu, resume_cons_of_pass hstop]
        | true => rw [significantTokens_cons_of_isTrivia hu]

/-! ## Section 2: Runs on the same significant tokens -/

/-- What comes next is the same. -/
theorem heads_eq {xs ys rest rest' : List Token} {t t' : Token}
    (hsig : significantTokens xs = significantTokens ys) (hu : upcoming xs = t :: rest)
    (hu' : upcoming ys = t' :: rest') :
    t = t' ∧ significantTokens rest = significantTokens rest' := by
  rw [significantTokens_of_upcoming_cons hu, significantTokens_of_upcoming_cons hu'] at hsig
  exact List.cons.inj hsig

/-- The significant tokens are the same. -/
def Comparison.ofTrivia (limit : Nat) : Comparison where
  limit := limit
  limit' := limit
  Exact := True
  KeepsPace := True
  Same := Eq
  Near _ xs ys := significantTokens xs = significantTokens ys ∧ LinesAscend xs ∧ LinesAscend ys
  Past _ := False

theorem Comparison.lawful_ofTrivia (limit : Nat) : (ofTrivia limit).Lawful where
  kind_eq h := by rw [← h]
  lexeme_eq h _ := by rw [← h]
  wellFormed _ hexact := absurd trivial hexact
  limit_lt_iff _ := Iff.rfl
  shallower h := h
  past_of_suffix h _ := h
  next := by
    intro d xs ys ⟨hsig, hxs, hys⟩
    cases hu : upcoming xs with
    | nil =>
      cases hu' : upcoming ys with
      | nil => exact .ended hu hu' ⟨rfl, .nil, .nil⟩ id
      | cons t' rest' =>
        rw [significantTokens_of_upcoming_nil hu, significantTokens_of_upcoming_cons hu'] at hsig
        cases hsig
    | cons t rest =>
      rw [significantTokens_of_upcoming_cons hu] at hsig
      obtain ⟨rest', hu', hrest⟩ := exists_upcoming hsig.symm
      have hs : t :: rest <:+ xs := hu ▸ upcoming_suffix xs
      have hs' : t :: rest' <:+ ys := hu' ▸ upcoming_suffix ys
      have ht : t.isTrivia = false := isTrivia_of_upcoming hu
      refine .token hu hu' rfl ⟨?_, hxs.of_suffix hs, hys.of_suffix hs'⟩
        ⟨hrest.symm, hxs.of_suffix (suffix_of_upcoming hu), hys.of_suffix (suffix_of_upcoming hu')⟩
        id
      rw [significantTokens_cons ht, significantTokens_cons ht, hrest]
  resume := by
    intro d xs ys rest rest' t t' _ ⟨hsig, hxs, hys⟩ hu hu' _
    obtain ⟨rfl, -⟩ := heads_eq hsig hu hu'
    refine .inl ⟨?_, hxs.of_suffix (resume_suffix _ _), hys.of_suffix (resume_suffix _ _)⟩
    rw [significantTokens_resume hxs, significantTokens_resume hys, hsig]
    rfl
  resume_tail := by
    intro d xs ys rest rest' t t' _ ⟨hsig, hxs, hys⟩ hu hu' _ ht
    obtain ⟨rfl, hrest⟩ := heads_eq hsig hu hu'
    have hword := Token.isStatementKeyword_of_statementHead ht
    have hx := hxs.of_suffix (suffix_of_upcoming hu)
    have hy := hys.of_suffix (suffix_of_upcoming hu')
    -- among trivia in front of the fault the search would stop at none, as lines ascend
    rw [resume_tail_of_upcoming hxs hu hword, resume_tail_of_upcoming hys hu' hword]
    refine .inl ⟨?_, hx.of_suffix (resume_suffix _ _), hy.of_suffix (resume_suffix _ _)⟩
    rw [significantTokens_resume hx, significantTokens_resume hy, hrest]
    rfl
  noLastComma _ _ _ _ _ := id

/-! ## Section 3: Diagnoses with and without trivia -/

namespace Diagnostic

/-- The same diagnostic, but with another place at fault. -/
def moveOffending (d : Diagnostic) (span : Span) : Diagnostic :=
  { d with labels := d.labels.map fun l =>
      if l.role = .offending then { l with span := span } else l }

variable (d : Diagnostic) (span : Span)

@[simp] theorem moveOffending_ofMessage (message : String) :
    (ofMessage message).moveOffending span = ofMessage message := rfl

@[simp] theorem moveOffending_withCode (code : ErrorCode) :
    (d.withCode code).moveOffending span = (d.moveOffending span).withCode code := rfl

@[simp] theorem moveOffending_withLine (line : Nat) :
    (d.withLine line).moveOffending span = (d.moveOffending span).withLine line := rfl

@[simp] theorem moveOffending_withHelp (help : String) :
    (d.withHelp help).moveOffending span = (d.moveOffending span).withHelp help := rfl

@[simp] theorem moveOffending_withLabel_offending (place : Span) (note : String) :
    (d.withLabel .offending place note).moveOffending span =
      (d.moveOffending span).withLabel .offending span note := by
  simp [moveOffending, withLabel]

@[simp] theorem moveOffending_withLabel_context (place : Span) (note : String) :
    (d.withLabel .context place note).moveOffending span =
      (d.moveOffending span).withLabel .context place note := by
  simp [moveOffending, withLabel]

end Diagnostic

/-- Two problems are diagnosed alike: in the same words, about the same token or about the end of
    the input. Only the place of that end can differ. -/
def DiagnosedAlike (limit : Nat) (tokens tokens' : List Token) (p p' : Problem) : Prop :=
  (p.ahead ≠ [] ∧ p'.ahead ≠ [] ∧ p'.diagnose limit tokens' = p.diagnose limit tokens) ∨
    (p.ahead = [] ∧ p'.ahead = [] ∧
      p'.diagnose limit tokens' =
        (p.diagnose limit tokens).moveOffending (endOfInput tokens').span)

/-- Two checks come to the same tree and the same diagnostics, but for where the input ends. -/
structure ChecksAgree (limit : Nat) (tokens tokens' : List Token) : Prop where
  succeeded : (checkSyntax limit tokens').succeeded = (checkSyntax limit tokens).succeeded
  tree : (checkSyntax limit tokens').tree = (checkSyntax limit tokens).tree
  diagnosed : List.Forall₂ (DiagnosedAlike limit tokens tokens')
    (readProgram limit tokens).problems (readProgram limit tokens').problems

section diagnosis
variable {limit : Nat} {tokens tokens' : List Token}

theorem endOfInput_line (h : significantTokens tokens = significantTokens tokens') :
    (endOfInput tokens').line = (endOfInput tokens).line := by
  simp [endOfInput, h]

/-- At the end of the input only the place differs. -/
theorem diagnosedAlike_nil (h : significantTokens tokens = significantTokens tokens')
    (obstacle : Obstacle) (start : Option Token) :
    DiagnosedAlike limit tokens tokens' (.blocked obstacle start [])
      (.blocked obstacle start []) := by
  refine .inr ⟨rfl, rfl, ?_⟩
  cases start <;> simp [Problem.diagnose, Diagnostic.atPlace, endOfInput_line h]

/-- The same problems are diagnosed alike. -/
theorem Comparison.Reports.diagnosedAlike {ps ps' : List Problem}
    (h : significantTokens tokens = significantTokens tokens')
    (hreports : (ofTrivia limit).Reports ps ps') :
    List.Forall₂ (DiagnosedAlike limit tokens tokens') ps ps' := by
  induction hreports with
  | nil => exact .nil
  | @blocked obstacle start start' ahead ahead' ps ps' hstart hfaces _ ih =>
    obtain rfl : start = start' := eq_of_rel_eq hstart
    refine .cons ?_ ih
    rcases hfaces.heads with ⟨rfl, rfl⟩ | ⟨t, _, rest, rest', rfl, rfl, rfl⟩
    · exact diagnosedAlike_nil h obstacle start
    · exact .inl ⟨List.cons_ne_nil _ _, List.cons_ne_nil _ _, rfl⟩
  | number _ hsame _ _ ih =>
    obtain rfl := hsame
    exact .cons (.inl ⟨List.cons_ne_nil _ _, List.cons_ne_nil _ _, rfl⟩) ih
  | skipped hexact => exact absurd trivial hexact

end diagnosis

/-! ## Section 4: Checks with and without trivia -/

theorem isEmpty_eq_of_forall₂ {α β : Type} {R : α → β → Prop} {as : List α} {bs : List β}
    (h : List.Forall₂ R as bs) : bs.isEmpty = as.isEmpty := by
  cases h with
  | nil => rfl
  | cons => rfl

/-- The same significant tokens give the same tree and, but for the end, the same diagnostics. -/
theorem checksAgree_of_significantTokens_eq {limit : Nat} {tokens tokens' : List Token}
    (h : significantTokens tokens = significantTokens tokens') (hasc : LinesAscend tokens)
    (hasc' : LinesAscend tokens') : ChecksAgree limit tokens tokens' := by
  have hlawful := Comparison.lawful_ofTrivia limit
  have hnear : (Comparison.ofTrivia limit).Near 0 tokens tokens' := ⟨h, hasc, hasc'⟩
  obtain ⟨houtcome, hreports⟩ :=
    (Comparison.sideBySide_readStatements hlawful .program hnear).stays trivial fun _ => id
  have hstatements : (readStatements limit 0 .program tokens').statements =
      (readStatements limit 0 .program tokens).statements := by
    cases houtcome with
    | ok hagree => exact hagree trivial
  have hdiagnosed := Comparison.Reports.diagnosedAlike h hreports
  -- an empty program is reported by both checks or by neither
  have hempty : (readStatements limit 0 .program tokens').problems.isEmpty =
      (readStatements limit 0 .program tokens).problems.isEmpty :=
    isEmpty_eq_of_forall₂ hdiagnosed
  have hprogram : (readProgram limit tokens').statements = (readProgram limit tokens).statements ∧
      List.Forall₂ (DiagnosedAlike limit tokens tokens') (readProgram limit tokens).problems
        (readProgram limit tokens').problems := by
    simp only [readProgram, hstatements, hempty]
    split
    · exact ⟨rfl, .cons (diagnosedAlike_nil h _ _) .nil⟩
    · exact ⟨rfl, hdiagnosed⟩
  refine ⟨?_, ?_, hprogram.2⟩
  · simp only [checkSyntax, SyntaxCheck.succeeded, List.isEmpty_map,
      isEmpty_eq_of_forall₂ hprogram.2]
  · simp only [checkSyntax, hprogram.1]

/-! ## Section 5: The check and the listing of a source -/

/-- No token is on an earlier line than where the text begins. -/
theorem Position.line_le_after (p : Position) (cs : List Char) : p.line ≤ (p.after cs).line := by
  induction cs generalizing p with
  | nil => exact Nat.le_refl _
  | cons c cs ih =>
    have hstep : p.line ≤ (p.step c).line := by
      unfold step
      split
      · exact Nat.le_succ _
      · exact Nat.le_refl _
    exact Nat.le_trans hstep (ih (p.step c))

namespace Tiles

variable {gap : Char → Prop} {p : Position} {cs : List Char} {tokens : List Token}

theorem line_le (h : Tiles gap p cs tokens) : ∀ t ∈ tokens, p.line ≤ t.line := by
  intro t ht
  obtain ⟨before, text, after, -, -, hplace⟩ := h.exists_place t ht
  rw [hplace]
  exact p.line_le_after before

/-- Lines never decrease along the tokens of a source. -/
theorem linesAscend (h : Tiles gap p cs tokens) : LinesAscend tokens := by
  induction h with
  | done p => exact .nil
  | skip hc hrest ih => exact ih
  | @token p kind text cs tokens htext hrest ih =>
    refine List.pairwise_cons.mpr ⟨?_, ih⟩
    intro t ht
    exact Nat.le_trans (p.line_le_after text) (hrest.line_le t ht)

end Tiles

namespace Lexer

theorem linesAscend_tokenize (lexer : Lexer) (source : String) :
    LinesAscend (lexer.tokenize source) :=
  (lexer.tiles_tokenize source).linesAscend

theorem nextPiece_emitNewlines (lexer : Lexer) (emit : Bool) {c : Char} (cs : List Char)
    (hc : c ≠ '\n') :
    { lexer with emitNewlines := emit }.nextPiece c cs = lexer.nextPiece c cs := by
  simp [nextPiece, hc]

/-- A line end adds no significant token. -/
theorem significantTokens_scan_lineFeed (lexer : Lexer) (p : Position) (cs : List Char) :
    significantTokens (lexer.scan p ('\n' :: cs)) =
      significantTokens (lexer.scan (p.after ['\n']) cs) := by
  rw [scan, nextPiece_lineFeed]
  cases lexer.emitNewlines with
  | true => simp [significantTokens, tokenAt, Token.isTrivia, TokenKind.isTrivia]
  | false => simp

/-- Whether line ends are given out makes no difference to the significant tokens. -/
theorem significantTokens_scan (lexer : Lexer) (emit : Bool) (p : Position) (cs : List Char) :
    significantTokens ({ lexer with emitNewlines := emit }.scan p cs) =
      significantTokens (lexer.scan p cs) := by
  induction hn : cs.length using Nat.strongRecOn generalizing p cs with
  | ind n ih =>
    cases cs with
    | nil => rw [scan, scan]
    | cons c cs =>
      by_cases hc : c = '\n'
      · subst hc
        rw [significantTokens_scan_lineFeed, significantTokens_scan_lineFeed]
        exact ih cs.length (by simp [← hn]) _ cs rfl
      · have hpiece := nextPiece_emitNewlines lexer emit cs hc
        -- the option is looked at for line feeds only, so both scans go on behind the same piece
        have hlater (p : Position) :
            significantTokens ({ lexer with emitNewlines := emit }.scan p
              (cs.drop (lexer.nextPiece c cs).more)) =
              significantTokens (lexer.scan p (cs.drop (lexer.nextPiece c cs).more)) := by
          apply ih _ _ p _ rfl
          rw [← hn, List.length_drop, List.length_cons]
          omega
        rw [scan, scan, hpiece]
        cases (lexer.nextPiece c cs).kind with
        | none => exact hlater _
        | some kind =>
          simp only [significantTokens, List.filter_cons] at hlater ⊢
          rw [hlater]

end Lexer

/-- The tokens of the listing and those of the syntax check have the same significant tokens. -/
theorem Analyzer.significantTokens_list (a : Analyzer) (source : String) :
    significantTokens (a.checkLexer.tokenize source) =
      significantTokens (a.list source).tokens := by
  rw [list, Lexer.tokenize, analyze_tokens, analyze_tokens]
  exact a.lexer.significantTokens_scan true .start source.toList

/-- Trivia never changes a check: without the trivia, tokens whose lines never decrease give the
    same tree and the same diagnostics, but for where the input ends. So does the syntax check of a
    source in comparison with the tokens of its listing, with or without line ends among them. -/
theorem checksAgree_without_trivia :
    (∀ (limit : Nat) (tokens : List Token), LinesAscend tokens →
        ChecksAgree limit tokens (significantTokens tokens)) ∧
      ∀ (settings : Settings) (a : Analyzer) (source : String),
        Analyzer.ofSettings settings = .ok a →
          a.settings = settings ∧
          a.parse source = checkSyntax settings.nestingLimit (a.checkLexer.tokenize source) ∧
          ChecksAgree settings.nestingLimit (a.checkLexer.tokenize source)
            (a.list source).tokens := by
  constructor
  · intro limit tokens hasc
    exact checksAgree_of_significantTokens_eq (significantTokens_significantTokens tokens).symm
      hasc hasc.significantTokens
  · intro settings a source ha
    have hsettings : a.settings = settings := by
      cases hv : settings.vocabulary with
      | error e => simp [Analyzer.ofSettings, hv, Except.map] at ha
      | ok vocabulary =>
        simp only [Analyzer.ofSettings, hv, Except.map, Except.ok.injEq] at ha
        rw [← ha]
    refine ⟨hsettings, by rw [Analyzer.parse, hsettings], ?_⟩
    exact checksAgree_of_significantTokens_eq (a.significantTokens_list source)
      (a.checkLexer.linesAscend_tokenize source) (a.lexer.linesAscend_tokenize source)

/-- The theorem at an input that ends inside a statement, with a comment and line ends behind it:
    here the place of the end does differ. -/
theorem checksAgree_without_trivia_open_end :
    let tokens := Lexer.tokenize { emitNewlines := true } "x = 1 )\nprint(\n# more\n"
    LinesAscend tokens ∧ ChecksAgree 4 tokens (significantTokens tokens) ∧
      (checkSyntax 4 tokens).diagnostics.length = 2 ∧
      (checkSyntax 4 (significantTokens tokens)).diagnostics ≠
        (checkSyntax 4 tokens).diagnostics := by
  intro tokens
  have hasc : LinesAscend tokens := by decide +kernel
  exact ⟨hasc, checksAgree_without_trivia.1 4 tokens hasc, by decide +kernel, by decide +kernel⟩

end ScriptCheck
