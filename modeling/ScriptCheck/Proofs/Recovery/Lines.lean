import Mathlib.Data.List.DropRight
import ScriptCheck.Proofs.Order.Programs
import ScriptCheck.Proofs.Recovery.Checks
import ScriptCheck.Proofs.Recovery.Exchange
import ScriptCheck.Token.Lexer

/-! # Recovery at the Next Line

  A line on which no statement begins costs one diagnostic. What stands in front
  of it is read as if the input ended there, and what stands behind it as if the
  input began there.

  The search for a place to go on begins behind the token where the list of
  statements stands, and that can be trivia in front of the line. Among trivia in
  front of the line a token can bear a later line only if lines do not ascend, and
  then the search stops at it, in front of the same line, which is reported again.
-/

namespace ScriptCheck

/-! ## Section 1: Passages after what precedes them -/

/-- The first passage is the second one, after statements and problems that precede it. -/
structure Passage.After {xs ys : List Token} (p : Passage xs) (ss : List Statement)
    (ps : List Problem) (q : Passage ys) : Prop where
  statements : p.statements = ss ++ q.statements
  problems : p.problems = ps ++ q.problems

theorem Passage.after_self {xs : List Token} (p : Passage xs) : p.After [] [] p := ⟨rfl, rfl⟩

theorem Passage.After.precededBy {xs ys later : List Token} {p : Passage later} {q : Passage ys}
    {ss : List Statement} {ps : List Problem} (h : p.After ss ps q) (hs : later <:+ xs)
    (ss' : List Statement) (ps' : List Problem) :
    (Passage.precededBy hs ss' ps' p).After (ss' ++ ss) (ps' ++ ps) q where
  statements := by rw [List.append_assoc, ← h.statements, Passage.precededBy]
  problems := by rw [List.append_assoc, ← h.problems, Passage.precededBy]

theorem Passage.After.trans {xs ys zs : List Token} {p : Passage xs} {q : Passage ys}
    {r : Passage zs} {ss ss' : List Statement} {ps ps' : List Problem} (h : p.After ss ps q)
    (h' : q.After ss' ps' r) : p.After (ss ++ ss') (ps ++ ps') r where
  statements := by rw [h.statements, h'.statements, List.append_assoc]
  problems := by rw [h.problems, h'.problems, List.append_assoc]

/-! ## Section 2: Simple statements in front -/

/-- Behind simple statements the others are read as if they stood alone. The beginning ends with a
    significant token, so that nothing is left of it. -/
theorem readStatements_after_simple {limit depth : Nat} {ending ending' zs rest : List Token}
    {ss : List Statement} (hends : LookAlike ending ending') (hending : upcoming ending = [])
    (hlast : ∀ ys, ys <:+ zs → upcoming ys = [] → ys = [])
    (hclean : (readStatements limit depth .program (zs ++ ending)).Clean ss rest)
    (hsimple : ∀ s ∈ ss, s.isSimple = true) :
    (readStatements limit depth .program (zs ++ ending')).After ss []
      (readStatements limit depth .program ending') := by
  -- the induction is on the length of the beginning: one statement is read at the other end as
  -- here, and what it leaves is again a beginning
  cases hz : upcoming zs with
  | nil =>
    obtain rfl := hlast zs List.suffix_rfl hz
    rw [List.nil_append, readStatements_of_nil hending, Passage.clean_done_iff] at hclean
    obtain ⟨rfl, -⟩ := hclean
    exact Passage.after_self _
  | cons t zs' =>
    have := length_lt_of_upcoming hz
    cases ht : t.statementHead? with
    | none =>
      -- a problem, but the passage is clean
      rw [readStatements_program_of_none (upcoming_append hz ending) ht,
        Passage.clean_precededBy_iff] at hclean
      exact absurd hclean.1 (List.cons_ne_nil _ _)
    | some head =>
      rw [readStatements_of_head (upcoming_append hz ending) ht,
        Passage.clean_precededBy_iff] at hclean
      obtain ⟨-, ss', hclean, rfl⟩ := hclean
      obtain ⟨s, mid, _, hfirst, ss', hmore, rfl⟩ := Reading.clean_continueWith_iff.mp hclean
      rw [List.nil_append, List.forall_mem_cons] at hsimple
      -- a simple statement comes from a head without a body, for which the ends can be exchanged
      have hhead : head.hasBody = false := by
        have hkind := (gives_isSimple_readStatement limit depth head t.lexeme _).of_ok s
          hfirst.outcome
        simpa [hsimple.1] using hkind
      obtain ⟨ys, rfl, hfirst'⟩ := (exchanges_readStatement hends limit depth hhead t.lexeme
        zs').of_clean hfirst (.inl hending)
      have hys : ys <:+ zs' := List.suffix_append_self_iff.mp hfirst.suffix
      have := hys.length_le
      have ih := readStatements_after_simple hends hending
        (fun xs hxs => hlast xs (hxs.trans (hys.trans (suffix_of_upcoming hz)))) hmore hsimple.2
      obtain ⟨hs, hread⟩ := hfirst'.exists_eq
      rw [readStatements_of_head (upcoming_append hz ending') ht, hread]
      exact (ih.precededBy hs [s] []).precededBy _ [] []
termination_by zs.length

/-! ## Section 3: A line on which no statement begins -/

/-- Tokens on one line, of which the first can begin neither a statement nor anything else, while
    none is a reserved word with which statements begin. -/
structure IsStrayLine (first : Token) (line : List Token) : Prop where
  head?_eq : line.head? = some first
  kind : first.kind = .number ∨ first.kind = .string ∨ first.kind = .invalid ∨
    first.kind = .keyword
  onLine : ∀ t ∈ line, t.line = first.line
  noKeyword : ∀ t ∈ line, t.isStatementKeyword = false

namespace IsStrayLine

variable {first : Token} {line : List Token}

theorem exists_eq_cons (h : IsStrayLine first line) : ∃ more, line = first :: more :=
  List.head?_eq_some_iff.mp h.head?_eq

theorem isTrivia_eq_false (h : IsStrayLine first line) : first.isTrivia = false := by
  rcases h.kind with hkind | hkind | hkind | hkind <;>
    simp [Token.isTrivia, TokenKind.isTrivia, hkind]

theorem statementHead?_eq_none (h : IsStrayLine first line) : first.statementHead? = none := by
  obtain ⟨more, rfl⟩ := h.exists_eq_cons
  have hkeyword := h.noKeyword first List.mem_cons_self
  rcases h.kind with hkind | hkind | hkind | hkind
  · simp [Token.statementHead?, hkind]
  · simp [Token.statementHead?, hkind]
  · simp [Token.statementHead?, hkind]
  · simpa [Token.statementHead?, Token.isStatementKeyword, hkind] using hkeyword

end IsStrayLine

section passes
variable {first : Token} {ahead more tokens trivia : List Token}

/-- The search for a place to go on passes over the line. -/
theorem resume_past_line (hline : ∀ t ∈ more, t.line = first.line)
    (hkeyword : ∀ t ∈ more, t.isStatementKeyword = false)
    (htokens : ∀ t ∈ tokens.head?, first.line < t.line) :
    resume (first :: ahead) (more ++ tokens) = tokens := by
  induction more with
  | nil =>
    cases tokens with
    | nil => rfl
    | cons t rest => simp [resume, htokens t (by simp)]
  | cons t more ih =>
    rw [List.forall_mem_cons] at hline hkeyword
    rw [List.cons_append, resume, List.dropWhile_cons_of_pos (by simp [hline.1, hkeyword.1])]
    exact ih hline.2 hkeyword.2

/-- From trivia the search stops at the first of them that bears a later line, if there is one. -/
theorem resume_trivia (htrivia : ∀ t ∈ trivia, t.isTrivia = true) :
    (trivia.countP (first.line < ·.line) = 0 ∧
        resume (first :: ahead) (trivia ++ tokens) = resume (first :: ahead) tokens) ∨
      ∃ t later, t :: later <:+ trivia ∧
        trivia.countP (first.line < ·.line) = later.countP (first.line < ·.line) + 1 ∧
        resume (first :: ahead) (trivia ++ tokens) = t :: later ++ tokens := by
  induction trivia with
  | nil => exact .inl ⟨rfl, rfl⟩
  | cons t trivia ih =>
    rw [List.forall_mem_cons] at htrivia
    -- trivia are no reserved words, so that only their lines can stop the search
    by_cases hlate : first.line < t.line
    · have hcount : (t :: trivia).countP (first.line < ·.line) =
          trivia.countP (first.line < ·.line) + 1 :=
        List.countP_cons_of_pos (by simpa using hlate)
      exact .inr ⟨t, trivia, List.suffix_rfl, hcount, by simp [resume, hlate]⟩
    · have hpass : resume (first :: ahead) (t :: trivia ++ tokens) =
          resume (first :: ahead) (trivia ++ tokens) := by
        simp [resume, hlate, Token.isStatementKeyword_of_isTrivia htrivia.1]
      rw [hpass, List.countP_cons_of_neg (by simpa using hlate)]
      rcases ih htrivia.2 with hnone | ⟨u, later, hs, hrest⟩
      · exact .inl hnone
      · exact .inr ⟨u, later, hs.trans (List.suffix_cons t trivia), hrest⟩

/-- The line is reported once, and once more for each token among the trivia in front of it, but
    for the first one, that bears a later line. Then reading goes on behind the line. -/
theorem readStatements_strayLine {limit depth : Nat} {line : List Token}
    (hline : IsStrayLine first line) (htokens : ∀ t ∈ tokens.head?, first.line < t.line)
    (htrivia : ∀ t ∈ trivia, t.isTrivia = true) :
    (readStatements limit depth .program (trivia ++ (line ++ tokens))).After []
      (List.replicate (trivia.tail.countP (first.line < ·.line) + 1)
        (.blocked (.expected .statement) (some first) (line ++ tokens)))
      (readStatements limit depth .program tokens) := by
  obtain ⟨more, rfl⟩ := hline.exists_eq_cons
  -- each report leaves at least the first of the trivia behind
  induction hn : trivia.length using Nat.strong_induction_on generalizing trivia with
  | h n ih =>
    subst hn
    have hu : upcoming (trivia ++ (first :: more ++ tokens)) = first :: (more ++ tokens) := by
      have hpassed : upcoming trivia = [] := List.dropWhile_eq_nil_iff.mpr htrivia
      rw [upcoming_append_of_nil hpassed]
      simp [upcoming, hline.isTrivia_eq_false]
    -- what is read from where the search stops: either behind the line, or in front of it once more
    have hlater : (readStatements limit depth .program (resume (first :: (more ++ tokens))
          (trivia ++ (first :: more ++ tokens)).tail)).After []
        (List.replicate (trivia.tail.countP (first.line < ·.line))
          (.blocked (.expected .statement) (some first) (first :: more ++ tokens)))
        (readStatements limit depth .program tokens) := by
      cases trivia with
      | nil =>
        have honLine := (List.forall_mem_cons.mp hline.onLine).2
        have hkeyword := (List.forall_mem_cons.mp hline.noKeyword).2
        rw [List.nil_append, List.cons_append, List.tail_cons,
          resume_past_line honLine hkeyword htokens]
        exact Passage.after_self _
      | cons u trivia =>
        rw [List.forall_mem_cons] at htrivia
        rw [List.cons_append, List.tail_cons, List.tail_cons]
        rcases resume_trivia htrivia.2 with ⟨hcount, hresume⟩ | ⟨t, later, hs, hcount, hresume⟩
        · rw [hresume, hcount, resume_past_line hline.onLine hline.noKeyword htokens]
          exact Passage.after_self _
        -- the search stops in front of the same line
        · rw [hresume, hcount]
          exact ih (t :: later).length (Nat.lt_succ_of_le hs.length_le)
            (fun v hv => htrivia.2 v (hs.subset hv)) rfl
    rw [readStatements_program_of_none hu hline.statementHead?_eq_none]
    exact hlater.precededBy _ [] [_]

end passes

/-! ## Section 4: Checks -/

/-- The kinds of nodes that show statements without a body. -/
def simpleKinds : List NodeKind := [.assign, .functionCall, .print, .returnValue]

theorem isSimple_of_kind {s : Statement} (h : s.toNode.kind ∈ simpleKinds) :
    s.isSimple = true := by
  cases s with
  | assign | call | print | returnValue => rfl
  | _ =>
    simp [Statement.toNode, Node.conditional, Node.whileLoop, Node.forLoop, Node.functionDef,
      Node.kind, simpleKinds] at h

/-- There is nothing, or else nothing but simple statements and no error. -/
def IsSimpleProgram (limit : Nat) (tokens : List Token) : Prop :=
  tokens = [] ∨ (checkSyntax limit tokens).succeeded = true ∧
    ∀ n ∈ (checkSyntax limit tokens).statements, n.kind ∈ simpleKinds

def trailingTrivia (tokens : List Token) : List Token := tokens.rtakeWhile Token.isTrivia

theorem isTrivia_of_mem_trailingTrivia {tokens : List Token} :
    ∀ t ∈ trailingTrivia tokens, t.isTrivia = true :=
  fun _ => List.mem_rtakeWhile_imp

/-- How many of the trivia in front of a line bear a later line, the first one left out. Among
    these the search for a place to go on stops too early. -/
def lateTrivia (line : Nat) (tokens : List Token) : Nat :=
  (trailingTrivia tokens).tail.countP (line < ·.line)

/-- There are none if lines ascend. -/
theorem lateTrivia_eq_zero {first : Token} {tokens line : List Token}
    (hascend : LinesAscend (tokens ++ line)) (hfirst : first ∈ line) :
    lateTrivia first.line tokens = 0 := by
  rw [lateTrivia, List.countP_eq_zero]
  intro t ht
  have hmem : t ∈ tokens :=
    (List.rtakeWhile_suffix Token.isTrivia tokens).mem (List.mem_of_mem_tail ht)
  have hle := (List.pairwise_append.mp hascend).2.2 t hmem first hfirst
  simpa using hle

/-- The diagnostic about a token with which no statement begins. -/
def strayDiagnostic (limit : Nat) (first : Token) : Diagnostic :=
  (Diagnostic.atPlace limit first.faultCode first.lexeme first.place).withHelp
    "expected a statement"

theorem diagnose_stray (limit : Nat) (tokens : List Token) (first : Token) (rest : List Token) :
    (Problem.blocked (.expected .statement) (some first) (first :: rest)).diagnose limit tokens =
      strayDiagnostic limit first := rfl

section fronts
variable {limit : Nat} {front tokens : List Token}

/-- Words, values and what is no token at all leave what is in front of them as it is. -/
theorem lookAlike_of_kind {trivia ending rest : List Token} {t : Token}
    (htrivia : upcoming trivia = []) (hu : upcoming ending = t :: rest)
    (hoperator : t.kind ≠ .operator) (hdelimiter : t.kind ≠ .delimiter) :
    LookAlike trivia ending where
  noOperator := by simp [htrivia]
  noOperator' := by simp [hu, Token.binaryOperator?, hoperator]
  nextIs_eq text := by simp [nextIs, htrivia, hu, Token.isPunctuation, hoperator, hdelimiter]

/-- What is read of a simple program stays the same if tokens follow that do not go on with it. What
    follows is read behind the trivia at the end of the program. -/
theorem exists_after_front (hfront : IsSimpleProgram limit front)
    (hends : LookAlike (trailingTrivia front) (trailingTrivia front ++ tokens)) :
    ∃ ss, Statement.toNodes ss = (checkSyntax limit front).statements ∧
      (readStatements limit 0 .program (front ++ tokens)).After ss []
        (readStatements limit 0 .program (trailingTrivia front ++ tokens)) := by
  rcases hfront with rfl | ⟨hsucceeded, hkinds⟩
  · refine ⟨[], ?_, Passage.after_self _⟩
    rw [statements_checkSyntax, readStatements_of_nil rfl]
    rfl
  · obtain ⟨ss, rest, -, hclean⟩ := checkSyntax_succeeded_iff.mp hsucceeded
    have hss : (checkSyntax limit front).statements = Statement.toNodes ss := by
      rw [statements_checkSyntax, hclean.statements]
    refine ⟨ss, hss.symm, ?_⟩
    have hsimple : ∀ s ∈ ss, s.isSimple = true := by
      intro s hs
      apply isSimple_of_kind
      apply hkinds
      rw [hss, Statement.toNodes_eq_map]
      exact List.mem_map_of_mem hs
    have htrivia : upcoming (trailingTrivia front) = [] :=
      List.dropWhile_eq_nil_iff.mpr isTrivia_of_mem_trailingTrivia
    have hsplit : front.rdropWhile Token.isTrivia ++ trailingTrivia front = front :=
      List.rdropWhile_append_rtakeWhile
    have hlast (ys : List Token) (hys : ys <:+ front.rdropWhile Token.isTrivia)
        (hnone : upcoming ys = []) : ys = [] := by
      by_contra hne
      -- the last token of what is not trailing trivia is significant
      have hmem := List.dropWhile_eq_nil_iff.mp hnone _ (List.getLast_mem hne)
      rw [hys.getLast hne] at hmem
      exact List.rdropWhile_last_not _ _ _ hmem
    -- the trailing trivia are the end that is exchanged for them with the tokens behind them
    rw [← hsplit] at hclean
    have hafter := readStatements_after_simple hends htrivia hlast hclean hsimple
    rwa [← List.append_assoc, hsplit] at hafter

/-- The tree and the diagnostics of a check are those of the passage that its passage goes on to,
    after what precedes that one. -/
theorem checkSyntax_of_after {ss : List Statement} {ps : List Problem}
    (htokens : significantTokens tokens ≠ [])
    (hafter : (readStatements limit 0 .program (front ++ tokens)).After ss ps
      (readStatements limit 0 .program tokens)) :
    checkSyntax limit (front ++ tokens) =
      ⟨treeOf? (Statement.toNodes ss ++ (checkSyntax limit tokens).statements),
        ps.map (Problem.diagnose limit tokens) ++ (checkSyntax limit tokens).diagnostics⟩ := by
  have hwhole : significantTokens (front ++ tokens) ≠ [] := by
    simp [htokens]
  have hdiagnose : Problem.diagnose limit (front ++ tokens) = Problem.diagnose limit tokens :=
    funext (Problem.diagnose_append limit front htokens)
  rw [checkSyntax_of_significant hwhole, hafter.statements, hafter.problems, hdiagnose,
    Statement.toNodes_append, List.map_append, statements_checkSyntax,
    checkSyntax_of_significant htokens]

end fronts

/-- Recovery between lines is local. A line on which no statement begins is reported at its first
    token. What stands in front of it, simple statements without an error, and what stands behind it
    are checked as if they stood alone. The report is repeated for late trivia in front of the line,
    of which there are none if lines ascend. Without such a line nothing is reported but what is
    wrong behind the simple statements. -/
theorem checkSyntax_between_lines {limit : Nat} {front tokens : List Token}
    (hfront : IsSimpleProgram limit front) (htokens : significantTokens tokens ≠ []) :
    (∀ first line, IsStrayLine first line → (∀ t ∈ tokens.head?, first.line < t.line) →
      checkSyntax limit (front ++ line ++ tokens) =
        ⟨treeOf? ((checkSyntax limit front).statements ++ (checkSyntax limit tokens).statements),
          List.replicate (lateTrivia first.line front + 1) (strayDiagnostic limit first) ++
            (checkSyntax limit tokens).diagnostics⟩ ∧
      (LinesAscend (front ++ line) → lateTrivia first.line front = 0)) ∧
    ((∀ t ∈ (significantTokens tokens).head?, t.startsStatement = true) →
      checkSyntax limit (front ++ tokens) =
        ⟨treeOf? ((checkSyntax limit front).statements ++ (checkSyntax limit tokens).statements),
          (checkSyntax limit tokens).diagnostics⟩) := by
  have htrivia : upcoming (trailingTrivia front) = [] :=
    List.dropWhile_eq_nil_iff.mpr isTrivia_of_mem_trailingTrivia
  constructor
  · intro first line hline hbehind
    refine ⟨?_, fun hascend => lateTrivia_eq_zero hascend (List.mem_of_head? hline.head?_eq)⟩
    obtain ⟨more, rfl⟩ := hline.exists_eq_cons
    have hu : upcoming (trailingTrivia front ++ (first :: more ++ tokens)) =
        first :: (more ++ tokens) := by
      rw [upcoming_append_of_nil htrivia]
      simp [upcoming, hline.isTrivia_eq_false]
    -- of the four kinds that the first token may have none is an operator or a mark
    have hends : LookAlike (trailingTrivia front)
        (trailingTrivia front ++ (first :: more ++ tokens)) := by
      rcases hline.kind with hkind | hkind | hkind | hkind <;>
        exact lookAlike_of_kind htrivia hu (by simp [hkind]) (by simp [hkind])
    obtain ⟨ss, hss, hafter⟩ := exists_after_front hfront hends
    have hwhole := hafter.trans
      (readStatements_strayLine hline hbehind isTrivia_of_mem_trailingTrivia)
    rw [← List.append_assoc] at hwhole
    rw [checkSyntax_of_after htokens hwhole]
    simp [hss, lateTrivia, diagnose_stray]
  · intro hstarts
    obtain ⟨t, ys, hys⟩ := List.exists_cons_of_ne_nil htokens
    obtain ⟨rest, hu, -⟩ := exists_upcoming hys
    have ht : t.startsStatement = true := hstarts t (by simp [hys])
    have hkind : t.kind = .identifier ∨ t.kind = .keyword := by
      cases hkind : t.kind <;> simp_all [Token.startsStatement, Token.statementHead?]
    have hu' : upcoming (trailingTrivia front ++ tokens) = t :: rest := by
      rw [upcoming_append_of_nil htrivia, hu]
    have hends : LookAlike (trailingTrivia front) (trailingTrivia front ++ tokens) := by
      rcases hkind with hkind | hkind <;>
        exact lookAlike_of_kind htrivia hu' (by simp [hkind]) (by simp [hkind])
    obtain ⟨ss, hss, hafter⟩ := exists_after_front hfront hends
    -- trivia in front of a statement is passed over
    have hpassed : (readStatements limit 0 .program (trailingTrivia front ++ tokens)).After [] []
        (readStatements limit 0 .program tokens) := by
      obtain ⟨head, hhead⟩ := Option.isSome_iff_exists.mp ht
      rw [readStatements_of_head hu' hhead, readStatements_of_head hu hhead]
      exact ⟨rfl, rfl⟩
    have hwhole := hafter.trans hpassed
    rw [checkSyntax_of_after htokens hwhole]
    simp [hss]

/-- The theorem at four lines, of which the second begins with a number and the third one ends too
    early. -/
theorem checkSyntax_between_lines_number :
    let all := Lexer.tokenize {} "x = 1 # one\n2 y = 3\nz =\nprint(w)"
    let front := all.take 4
    let line := (all.drop 4).take 4
    let tokens := all.drop 8
    let first := line.head!
    IsSimpleProgram 8 front ∧ significantTokens tokens ≠ [] ∧ IsStrayLine first line ∧
      (∀ t ∈ tokens.head?, first.line < t.line) ∧
      (∀ t ∈ (significantTokens tokens).head?, t.startsStatement = true) ∧
      (checkSyntax 8 tokens).diagnostics.length = 1 ∧
      checkSyntax 8 (front ++ line ++ tokens) =
        ⟨treeOf? ((checkSyntax 8 front).statements ++ (checkSyntax 8 tokens).statements),
          List.replicate (lateTrivia first.line front + 1) (strayDiagnostic 8 first) ++
            (checkSyntax 8 tokens).diagnostics⟩ ∧
      lateTrivia first.line front = 0 ∧
      checkSyntax 8 (front ++ tokens) =
        ⟨treeOf? ((checkSyntax 8 front).statements ++ (checkSyntax 8 tokens).statements),
          (checkSyntax 8 tokens).diagnostics⟩ := by
  intro all front line tokens first
  have hfront : IsSimpleProgram 8 front := .inr ⟨by decide +kernel, by decide +kernel⟩
  have htokens : significantTokens tokens ≠ [] := by decide +kernel
  have hline : IsStrayLine first line :=
    ⟨by decide +kernel, by decide +kernel, by decide +kernel, by decide +kernel⟩
  have hbehind : ∀ t ∈ tokens.head?, first.line < t.line := by decide +kernel
  have hstarts : ∀ t ∈ (significantTokens tokens).head?, t.startsStatement = true := by
    decide +kernel
  have hascend : LinesAscend (front ++ line) := by decide +kernel
  obtain ⟨hwith, hwithout⟩ := checkSyntax_between_lines hfront htokens
  obtain ⟨hcheck, hlate⟩ := hwith first line hline hbehind
  exact ⟨hfront, htokens, hline, hbehind, hstarts, by decide +kernel, hcheck, hlate hascend,
    hwithout hstarts⟩

/-- If lines do not ascend, one report does not always do: here the search for a place to go on
    stops at a line end that bears a later line than the number behind it. -/
theorem strayLine_not_reported_once :
    ¬ ∀ (limit : Nat) (front line tokens : List Token) (first : Token),
      IsSimpleProgram limit front → significantTokens tokens ≠ [] → IsStrayLine first line →
      (∀ t ∈ tokens.head?, first.line < t.line) →
      (checkSyntax limit (front ++ line ++ tokens)).diagnostics =
        strayDiagnostic limit first :: (checkSyntax limit tokens).diagnostics := by
  intro h
  let token (kind : TokenKind) (lexeme : String) (line : Nat) : Token :=
    ⟨kind, lexeme, line, 1, .emptyAt 0⟩
  -- two line ends that bear line 9 stand in front of a number on line 5
  let front := [token .identifier "x" 1, token .operator "=" 1, token .number "1" 1,
    token .newline "\n" 9, token .newline "\n" 9]
  let line := [token .number "2" 5]
  let tokens := [token .identifier "y" 6, token .operator "=" 6, token .number "3" 6]
  have hline : IsStrayLine (token .number "2" 5) line :=
    ⟨by decide, by decide, by decide, by decide⟩
  have honce := h 64 front line tokens (token .number "2" 5)
    (.inr ⟨by decide +kernel, by decide +kernel⟩) (by decide) hline (by decide)
  have htwice : (checkSyntax 64 (front ++ line ++ tokens)).diagnostics.length = 2 := by
    decide +kernel
  have hnone : (checkSyntax 64 tokens).diagnostics.length = 0 := by decide +kernel
  rw [honce, List.length_cons, hnone] at htwice
  cases htwice

end ScriptCheck
