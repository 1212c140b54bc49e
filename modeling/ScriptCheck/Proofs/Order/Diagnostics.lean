import ScriptCheck.Proofs.Order.Programs

/-! # Diagnostics Come in the Order of the Source

  The position of a problem is the index of the token at fault, and the
  diagnostic shows this token. Positions increase strictly along the diagnostics
  of a check, and so the lines that they name never decrease. No token has two
  diagnostics, only the last diagnostic can be about the end of the input, and an
  input without significant tokens has exactly one.
-/

namespace ScriptCheck

/-! ## Section 1: The problems of a program -/

/-- A program has the problems of its statements, or the one that there is no statement. -/
theorem readProgram_problems (limit : Nat) (tokens : List Token) :
    (readProgram limit tokens).problems = (readStatements limit 0 .program tokens).problems ∨
      (readStatements limit 0 .program tokens).problems = [] ∧
        (readProgram limit tokens).problems = [.blocked (.expected .statement) none []] := by
  simp only [readProgram]
  split
  · next h =>
    simp only [Bool.and_eq_true, List.isEmpty_iff] at h
    exact .inr ⟨h.2, rfl⟩
  · exact .inl rfl

/-- The problems of statements are problems of the program. -/
theorem prefix_readProgram (limit : Nat) (tokens : List Token) :
    (readStatements limit 0 .program tokens).problems <+: (readProgram limit tokens).problems := by
  rcases readProgram_problems limit tokens with h | ⟨h, -⟩
  · exact ⟨[], by rw [h, List.append_nil]⟩
  · exact ⟨_, by rw [h, List.nil_append]⟩

theorem readProgram_liesIn {limit : Nat} {tokens : List Token} {p : Problem}
    (hp : p ∈ (readProgram limit tokens).problems) : p.LiesIn tokens := by
  rcases readProgram_problems limit tokens with h | ⟨-, h⟩
  · rw [h] at hp
    exact (readStatements_ordered limit 0 .program False.elim).1.liesIn p hp
  · rw [h, List.mem_singleton] at hp
    subst hp
    exact ⟨List.nil_suffix, rfl⟩

theorem readProgram_precedes {ascending : Prop} {limit : Nat} {tokens : List Token}
    (hasc : ascending → LinesAscend tokens) :
    (readProgram limit tokens).problems.Pairwise (Problem.Precedes ascending) := by
  rcases readProgram_problems limit tokens with h | ⟨-, h⟩
  · rw [h]
    exact (readStatements_ordered limit 0 .program hasc).1.precedes
  · rw [h]
    exact List.pairwise_singleton ..

/-! ## Section 2: Positions and lines -/

namespace Problem

/-- The index of the token at fault; at the end of the input, the number of tokens. -/
def position (tokens : List Token) (p : Problem) : Nat := tokens.length - p.ahead.length

/-- The line of the token at fault; at the end of the input, that of the last significant token. -/
def line (tokens : List Token) (p : Problem) : Nat :=
  match p.ahead with
  | [] => (endOfInput tokens).line
  | t :: _ => t.line

/-- The place of the token at fault; at the end of the input, the place behind the last token. -/
def place (tokens : List Token) (p : Problem) : Place :=
  (p.ahead.head?.map Token.place).getD (endOfInput tokens)

/-- The lexeme of the token at fault. The end of the input has none. -/
def lexeme (p : Problem) : String := (p.ahead.head?.map (·.lexeme)).getD ""

def code : Problem → ErrorCode
  | .malformedNumber .. => .malformedNumber
  | .blocked obstacle _ ahead => obstacle.code ahead.head?

variable {tokens : List Token} {p q : Problem}

/-- The position is that of the token at fault. -/
theorem LiesIn.getElem?_position (h : p.LiesIn tokens) :
    tokens[p.position tokens]? = p.ahead.head? := by
  obtain ⟨front, hfront⟩ := h.suffix
  have hposition : p.position tokens = front.length := by
    rw [position, ← hfront, List.length_append]
    omega
  rw [hposition, ← hfront, List.getElem?_append_right (Nat.le_refl _), Nat.sub_self,
    List.head?_eq_getElem?]

/-- The token at fault is significant. -/
theorem LiesIn.isTrivia_eq_false (h : p.LiesIn tokens) {t : Token} (ht : t ∈ p.ahead.head?) :
    t.isTrivia = false := by
  cases hahead : p.ahead with
  | nil => simp [hahead] at ht
  | cons u rest =>
    obtain rfl : u = t := by simpa [hahead] using ht
    exact isTrivia_of_upcoming (h.upcoming_ahead.trans hahead)

theorem place_line (tokens : List Token) (p : Problem) : (p.place tokens).line = p.line tokens := by
  unfold place line
  cases p.ahead <;> rfl

/-- A diagnostic shows the token at fault, whatever the tokens are. Its line and its message are
    about this token, and the one label for what is at fault is on it. -/
theorem diagnose_shows (limit : Nat) (tokens : List Token) (p : Problem) :
    let d := p.diagnose limit tokens
    d.code = some p.code ∧ d.line = some (p.place tokens).line ∧
      d.message = faultMessage limit p.code p.lexeme (p.place tokens).line ∧
      d.labels.filter (·.role = .offending) =
        [⟨.offending, (p.place tokens).span, p.code.description⟩] := by
  cases p with
  | malformedNumber number after => exact ⟨rfl, rfl, rfl, rfl⟩
  | blocked obstacle start ahead =>
    -- only at the end of the input is there a label more, and that one is for the context
    cases ahead with
    | nil => cases start <;> exact ⟨rfl, rfl, rfl, rfl⟩
    | cons t rest => cases start <;> exact ⟨rfl, rfl, rfl, rfl⟩

/-- A diagnostic names the line of its problem. -/
theorem diagnose_line (limit : Nat) (tokens : List Token) (p : Problem) :
    (p.diagnose limit tokens).line = some (p.line tokens) := by
  rw [(p.diagnose_shows limit tokens).2.1, place_line]

/-- What comes behind a problem in the input comes behind its token. -/
theorem LiesIn.suffix_of_length_lt {t : Token} {rest : List Token} (hp : p.LiesIn tokens)
    (hahead : p.ahead = t :: rest) (hq : q.LiesIn tokens)
    (hlt : q.ahead.length < p.ahead.length) : q.ahead <:+ rest := by
  have hs : q.ahead <:+ t :: rest :=
    hahead ▸ List.suffix_of_suffix_length_le hq.suffix hp.suffix (Nat.le_of_lt hlt)
  -- what is ahead of the later problem is shorter, so it leaves out the first token at least
  rcases List.suffix_cons_iff.mp hs with heq | hs
  · rw [heq, hahead] at hlt
    exact absurd hlt (Nat.lt_irrefl _)
  · exact hs

theorem position_lt (hp : p.LiesIn tokens) (hlt : q.ahead.length < p.ahead.length) :
    p.position tokens < q.position tokens := by
  have := hp.length_le
  unfold position
  omega

/-- The last of some tokens is on the last of their lines. -/
theorem line_le_endOfInput (hasc : LinesAscend tokens) {t : Token} (ht : t ∈ tokens)
    (hsignificant : t.isTrivia = false) : t.line ≤ (endOfInput tokens).line := by
  have hmem : t ∈ significantTokens tokens := by simp [significantTokens, ht, hsignificant]
  have hsorted : (significantTokens tokens).Pairwise fun t u => t.line ≤ u.line :=
    hasc.sublist List.filter_sublist
  have hne : significantTokens tokens ≠ [] := List.ne_nil_of_mem hmem
  have hline : (endOfInput tokens).line = ((significantTokens tokens).getLast hne).line := by
    simp [endOfInput, List.getLast?_eq_some_getLast hne]
  rw [hline]
  rw [← List.dropLast_concat_getLast hne] at hmem hsorted
  -- the token is the last one, or it is in front of it
  rcases List.mem_append.mp hmem with hmem | hmem
  · exact (List.pairwise_append.mp hsorted).2.2 t hmem _ (List.mem_singleton_self _)
  · exact Nat.le_of_eq (congrArg Token.line (List.mem_singleton.mp hmem))

/-- A problem behind another one is on the same line or on a later one. -/
theorem line_le (hasc : LinesAscend tokens) (hp : p.LiesIn tokens) (hq : q.LiesIn tokens)
    (hlt : q.ahead.length < p.ahead.length) : p.line tokens ≤ q.line tokens := by
  cases hahead : p.ahead with
  | nil => simp [hahead] at hlt
  | cons t rest =>
    have hs := hp.suffix_of_length_lt hahead hq hlt
    have ht : t ∈ tokens := (hahead ▸ hp.suffix : (t :: rest) <:+ tokens).mem List.mem_cons_self
    have hrest : LinesAscend (t :: rest) := hasc.of_suffix (hahead ▸ hp.suffix)
    simp only [line, hahead]
    split
    · exact line_le_endOfInput hasc ht (hp.isTrivia_eq_false (by simp [hahead]))
    · next u later hlater =>
      have hu : u ∈ rest := hs.mem (by simp [hlater])
      exact List.rel_of_pairwise_cons hrest hu

/-- Fewer significant tokens are left at the later of two problems. -/
theorem significant_lt (hp : p.LiesIn tokens) (hq : q.LiesIn tokens)
    (hlt : q.ahead.length < p.ahead.length) :
    (significantTokens q.ahead).length < (significantTokens p.ahead).length := by
  cases hahead : p.ahead with
  | nil => simp [hahead] at hlt
  | cons t rest =>
    have hs := hp.suffix_of_length_lt hahead hq hlt
    have ht : t.isTrivia = false := hp.isTrivia_eq_false (by simp [hahead])
    rw [significantTokens_cons ht, List.length_cons]
    exact Nat.lt_succ_of_le (significantTokens_length_le hs)

end Problem

/-! ## Section 3: How many diagnostics there are -/

/-- Numbers that decrease from a bound on are no more than the bound and one. -/
theorem length_le_of_pairwise_gt {n : Nat} {ns : List Nat} (h : ns.Pairwise (· > ·))
    (hn : ∀ m ∈ ns, m ≤ n) : ns.length ≤ n + 1 := by
  induction ns generalizing n with
  | nil => exact Nat.zero_le _
  | cons m ns ih =>
    rw [List.pairwise_cons] at h
    have hm := hn m List.mem_cons_self
    cases m with
    | zero =>
      -- below zero there is no number, so zero is the last one
      cases ns with
      | nil => exact Nat.succ_le_succ (Nat.zero_le n)
      | cons k ns => exact absurd (h.1 k List.mem_cons_self) (Nat.not_lt_zero k)
    | succ m =>
      have hlength := ih h.2 fun k hk => Nat.le_of_lt_succ (h.1 k hk)
      rw [List.length_cons]
      omega

/-- The diagnostics of a check come in the order of the source and never two at one token. There is
    at most one for each significant token, and one more at the end of the input, which is then the
    last. Without significant tokens there is exactly one. -/
theorem diagnostics_in_order (limit : Nat) {tokens : List Token} (hasc : LinesAscend tokens) :
    let problems := (readProgram limit tokens).problems
    let diagnostics := (checkSyntax limit tokens).diagnostics
    diagnostics = problems.map (Problem.diagnose limit tokens) ∧
      (∀ p ∈ problems, tokens[p.position tokens]? = p.ahead.head? ∧
        ∀ t ∈ p.ahead.head?, t.isTrivia = false) ∧
      problems.Pairwise (fun p q => p.position tokens < q.position tokens) ∧
      diagnostics.Pairwise
        (fun d e => ∃ m n, d.line = some m ∧ e.line = some n ∧ m ≤ n) ∧
      diagnostics.length ≤ (significantTokens tokens).length + 1 ∧
      (∀ p ∈ problems.dropLast, p.ahead ≠ []) ∧
      (significantTokens tokens = [] → diagnostics.length = 1) := by
  intro problems diagnostics
  have hlies (p : Problem) (hp : p ∈ problems) : p.LiesIn tokens := readProgram_liesIn hp
  have hprecedes : problems.Pairwise (Problem.Precedes True) :=
    readProgram_precedes fun _ => hasc
  have hdescending : problems.Pairwise fun p q => q.ahead.length < p.ahead.length :=
    hprecedes.imp fun h => h.2 trivial
  -- the tokens left at the problems decrease, and all orders follow from this one
  refine ⟨rfl, ?_, ?_, ?_, ?_, ?_, ?_⟩
  · intro p hp
    exact ⟨(hlies p hp).getElem?_position, fun t ht => (hlies p hp).isTrivia_eq_false ht⟩
  · refine List.Pairwise.imp_of_mem ?_ hdescending
    intro p q hp _ hlt
    exact Problem.position_lt (hlies p hp) hlt
  · refine List.pairwise_map.mpr (List.Pairwise.imp_of_mem ?_ hdescending)
    intro p q hp hq hlt
    exact ⟨_, _, p.diagnose_line limit tokens, q.diagnose_line limit tokens,
      Problem.line_le hasc (hlies p hp) (hlies q hq) hlt⟩
  · have hlength : diagnostics.length =
        (problems.map fun p => (significantTokens p.ahead).length).length := by
      simp [diagnostics, checkSyntax, problems]
    rw [hlength]
    -- fewer significant tokens are left at each problem, and at most all of them at the first
    apply length_le_of_pairwise_gt
    · refine List.pairwise_map.mpr (List.Pairwise.imp_of_mem ?_ hdescending)
      intro p q hp hq hlt
      exact Problem.significant_lt (hlies p hp) (hlies q hq) hlt
    · intro m hm
      obtain ⟨p, hp, rfl⟩ := List.mem_map.mp hm
      exact ((hlies p hp).suffix.filter _).length_le
  · intro p hp
    have hne : problems ≠ [] := by
      intro hnil
      simp [hnil] at hp
    -- every problem but the last precedes another one, so it is not at the end
    have hsplit := hprecedes
    rw [← List.dropLast_concat_getLast hne] at hsplit
    exact ((List.pairwise_append.mp hsplit).2.2 p hp _ (List.mem_singleton_self _)).1
  · intro hnone
    -- nothing is read, and the program reports that a statement is missing
    have hu : upcoming tokens = [] := by
      cases hu : upcoming tokens with
      | nil => rfl
      | cons t rest => simp [significantTokens_of_upcoming_cons hu] at hnone
    simp [diagnostics, checkSyntax, readProgram, readStatements_of_nil hu, Passage.done]

/-- The theorem at two errors on two lines and an input that ends too early. -/
theorem diagnostics_in_order_three :
    let token (kind : TokenKind) (lexeme : String) (line : Nat) : Token :=
      ⟨kind, lexeme, line, 1, .emptyAt 0⟩
    let tokens := [token .identifier "x" 1, token .operator "=" 1, token .number "1.2.3" 1,
      token .newline "\n" 1, token .delimiter ")" 2, token .keyword "print" 2,
      token .comment "# more" 2]
    let problems := (readProgram 4 tokens).problems
    let diagnostics := (checkSyntax 4 tokens).diagnostics
    LinesAscend tokens ∧ problems.map (Problem.position tokens) = [2, 4, 7] ∧
      diagnostics = problems.map (Problem.diagnose 4 tokens) ∧
      (∀ p ∈ problems, tokens[p.position tokens]? = p.ahead.head? ∧
        ∀ t ∈ p.ahead.head?, t.isTrivia = false) ∧
      problems.Pairwise (fun p q => p.position tokens < q.position tokens) ∧
      diagnostics.Pairwise
        (fun d e => ∃ m n, d.line = some m ∧ e.line = some n ∧ m ≤ n) ∧
      diagnostics.length ≤ (significantTokens tokens).length + 1 ∧
      (∀ p ∈ problems.dropLast, p.ahead ≠ []) ∧
      (significantTokens tokens = [] → diagnostics.length = 1) := by
  intro token tokens problems diagnostics
  have hasc : LinesAscend tokens := by decide
  exact ⟨hasc, by decide +kernel, diagnostics_in_order 4 hasc⟩

end ScriptCheck
