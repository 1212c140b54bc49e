import ScriptCheck.Analysis
import ScriptCheck.Proofs.Calls.Progress
import ScriptCheck.Proofs.Order.Diagnostics
import ScriptCheck.Proofs.Scanner.Tiling

/-! # Labels Point into the Source

  The reports on a rejected source mark pieces of that source. What is marked is a
  token, and then it is the text that the message quotes, or the empty place
  behind the last token. So marks always lie between characters, and the line that
  goes with one is the line on which it starts.

  An error is found at the end of the input because a statement was still being
  read, unless there was nothing to read at all. The first token of that statement
  has a label of its own.
-/

namespace ScriptCheck

/-! ## Section 1: Pieces of a source -/

/-- The mark covers the text that stands between the two others in the source. -/
structure Mark.Covers (m : Mark) (before text after source : String) : Prop where
  source_eq : source = before ++ text ++ after
  offset_eq : m.offset = before.utf8ByteSize
  length_eq : m.length = text.utf8ByteSize

/-- The mark covers its text exactly, so it begins and ends between characters. -/
def Mark.LiesIn (m : Mark) (source : String) : Prop :=
  ∃ before text after, m.Covers before text after source

section places
variable {t : Token} {before after source : String}

/-- A label on a token covers its lexeme. -/
theorem Token.StandsBetween.covers (h : t.StandsBetween before after source) (role : LabelRole)
    (note : String) : (Label.mark ⟨role, t.span, note⟩).Covers before t.lexeme after source where
  source_eq := h.source_eq
  offset_eq := h.start_eq
  length_eq := by
    simp only [Label.mark, Span.length, h.stop_eq, h.start_eq, String.utf8ByteSize_append]
    omega

theorem Token.StandsBetween.isEmpty_span (h : t.StandsBetween before after source) :
    t.span.isEmpty = false := by
  have hlt := h.start_lt_stop
  rw [Span.isEmpty, beq_eq_false_iff_ne]
  omega

/-- Every token of a source stands in it. -/
theorem Lexer.exists_standsBetween {lexer : Lexer} (h : t ∈ lexer.tokenize source) :
    ∃ before after, t.StandsBetween before after source := by
  obtain ⟨before, text, after, hsource, htext, hplace⟩ :=
    (lexer.tiles_tokenize source).exists_place t h
  exact ⟨_, _, standsBetween_of_place hsource htext hplace⟩

end places

/-- Where the last token ends; the start of the source if there is none. -/
def endOfTokens (tokens : List Token) : Nat := (tokens.getLast?.map (·.span.stop)).getD 0

/-- The line of the last significant token; the first line if there is none. -/
def lastLine (tokens : List Token) : Nat :=
  ((significantTokens tokens).getLast?.map (·.line)).getD 1

/-- An empty label behind the last token lies in the source. -/
theorem Lexer.liesIn_endOfTokens (lexer : Lexer) (source : String) (role : LabelRole)
    (note : String) :
    (Label.mark ⟨role, .emptyAt (endOfTokens (lexer.tokenize source)), note⟩).LiesIn source := by
  cases hlast : (lexer.tokenize source).getLast? with
  | none =>
    refine ⟨"", "", source, by simp, ?_, ?_⟩
    · simp [Label.mark, Span.emptyAt, endOfTokens, hlast]
    · simp [Label.mark, Span.emptyAt, Span.length]
  | some t =>
    obtain ⟨before, after, h⟩ := exists_standsBetween (List.mem_of_getLast? hlast)
    refine ⟨before ++ t.lexeme, "", after, ?_, ?_, ?_⟩
    · rw [String.append_empty]
      exact h.source_eq
    · simp only [Label.mark, Span.emptyAt, endOfTokens, hlast]
      exact h.stop_eq
    · simp [Label.mark, Span.emptyAt, Span.length]

/-! ## Section 2: Statements that the input leaves open -/

/-- A statement begins with the token, and the input ends before the statement does. -/
inductive IsOpenAtEnd (limit : Nat) (tokens : List Token) (t : Token) : Prop
  | intro {depth : Nat} {scope : Scope} {head : StatementHead} {obstacle : Obstacle}
      {input rest : List Token}
      (hreaches : Call.Reaches limit (.ofProgram tokens) (.statements depth scope input))
      (hu : upcoming input = t :: rest) (ht : t.statementHead? = some head)
      (hblocked : (readStatement limit depth head t.lexeme rest).outcome = .error obstacle)
      (hend : upcoming (readStatement limit depth head t.lexeme rest).rest = []) :
      IsOpenAtEnd limit tokens t

/-- The problem was found at the end of the input, in a statement that begins with the token. -/
def Problem.EndsIn (p : Problem) (t : Token) : Prop := ∃ obstacle, p = .blocked obstacle (some t) []

section problems
variable {limit : Nat} {tokens ahead : List Token} {t : Token} {obstacle : Obstacle}

theorem IsOpenAtEnd.mem (h : IsOpenAtEnd limit tokens t) : t ∈ tokens := by
  obtain ⟨hreaches, hu, -, -, -⟩ := h
  exact hreaches.suffix.mem ((hu ▸ upcoming_suffix _ : (t :: _) <:+ _).mem List.mem_cons_self)

/-- Where a problem has a first token of a statement and nothing ahead, the statement is open. -/
theorem isOpenAtEnd_of_mem
    (h : .blocked obstacle (some t) ahead ∈ (readProgram limit tokens).problems)
    (hend : ahead = []) : IsOpenAtEnd limit tokens t := by
  rcases Call.exists_finds h with ⟨-, hp⟩ | ⟨c, hreaches, hfinds⟩
  · cases hp
  · cases hfinds with
    | interrupted hu ht hfirst => exact ⟨hreaches, hu, ht, hfirst, hend⟩
    | stray => cases hend

/-- Without a first token there is nothing to read. -/
theorem significantTokens_of_mem
    (h : .blocked obstacle none ahead ∈ (readProgram limit tokens).problems) :
    significantTokens tokens = [] ∧ ahead = [] := by
  rcases Call.exists_finds h with ⟨hnil, hp⟩ | ⟨c, -, hfinds⟩
  · cases hp
    exact ⟨hnil, rfl⟩
  · cases hfinds

/-- The token at fault is one of the tokens. -/
theorem mem_of_ahead {p : Problem} (h : p ∈ (readProgram limit tokens).problems)
    (hahead : p.ahead = t :: ahead) : t ∈ tokens :=
  (readProgram_liesIn h).suffix.mem (hahead ▸ List.mem_cons_self)

end problems

/-! ## Section 3: What a diagnostic shows -/

/-- The diagnostic of a problem has these parts, and they show where the problem is. -/
structure Diagnostic.Locates (limit : Nat) (tokens : List Token) (source : String) (p : Problem)
    (d : Diagnostic) (code : ErrorCode) (line : Nat) (offending : Label) (contexts : List Label) :
    Prop where
  code_eq : d.code = some code
  line_eq : d.line = some line
  help_isSome : d.help.isSome = true
  labels_eq : d.labels = offending :: contexts
  role_eq : offending.role = .offending
  /-- All marks lie in the source, between characters. -/
  marks_lie : ∀ m ∈ (d.report source).marks, m.LiesIn source
  /-- The label at fault is empty just at the end of the input. -/
  isEmpty_iff : offending.span.isEmpty = true ↔ p.ahead = []
  /-- There it stands behind the last token, and the line is that of the last significant one. -/
  at_end : offending.span.isEmpty = true →
    offending.span.start = endOfTokens tokens ∧ line = lastLine tokens
  /-- Otherwise it covers the lexeme that the message quotes, and the line is where that starts. -/
  quoted : offending.span.isEmpty = false →
    code ≠ .unexpectedEnd ∧ ∃ before text after, offending.mark.Covers before text after source ∧
      d.message = faultMessage limit code text line ∧ line = 1 + before.toList.count '\n'
  /-- At the end of the input inside a statement a second label covers its first token. -/
  context : ∀ t, p.EndsIn t → IsOpenAtEnd limit tokens t ∧
    contexts = [⟨.context, t.span, "statement starts here"⟩]
  /-- There is no second label otherwise. -/
  no_context : (∀ t, ¬ p.EndsIn t) → contexts = []
  /-- At the end of the input some statement is open, unless there was nothing to read. -/
  nothing : p.ahead = [] → (∀ t, ¬ p.EndsIn t) → significantTokens tokens = []

/-- The diagnostic shows where the problem is. -/
def Diagnostic.PointsInto (limit : Nat) (tokens : List Token) (source : String) (p : Problem)
    (d : Diagnostic) : Prop :=
  ∃ code line offending contexts, d.Locates limit tokens source p code line offending contexts

/-- A diagnostic without a second label points to the token at fault. -/
theorem Diagnostic.locates_token {limit : Nat} {tokens : List Token} {source : String}
    {p : Problem} {d : Diagnostic} {code : ErrorCode} {t : Token} {ahead : List Token}
    {before after : String} (hstands : t.StandsBetween before after source)
    (hahead : p.ahead = t :: ahead) (hcode : code ≠ .unexpectedEnd)
    (hd : ∃ help, d = (atPlace limit code t.lexeme t.place).withHelp help) :
    d.Locates limit tokens source p code t.line ⟨.offending, t.span, code.description⟩ [] := by
  obtain ⟨help, rfl⟩ := hd
  have hcovers := hstands.covers .offending code.description
  have hnot (u : Token) : ¬ p.EndsIn u := by
    rintro ⟨obstacle, rfl⟩
    cases hahead
  -- a token has at least one byte, so this is not the case of the end of the input
  exact {
    code_eq := rfl
    line_eq := rfl
    help_isSome := rfl
    labels_eq := rfl
    role_eq := rfl
    marks_lie := by
      intro m hm
      exact List.mem_singleton.mp hm ▸ ⟨before, t.lexeme, after, hcovers⟩
    isEmpty_iff := by simp [hstands.isEmpty_span, hahead]
    at_end := by simp [hstands.isEmpty_span]
    quoted := fun _ => ⟨hcode, before, t.lexeme, after, hcovers, rfl, hstands.line_eq⟩
    context := fun u hu => absurd hu (hnot u)
    no_context := fun _ => rfl
    nothing := by simp [hahead] }

/-- A diagnostic at the end of the input points behind the last token and, if a statement is open,
    to the first token of it. -/
theorem Diagnostic.pointsInto_end {limit : Nat} {lexer : Lexer} {source : String}
    {obstacle : Obstacle} {start : Option Token}
    (hp : .blocked obstacle start [] ∈ (readProgram limit (lexer.tokenize source)).problems) :
    ((Problem.blocked obstacle start []).diagnose limit (lexer.tokenize source)).PointsInto limit
      (lexer.tokenize source) source (.blocked obstacle start []) := by
  have hlies := lexer.liesIn_endOfTokens source .offending (obstacle.code none).description
  refine ⟨obstacle.code none, lastLine (lexer.tokenize source),
    ⟨.offending, .emptyAt (endOfTokens (lexer.tokenize source)), (obstacle.code none).description⟩,
    (start.map fun t => ⟨.context, t.span, "statement starts here"⟩).toList, ?_⟩
  -- without a first token there is no second label, and nothing to read either
  cases start with
  | none =>
    exact {
      code_eq := rfl
      line_eq := rfl
      help_isSome := rfl
      labels_eq := rfl
      role_eq := rfl
      marks_lie := by
        intro m hm
        exact List.mem_singleton.mp hm ▸ hlies
      isEmpty_iff := by simp [Span.isEmpty, Span.emptyAt, Problem.ahead]
      at_end := fun _ => ⟨rfl, rfl⟩
      quoted := by simp [Span.isEmpty, Span.emptyAt]
      context := by
        rintro t ⟨obstacle', heq⟩
        cases heq
      no_context := fun _ => rfl
      nothing := fun _ _ => (significantTokens_of_mem hp).1 }
  | some t =>
    -- the second label needs its token to stand in the source, and it does as one of the tokens
    have hopen := isOpenAtEnd_of_mem hp rfl
    obtain ⟨before, after, hstands⟩ := Lexer.exists_standsBetween hopen.mem
    exact {
      code_eq := rfl
      line_eq := rfl
      help_isSome := rfl
      labels_eq := rfl
      role_eq := rfl
      marks_lie := by
        intro m hm
        rcases List.mem_pair.mp hm with rfl | rfl
        · exact hlies
        · exact ⟨before, t.lexeme, after, hstands.covers .context _⟩
      isEmpty_iff := by simp [Span.isEmpty, Span.emptyAt, Problem.ahead]
      at_end := fun _ => ⟨rfl, rfl⟩
      quoted := by simp [Span.isEmpty, Span.emptyAt]
      context := by
        rintro u ⟨obstacle', heq⟩
        cases heq
        exact ⟨hopen, rfl⟩
      no_context := fun hnot => absurd ⟨obstacle, rfl⟩ (hnot t)
      nothing := fun _ hnot => absurd ⟨obstacle, rfl⟩ (hnot t) }

theorem Obstacle.code_ne_unexpectedEnd (obstacle : Obstacle) (t : Token) :
    obstacle.code (some t) ≠ .unexpectedEnd := by
  cases obstacle with
  | tooDeep => simp [code]
  | expected what =>
    simp only [code, Token.faultCode]
    split
    · split <;> simp
    · simp

/-- Every diagnostic on a source shows where its problem is. -/
theorem Problem.pointsInto {limit : Nat} {lexer : Lexer} {source : String} {p : Problem}
    (hp : p ∈ (readProgram limit (lexer.tokenize source)).problems) :
    (p.diagnose limit (lexer.tokenize source)).PointsInto limit (lexer.tokenize source) source
      p := by
  -- a token at fault is one of the tokens, and these stand in the source
  cases p with
  | malformedNumber number after =>
    obtain ⟨before, rest, hstands⟩ := Lexer.exists_standsBetween (mem_of_ahead hp rfl)
    exact ⟨_, _, _, _, Diagnostic.locates_token hstands rfl (by simp) ⟨_, rfl⟩⟩
  | blocked obstacle start ahead =>
    cases ahead with
    | nil => exact Diagnostic.pointsInto_end hp
    | cons t ahead =>
      obtain ⟨before, after, hstands⟩ := Lexer.exists_standsBetween (mem_of_ahead hp rfl)
      exact ⟨_, _, _, _, Diagnostic.locates_token hstands rfl (obstacle.code_ne_unexpectedEnd t)
        ⟨obstacle.help, rfl⟩⟩

/-! ## Section 4: The main result -/

/-- The reports on a rejected source point into it. A failure keeps the source as it was given and
    has at least one diagnostic, and there is one report for each, in the same order. Each
    diagnostic shows where its problem is. -/
theorem reports_point_into_source (a : Analyzer) (source : String) (f : Failure)
    (h : a.check source = .error f) :
    let tokens := a.checkLexer.tokenize source
    let limit := a.settings.nestingLimit
    ∃ ds, f = .rejected ds source ∧ ds ≠ [] ∧ f.source? = some source ∧
      f.reports f.source? = ds.map (Diagnostic.report source) ∧
      List.Forall₂ (Diagnostic.PointsInto limit tokens source) (readProgram limit tokens).problems
        ds := by
  intro tokens limit
  cases hresult : (checkSyntax limit tokens).result with
  | ok tree => simp [Analyzer.check, Analyzer.parse, limit, tokens, hresult, Except.mapError] at h
  | error ds =>
    obtain ⟨hds, hne⟩ := SyntaxCheck.diagnostics_of_error hresult
    have hf : f = .rejected ds source := by
      unfold Analyzer.check Analyzer.parse at h
      rw [hresult] at h
      exact (Except.error.inj h).symm
    subst hf
    refine ⟨ds, rfl, hne, rfl, rfl, ?_⟩
    -- each diagnostic belongs to the problem that it was made from
    rw [hds, checkSyntax, List.forall₂_map_right_iff, List.forall₂_same]
    intro p hp
    exact p.pointsInto hp

/-- The theorem at a source with a character of two bytes, a malformed number and a statement in a
    body that is left open. -/
theorem reports_point_into_source_open_end :
    let a : Analyzer := {}
    let source := "é = 1.2.3\nif x:\n  y = ("
    let tokens := a.checkLexer.tokenize source
    ∃ f, a.check source = .error f ∧
      (f.reports f.source?).map (fun r => r.marks.map fun m => (m.offset, m.length)) =
        [[(5, 5)], [(24, 0), (19, 1)]] ∧
      ∃ ds, f = .rejected ds source ∧
        List.Forall₂ (Diagnostic.PointsInto 64 tokens source) (readProgram 64 tokens).problems
          ds := by
  intro a source tokens
  have hfailed : (a.parse source).succeeded = false := by decide +kernel
  have h : a.check source = .error (.rejected (a.parse source).diagnostics source) := by
    rw [Analyzer.check, SyntaxCheck.result_of_not_succeeded hfailed]
    rfl
  obtain ⟨ds, hf, -, -, -, hpoints⟩ := reports_point_into_source a source _ h
  exact ⟨_, h, by decide +kernel, ds, hf, hpoints⟩

end ScriptCheck
