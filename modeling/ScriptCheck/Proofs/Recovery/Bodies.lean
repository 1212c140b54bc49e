import ScriptCheck.Proofs.Completeness.Programs
import ScriptCheck.Proofs.Recovery.Checks
import ScriptCheck.Proofs.Recovery.Exchange
import ScriptCheck.Proofs.Recovery.Levels

/-! # Recovery inside a Body

  A body is read as a program would be, errors included. What stands in front of
  it, a header with its colon, is read alike whatever the body is. The body itself
  is read one level deeper, which makes no difference if there is one level more,
  and as long as a statement begins wherever one has to, a body does not end
  before the input does.
-/

namespace ScriptCheck

/-! ## Section 1: Headers -/

/-- What stands between the reserved word of a statement with a body and the colon. -/
inductive BodyHeader where
  | ifThen (condition : Expression)
  | whileLoop (condition : Expression)
  | forLoop (name : String) (iterable : Expression)
  | define (name : String) (parameters : List String)

namespace BodyHeader

/-- The statement with this header and this body, and no `else`. -/
def close : BodyHeader → List Statement → Statement
  | ifThen condition, body => .ifThen condition body
  | whileLoop condition, body => .whileLoop condition body
  | forLoop name iterable, body => .forLoop name iterable body
  | define name parameters, body => .define name parameters body

/-- The node of a statement with this header, over the node of its body. -/
def toNode : BodyHeader → Node → Node
  | ifThen condition, body => .conditional condition.toNode body none
  | whileLoop condition, body => .whileLoop condition.toNode body
  | forLoop name iterable, body => .forLoop name iterable.toNode body
  | define name parameters, body => .functionDef name parameters body

theorem toNode_close (header : BodyHeader) (body : List Statement) :
    (header.close body).toNode = header.toNode (.block (Statement.toNodes body)) := by
  cases header <;> rw [close, Statement.toNode, toNode]

end BodyHeader

/-- A header, after its reserved word. Statements without a body have none. -/
def readHeader (limit depth : Nat) (head : StatementHead) (input : List Token) :
    Reading BodyHeader input :=
  match head with
  | .ifWord => (readExpression limit depth 0 input).map .ifThen
  | .whileWord => (readExpression limit depth 0 input).map .whileLoop
  | .forWord =>
    (demandIdentifier input).andThen fun name rest₁ _ =>
      (demandKeyword "in" rest₁).andThen fun _ rest₂ _ =>
        (readExpression limit depth 0 rest₂).map (.forLoop name.lexeme)
  | .defWord =>
    (demandIdentifier input).andThen fun name rest₁ _ =>
      (demandPunctuation "(" rest₁).andThen fun _ rest₂ _ =>
        (readParameters rest₂).andThen fun parameters rest₃ _ =>
          (demandPunctuation ")" rest₃).map fun _ => .define name.lexeme parameters
  | .name | .printWord | .returnWord => .fail (.expected .statement) input

/-- Behind a header: the colon, the body and perhaps an `else`. -/
def readBehindHeader (limit depth : Nat) (header : BodyHeader) (input : List Token) :
    Reading Statement input :=
  (readBody limit depth input).andThen fun body rest _ =>
    match header with
    | .ifThen condition => readElse limit depth condition body rest
    | header => .done (header.close body) rest

namespace Reading

variable {α β γ : Type} {input : List Token}

theorem map_andThen (r : Reading α input) (f : α → β)
    (g : β → (rest : List Token) → rest.length ≤ input.length → Reading γ rest) :
    (r.map f).andThen g = r.andThen fun a rest hle => g (f a) rest hle := by
  obtain ⟨outcome, rest, problems, suffix⟩ := r
  cases outcome <;> rfl

theorem andThen_done (r : Reading α input) (f : α → β) :
    (r.andThen fun a rest _ => done (f a) rest) = r.map f := by
  obtain ⟨outcome, rest, problems, suffix⟩ := r
  cases outcome with
  | error obstacle => rfl
  | ok a => simp [andThen, done, map, Except.map]

theorem andThen_andThen (r : Reading α input)
    (f : α → (rest : List Token) → rest.length ≤ input.length → Reading β rest)
    (g : β → (rest : List Token) → rest.length ≤ input.length → Reading γ rest) :
    (r.andThen f).andThen g =
      r.andThen fun a rest hle => (f a rest hle).andThen fun b rest' hle' =>
        g b rest' (Nat.le_trans hle' hle) := by
  obtain ⟨outcome, rest, problems, suffix⟩ := r
  cases outcome with
  | error obstacle => rfl
  | ok a =>
    rcases hf : f a rest suffix.length_le with ⟨outcome, rest', problems', suffix'⟩
    cases outcome <;> simp [andThen, hf]

end Reading

/-- A statement with a body is its header and what comes behind it. -/
theorem readStatement_of_hasBody (limit depth : Nat) {head : StatementHead}
    (hhead : head.hasBody = true) (lexeme : String) (input : List Token) :
    readStatement limit depth head lexeme input =
      (readHeader limit depth head input).andThen fun header rest _ =>
        readBehindHeader limit depth header rest := by
  -- in each case the steps up to the colon are bracketed to the left, as one reading of the header
  cases head with
  | name | printWord | returnWord => cases hhead
  | ifWord =>
    rw [readStatement_if, readHeader, Reading.map_andThen]
    rfl
  | whileWord =>
    rw [readStatement, readHeader, Reading.map_andThen]
    apply Reading.andThen_congr
    intro condition rest hle
    exact (Reading.andThen_done _ _).symm
  | forWord =>
    rw [readStatement, readHeader, Reading.andThen_andThen]
    apply Reading.andThen_congr
    intro name rest₁ hle₁
    rw [Reading.andThen_andThen]
    apply Reading.andThen_congr
    intro word rest₂ hle₂
    rw [Reading.map_andThen]
    apply Reading.andThen_congr
    intro iterable rest₃ hle₃
    exact (Reading.andThen_done _ _).symm
  | defWord =>
    rw [readStatement, readHeader, Reading.andThen_andThen]
    apply Reading.andThen_congr
    intro name rest₁ hle₁
    rw [Reading.andThen_andThen]
    apply Reading.andThen_congr
    intro opening rest₂ hle₂
    rw [Reading.andThen_andThen]
    apply Reading.andThen_congr
    intro parameters rest₃ hle₃
    rw [Reading.map_andThen]
    apply Reading.andThen_congr
    intro closing rest₄ hle₄
    exact (Reading.andThen_done _ _).symm

/-! ## Section 2: Headers in front of a colon -/

theorem Token.binaryOperator?_of_colon {t : Token} (h : t.isPunctuation ":" = true) :
    t.binaryOperator? = none := by
  simp only [isPunctuation, Bool.and_eq_true, Bool.or_eq_true, beq_iff_eq] at h
  rw [binaryOperator?, h.2]
  split
  · decide
  · rfl

section colons
variable {colon : Token} (hcolon : colon.isPunctuation ":" = true) (behind behind' : List Token)
include hcolon

theorem upcoming_colon : upcoming (colon :: behind) = colon :: behind := by
  simp [upcoming, Token.isTrivia_of_isPunctuation hcolon]

/-- In front of a colon it does not show what is behind it. -/
theorem lookAlike_colon : LookAlike (colon :: behind) (colon :: behind') where
  noOperator := by simp [upcoming_colon hcolon, Token.binaryOperator?_of_colon hcolon]
  noOperator' := by simp [upcoming_colon hcolon, Token.binaryOperator?_of_colon hcolon]
  nextIs_eq text := by simp [nextIs, upcoming_colon hcolon]

/-- Parameters end in front of a colon. -/
theorem moreParameters_append_colon (zs : List Token) :
    moreParameters (zs ++ colon :: behind) =
      ((moreParameters zs).1, (moreParameters zs).2 ++ colon :: behind) := by
  have hkind := Token.kind_ne_identifier_of_isPunctuation hcolon
  have hcomma : colon.isPunctuation "," = false := by
    simp only [Token.isPunctuation, Bool.and_eq_true, beq_iff_eq] at hcolon
    simp [Token.isPunctuation, hcolon.2]
  have hend {ys : List Token} (hys : upcoming ys = []) :
      upcoming (ys ++ colon :: behind) = colon :: behind := by
    rw [upcoming_append_of_nil hys, upcoming_colon hcolon]
  -- the parameters end in the beginning, or in front of the colon, which is neither comma nor name
  fun_induction moreParameters zs with
  | case1 zs hu => exact moreParameters_of_not_comma (hend hu) hcomma
  | case2 zs comma rest hu _ ht hu' =>
    exact moreParameters_of_not_name (upcoming_append hu _) (by simp [hend hu', hkind])
  | case3 zs comma rest hu _ ht name rest' hu' _ hname names left hmore ih =>
    rw [moreParameters_of_name (upcoming_append hu _) ht (upcoming_append hu' _) hname, ih, hmore]
  | case4 zs comma rest hu _ ht name rest' hu' _ hname =>
    exact moreParameters_of_not_name (upcoming_append hu _)
      (by simpa [upcoming_append hu'] using hname)
  | case5 zs comma rest hu _ ht =>
    exact moreParameters_of_not_comma (upcoming_append hu _) (by simpa using ht)

theorem exchanges_readParameters (zs : List Token) :
    (readParameters (zs ++ colon :: behind)).Exchanges (colon :: behind) (colon :: behind')
      (readParameters (zs ++ colon :: behind')) := by
  have hkind := Token.kind_ne_identifier_of_isPunctuation hcolon
  cases hz : upcoming zs with
  | nil =>
    -- a colon is no name, so no parameter is read on either side
    rw [readParameters_of_cons ((upcoming_append_of_nil hz _).trans (upcoming_colon hcolon _)),
      readParameters_of_cons ((upcoming_append_of_nil hz _).trans (upcoming_colon hcolon _)),
      if_neg hkind, if_neg hkind]
    exact Reading.exchanges_done []
  | cons name zs' =>
    rw [readParameters_of_cons (upcoming_append hz _),
      readParameters_of_cons (upcoming_append hz _)]
    split
    · -- the loop stops somewhere in the beginning, and before either end the rest of it is left
      constructor
      intro names rest hclean _
      obtain ⟨hnames, hrest, -⟩ := hclean
      simp only [moreParameters_append_colon hcolon] at hnames hrest
      refine ⟨(moreParameters zs').2, hrest.symm, ?_, ?_, rfl⟩
      · simpa [moreParameters_append_colon hcolon] using hnames
      · simp [moreParameters_append_colon hcolon]
    · exact Reading.exchanges_done []

/-- A header does not depend on what is behind the colon. -/
theorem exchanges_readHeader (limit depth : Nat) (head : StatementHead) (zs : List Token) :
    (readHeader limit depth head (zs ++ colon :: behind)).Exchanges (colon :: behind)
      (colon :: behind') (readHeader limit depth head (zs ++ colon :: behind')) := by
  have hends := lookAlike_colon hcolon behind behind'
  cases head with
  | name | printWord | returnWord => exact Reading.exchanges_fail _ _
  | ifWord => exact (exchanges_readExpression hends limit depth 0 zs).map _
  | whileWord => exact (exchanges_readExpression hends limit depth 0 zs).map _
  | forWord =>
    rw [readHeader, readHeader]
    apply (Reading.exchanges_demand _ _ zs).andThen
    intro name ys₁ _ _ _
    apply (Reading.exchanges_demand _ _ ys₁).andThen
    intro word ys₂ _ _ _
    exact (exchanges_readExpression hends limit depth 0 ys₂).map _
  | defWord =>
    rw [readHeader, readHeader]
    apply (Reading.exchanges_demand _ _ zs).andThen
    intro name ys₁ _ _ _
    apply (Reading.exchanges_demand _ _ ys₁).andThen
    intro opening ys₂ _ _ _
    apply (exchanges_readParameters hcolon behind behind' ys₂).andThen
    intro parameters ys₃ _ _ _
    exact (Reading.exchanges_demand _ _ ys₃).map _

end colons

/-! ## Section 3: Headers of bodies -/

/-- The tokens of a header, from the reserved word through the colon, with no other colon between
    them. -/
structure HeaderTokens where
  word : Token
  middle : List Token
  colon : Token
  isKeyword : word.kind = .keyword
  opensBody : word.lexeme ∈ ["if", "while", "for", "def"]
  noColon : ∀ t ∈ middle, t.isPunctuation ":" = false
  isColon : colon.isPunctuation ":" = true

namespace HeaderTokens

/-- The tokens with others behind the colon. -/
def before (header : HeaderTokens) (behind : List Token) : List Token :=
  header.word :: (header.middle ++ header.colon :: behind)

theorem exists_head (header : HeaderTokens) :
    ∃ head : StatementHead, header.word.statementHead? = some head ∧ head.hasBody = true := by
  have hopens := header.opensBody
  simp only [List.mem_cons, List.not_mem_nil, or_false] at hopens
  rcases hopens with hword | hword | hword | hword
  · exact ⟨.ifWord, Token.statementHead?_eq_some_iff.mpr ⟨header.isKeyword, hword⟩, rfl⟩
  · exact ⟨.whileWord, Token.statementHead?_eq_some_iff.mpr ⟨header.isKeyword, hword⟩, rfl⟩
  · exact ⟨.forWord, Token.statementHead?_eq_some_iff.mpr ⟨header.isKeyword, hword⟩, rfl⟩
  · exact ⟨.defWord, Token.statementHead?_eq_some_iff.mpr ⟨header.isKeyword, hword⟩, rfl⟩

theorem upcoming_before (header : HeaderTokens) (behind : List Token) :
    upcoming (header.before behind) =
      header.word :: (header.middle ++ header.colon :: behind) := by
  simp [before, upcoming, Token.isTrivia, TokenKind.isTrivia, header.isKeyword]

end HeaderTokens

/-- If only one of some tokens is marked, then what is left behind a marked one is what is behind
    that one. -/
theorem eq_of_suffix_of_marked {marked : Token → Bool} {before after rest : List Token}
    {t mark : Token} (hs : t :: rest <:+ before ++ mark :: after) (ht : marked t = true)
    (hbefore : ∀ u ∈ before, marked u = false) (hafter : ∀ u ∈ after, marked u = false) :
    t = mark ∧ rest = after := by
  induction before with
  | nil =>
    rcases List.suffix_cons_iff.mp hs with heq | hlater
    · exact List.cons.inj heq
    · simp [hafter t (hlater.mem List.mem_cons_self)] at ht
  | cons u before ih =>
    rw [List.forall_mem_cons] at hbefore
    rcases List.suffix_cons_iff.mp hs with heq | hlater
    · rw [(List.cons.inj heq).1, hbefore.1] at ht
      cases ht
    · exact ih hlater hbefore.2

section bodies
variable {limit : Nat} {tokens : HeaderTokens} {head : StatementHead}

/-- If the tokens of a header with something behind them are read without an error, then the header
    is read alike whatever is behind them. -/
theorem exists_header (hhead : tokens.word.statementHead? = some head)
    (hbody : head.hasBody = true) {behind rest : List Token} {ss : List Statement}
    (hbehind : ∀ t ∈ behind, t.isPunctuation ":" = false)
    (hclean : (readStatements limit 0 .program (tokens.before behind)).Clean ss rest) :
    ∃ header zs, upcoming zs = [] ∧ ∀ behind',
      (readHeader limit 0 head (tokens.middle ++ tokens.colon :: behind')).Clean header
        (zs ++ tokens.colon :: behind') := by
  -- the clean reading is taken apart down to the colon: program, statement, what is behind the
  -- header, body
  rw [readStatements_of_head (tokens.upcoming_before behind) hhead,
    Passage.clean_precededBy_iff] at hclean
  obtain ⟨-, ss', hclean, -⟩ := hclean
  obtain ⟨s, mid, _, hfirst, -⟩ := Reading.clean_continueWith_iff.mp hclean
  rw [readStatement_of_hasBody limit 0 hbody, Reading.clean_andThen_iff] at hfirst
  obtain ⟨header, left, _, hheader, hbehindHeader⟩ := hfirst
  obtain ⟨body, left', _, hread, -⟩ := Reading.clean_andThen_iff.mp hbehindHeader
  rw [readBody, Reading.clean_andThen_iff] at hread
  obtain ⟨colon, later, _, hcolon, -⟩ := hread
  obtain ⟨hu, hcolon⟩ := clean_demand_iff.mp hcolon
  -- the colon that is read is that of the header
  have hs : colon :: later <:+ tokens.middle ++ tokens.colon :: behind :=
    (hu ▸ upcoming_suffix left : colon :: later <:+ left).trans hheader.suffix
  obtain ⟨rfl, rfl⟩ := eq_of_suffix_of_marked hs hcolon tokens.noColon hbehind
  have huntouched : Untouched (tokens.colon :: later) left :=
    .inr (hu ▸ upcoming_suffix left)
  obtain ⟨zs, hzs, -⟩ := (exchanges_readHeader tokens.isColon later later limit 0 head
    tokens.middle).of_clean hheader huntouched
  -- had something significant been left of the beginning, the colon would not be what is read next
  refine ⟨header, zs, ?_, fun behind' => ?_⟩
  · cases hup : upcoming zs with
    | nil => rfl
    | cons t zs' =>
      rw [hzs, upcoming_append hup] at hu
      have hlength := congrArg List.length (List.cons.inj hu).2
      simp only [List.length_append, List.length_cons] at hlength
      omega
  · obtain ⟨zs', hzs', hclean'⟩ := (exchanges_readHeader tokens.isColon later behind' limit 0 head
      tokens.middle).of_clean hheader huntouched
    obtain rfl := List.append_cancel_right (hzs.symm.trans hzs')
    exact hclean'

end bodies

/-! ## Section 4: Bodies to the end of the input -/

namespace Reading

variable {α β : Type} {input : List Token}

/-- The reading gives `a` and comes to the end of the input, with these problems on the way. -/
structure Finishes (r : Reading α input) (a : α) (ps : List Problem) : Prop where
  outcome : r.outcome = .ok a
  finished : upcoming r.rest = []
  problems : r.problems = ps

variable {r : Reading α input} {a : α} {b : β} {ps : List Problem}
  {f : α → (rest : List Token) → rest.length ≤ input.length → Reading β rest}

theorem Clean.andThen_finishes {mid : List Token} (h : r.Clean a mid)
    (hf : (f a mid h.suffix.length_le).Finishes b ps) : (r.andThen f).Finishes b ps := by
  obtain ⟨hs, rfl⟩ := h.exists_eq
  exact ⟨hf.outcome, hf.finished, hf.problems⟩

/-- At the end of the input nothing more is read. -/
theorem Finishes.andThen_done (h : r.Finishes a ps)
    (hf : ∀ rest hle, upcoming rest = [] → f a rest hle = done b rest) :
    (r.andThen f).Finishes b ps := by
  obtain ⟨outcome, rest, problems, suffix⟩ := r
  obtain ⟨rfl, hend, rfl⟩ := h
  simp only [andThen, hf rest suffix.length_le hend]
  exact ⟨rfl, hend, List.append_nil problems⟩

end Reading

section bodies
variable {limit : Nat} {tokens : HeaderTokens} {head : StatementHead} {header : BodyHeader}
  {body rest zs : List Token} {t : Token}

/-- A block in which a statement begins whenever one has to is a program one level deeper. -/
theorem finishes_readBlock (hu : upcoming body = t :: rest) (ht : t.startsStatement = true)
    (hstatements : ∀ p ∈ (readStatements limit 0 .program body).problems,
      p.missesStatement = false) :
    (readBlock (limit + 1) 1 body).Finishes (readStatements limit 0 .program body).statements
      (readStatements limit 0 .program body).problems := by
  obtain ⟨hbody, hend⟩ := readStatements_body_eq hstatements
  -- one level up the depth is 0, which no limit forbids
  have hblock : readBlock (limit + 1) 1 body =
      (readStatements limit 0 .program body).toReading := by
    rw [readBlock_succ limit 0 body, readBlock, if_neg (Nat.not_lt_zero limit), hu, hbody]
    simp only [ht, if_true]
  rw [hblock]
  exact ⟨rfl, hend, rfl⟩

theorem finishes_readBehindHeader (hcolon : tokens.colon.isPunctuation ":" = true)
    (hzs : upcoming zs = []) {ss : List Statement} {ps : List Problem}
    (hblock : (readBlock (limit + 1) 1 body).Finishes ss ps) :
    (readBehindHeader (limit + 1) 0 header (zs ++ tokens.colon :: body)).Finishes
      (header.close ss) ps := by
  have hnext : upcoming (zs ++ tokens.colon :: body) = tokens.colon :: body := by
    rw [upcoming_append_of_nil hzs, upcoming_colon hcolon]
  have hbody : (readBody (limit + 1) 0 (zs ++ tokens.colon :: body)).Finishes ss ps := by
    rw [readBody]
    exact (clean_demand_iff.mpr ⟨hnext, hcolon⟩).andThen_finishes hblock
  apply hbody.andThen_done
  -- only an `if` looks further, for an `else`, and nothing is left to find
  intro rest hle hend
  cases header with
  | ifThen condition => exact readElse_of_nil hend
  | _ => rfl

/-- A header with a body behind it is read as one statement. The statements in its body and the
    problems are those of the body as a program. -/
theorem readStatements_before (hhead : tokens.word.statementHead? = some head)
    (hbody : head.hasBody = true) (hzs : upcoming zs = [])
    (hheader : (readHeader (limit + 1) 0 head (tokens.middle ++ tokens.colon :: body)).Clean header
      (zs ++ tokens.colon :: body))
    (hu : upcoming body = t :: rest) (ht : t.startsStatement = true)
    (hstatements : ∀ p ∈ (readStatements limit 0 .program body).problems,
      p.missesStatement = false) :
    (readStatements (limit + 1) 0 .program (tokens.before body)).statements =
        [header.close (readStatements limit 0 .program body).statements] ∧
      (readStatements (limit + 1) 0 .program (tokens.before body)).problems =
        (readStatements limit 0 .program body).problems := by
  have hread : (readStatement (limit + 1) 0 head tokens.word.lexeme
      (tokens.middle ++ tokens.colon :: body)).Finishes
        (header.close (readStatements limit 0 .program body).statements)
        (readStatements limit 0 .program body).problems := by
    rw [readStatement_of_hasBody (limit + 1) 0 hbody]
    exact hheader.andThen_finishes
      (finishes_readBehindHeader tokens.isColon hzs (finishes_readBlock hu ht hstatements))
  -- behind the statement nothing is left to read
  rw [readStatements_of_head (tokens.upcoming_before body) hhead]
  generalize readStatement (limit + 1) 0 head tokens.word.lexeme
    (tokens.middle ++ tokens.colon :: body) = r at hread ⊢
  obtain ⟨outcome, left, problems, suffix⟩ := r
  obtain ⟨rfl, hend, rfl⟩ := hread
  simp only [Reading.continueWith, readStatements_of_nil hend]
  exact ⟨rfl, List.append_nil _⟩

end bodies

/-! ## Section 5: Checks -/

/-- The hint tells that a statement is missed. -/
theorem Problem.help_of_missesStatement {p : Problem} (h : p.missesStatement = true) (limit : Nat)
    (tokens : List Token) :
    (p.diagnose limit tokens).help = some "expected a statement" := by
  cases p with
  | malformedNumber number after => cases h
  | blocked obstacle start ahead =>
    cases obstacle with
    | tooDeep => cases h
    | expected what =>
      cases what with
      | statement => cases ahead <;> cases start <;> rfl
      | _ => cases h

section checks
variable {limit : Nat} {tokens : HeaderTokens} {head : StatementHead} {header : BodyHeader}
  {body zs : List Token} {t : Token}

theorem checkSyntax_before (hhead : tokens.word.statementHead? = some head)
    (hbody : head.hasBody = true) (hzs : upcoming zs = [])
    (hheader : (readHeader (limit + 1) 0 head (tokens.middle ++ tokens.colon :: body)).Clean header
      (zs ++ tokens.colon :: body))
    (hfirst : (significantTokens body).head? = some t) (ht : t.startsStatement = true)
    (hdiagnostics : ∀ d ∈ (checkSyntax limit body).diagnostics,
      d.code ≠ some .nestingTooDeep ∧ d.help ≠ some "expected a statement") :
    checkSyntax (limit + 1) (tokens.before body) =
      ⟨some (.program [header.toNode (.block (checkSyntax limit body).statements)]),
        (checkSyntax limit body).diagnostics⟩ := by
  obtain ⟨ys, hys⟩ := List.head?_eq_some_iff.mp hfirst
  obtain ⟨rest, hu, -⟩ := exists_upcoming hys
  have hsignificant : significantTokens body ≠ [] := by simp [hys]
  have hsplit : tokens.before body =
      (tokens.word :: (tokens.middle ++ [tokens.colon])) ++ body := by
    simp [HeaderTokens.before]
  have hwhole : significantTokens (tokens.before body) ≠ [] := by
    rw [hsplit, significantTokens_append]
    exact List.append_ne_nil_of_right_ne_nil _ hsignificant
  rw [checkSyntax_of_significant hsignificant] at hdiagnostics
  have hproblems (p : Problem) (hp : p ∈ (readStatements limit 0 .program body).problems) :=
    hdiagnostics _ (List.mem_map_of_mem hp)
  have hstatements : ∀ p ∈ (readStatements limit 0 .program body).problems,
      p.missesStatement = false := by
    intro p hp
    cases hmiss : p.missesStatement with
    | false => rfl
    -- its hint would tell
    | true => exact absurd (p.help_of_missesStatement hmiss limit body) (hproblems p hp).2
  obtain ⟨hss, hps⟩ := readStatements_before hhead hbody hzs hheader hu ht hstatements
  -- the place of a problem is the same, and the limit is not spoken of
  have hdiagnose : (readStatements limit 0 .program body).problems.map
        (Problem.diagnose (limit + 1) (tokens.before body)) =
      (readStatements limit 0 .program body).problems.map (Problem.diagnose limit body) := by
    apply List.map_congr_left
    intro p hp
    rw [hsplit, Problem.diagnose_append (limit + 1) _ hsignificant]
    exact Problem.diagnose_of_ne (limit + 1) (hproblems p hp).1
  rw [checkSyntax_of_significant hwhole, hss, hps, hdiagnose, statements_checkSyntax,
    checkSyntax_of_significant hsignificant, ← BodyHeader.toNode_close]
  rfl

/-- The assignment `x = 1` is read under every limit. -/
theorem clean_assignment (limit : Nat) {name sign one : Token}
    (hname : name.Spells .identifier "x") (hsign : sign.Spells .operator "=")
    (hone : one.Spells .number "1") :
    ∃ rest, (readStatements limit 0 .program [name, sign, one]).Clean
      [.assign "x" (.value "1")] rest := by
  have hyields : (StatementPhrase.statements [.assign "x" (.value "1")]).Yields 0
      [name, sign, one] := by
    have hvalue := ExpressionPhrase.Yields.value (.inr (.inl hone.1) : one.IsValue)
    have hassign := StatementPhrase.Yields.assign hname.1 hsign hvalue
    rw [hname.2, hone.2] at hassign
    exact .last hassign
  have hsignificant : significantTokens [name, sign, one] = [name, sign, one] := by
    simp [significantTokens, Token.isTrivia, TokenKind.isTrivia, hname.1, hsign.1, hone.1]
  have hnumbers : NoneMalformed [name, sign, one] := by
    simp [NoneMalformed, Token.isMalformedNumber, hname.1, hsign.1, hone.2]
  have hread : (readStatements limit 0 .program [name, sign, one]).Guarded (0 ≤ limit)
      [.assign "x" (.value "1")] [] :=
    guarded_program (by rwa [hsignificant]) rfl (by rwa [hsignificant])
  obtain ⟨rest, hclean, -⟩ := hread.clean (Nat.zero_le limit)
  exact ⟨rest, hclean⟩

end checks

/-- Recovery inside a body is the same as in a program. Let the tokens of a header with `x = 1`
    behind them check without an error. If something else is behind them, in which no statement is
    missed and nothing is nested too deeply, then the check reports what a check of that alone
    reports, at a limit that is one lower, and shows the same statements in the body. -/
theorem checkSyntax_body {limit : Nat} (tokens : HeaderTokens) {name sign one : Token}
    (hname : name.Spells .identifier "x") (hsign : sign.Spells .operator "=")
    (hone : one.Spells .number "1")
    (hheader : (checkSyntax (limit + 1) (tokens.before [name, sign, one])).succeeded = true) :
    ∃ header : BodyHeader,
      (checkSyntax (limit + 1) (tokens.before [name, sign, one])).tree =
        some (.program [header.toNode (.block [.assign "x" (.value "1")])]) ∧
      ∀ body t, (significantTokens body).head? = some t → t.startsStatement = true →
        (∀ d ∈ (checkSyntax limit body).diagnostics,
          d.code ≠ some .nestingTooDeep ∧ d.help ≠ some "expected a statement") →
        checkSyntax (limit + 1) (tokens.before body) =
          ⟨some (.program [header.toNode (.block (checkSyntax limit body).statements)]),
            (checkSyntax limit body).diagnostics⟩ := by
  -- the header is fixed by the reading that has the assignment behind it, before any other body is
  -- looked at
  obtain ⟨head, hhead, hbody⟩ := tokens.exists_head
  obtain ⟨ss, rest, -, hclean⟩ := checkSyntax_succeeded_iff.mp hheader
  have hnoColon : ∀ t ∈ [name, sign, one], t.isPunctuation ":" = false := by
    simp [Token.isPunctuation, hname.1, hsign.2, hone.1]
  obtain ⟨header, zs, hzs, hread⟩ := exists_header hhead hbody hnoColon hclean
  obtain ⟨left, hassign⟩ := clean_assignment limit hname hsign hone
  have hnone : (checkSyntax limit [name, sign, one]).diagnostics = [] := by
    have hsucceeded := checkSyntax_succeeded_iff.mpr ⟨_, left, List.cons_ne_nil _ _, hassign⟩
    exact List.isEmpty_iff.mp hsucceeded
  have hstatements : (checkSyntax limit [name, sign, one]).statements =
      [.assign "x" (.value "1")] := by
    rw [statements_checkSyntax, hassign.statements]
    rfl
  have hfirst : (significantTokens [name, sign, one]).head? = some name := by
    simp [significantTokens, Token.isTrivia, TokenKind.isTrivia, hname.1]
  have hstarts : name.startsStatement = true := by
    simp [Token.startsStatement, Token.statementHead?, hname.1]
  -- both parts are cases of one lemma, the first one with the assignment itself as the body
  refine ⟨header, ?_, ?_⟩
  · rw [checkSyntax_before hhead hbody hzs (hread _) hfirst hstarts (by simp [hnone]), hstatements]
  · intro body t hfirst ht hdiagnostics
    exact checkSyntax_before hhead hbody hzs (hread body) hfirst ht hdiagnostics

/-- The theorem at the header of a loop, with a body in which the first of two statements has no
    value. -/
theorem checkSyntax_body_while :
    let token (kind : TokenKind) (lexeme : String) (line : Nat) : Token :=
      ⟨kind, lexeme, line, 1, .emptyAt 0⟩
    let tokens : HeaderTokens :=
      ⟨token .keyword "while" 1, [token .identifier "a" 1, token .comment "# more" 1],
        token .delimiter ":" 1, rfl, by decide, by decide, by decide⟩
    let assignment := [token .identifier "x" 2, token .operator "=" 2, token .number "1" 2]
    let body := [token .identifier "y" 2, token .operator "=" 2, token .keyword "print" 3,
      token .delimiter "(" 3, token .identifier "b" 3, token .delimiter ")" 3]
    (checkSyntax 5 (tokens.before assignment)).succeeded = true ∧
      (significantTokens body).head? = some (token .identifier "y" 2) ∧
      (token .identifier "y" 2).startsStatement = true ∧
      (∀ d ∈ (checkSyntax 4 body).diagnostics,
        d.code ≠ some .nestingTooDeep ∧ d.help ≠ some "expected a statement") ∧
      (checkSyntax 4 body).diagnostics.length = 1 ∧
      (checkSyntax 4 body).statements.map Node.kind = [.print] ∧
      ∃ header : BodyHeader,
        (checkSyntax 5 (tokens.before assignment)).tree =
          some (.program [header.toNode (.block [.assign "x" (.value "1")])]) ∧
        checkSyntax 5 (tokens.before body) =
          ⟨some (.program [header.toNode (.block (checkSyntax 4 body).statements)]),
            (checkSyntax 4 body).diagnostics⟩ := by
  intro token tokens assignment body
  have hheader : (checkSyntax 5 (tokens.before assignment)).succeeded = true := by decide +kernel
  have hdiagnostics : ∀ d ∈ (checkSyntax 4 body).diagnostics,
      d.code ≠ some .nestingTooDeep ∧ d.help ≠ some "expected a statement" := by
    decide +kernel
  obtain ⟨header, htree, hbody⟩ :=
    checkSyntax_body tokens ⟨rfl, rfl⟩ ⟨rfl, rfl⟩ ⟨rfl, rfl⟩ hheader
  exact ⟨hheader, rfl, rfl, hdiagnostics, by decide +kernel, by decide +kernel, header, htree,
    hbody body _ rfl rfl hdiagnostics⟩

end ScriptCheck
