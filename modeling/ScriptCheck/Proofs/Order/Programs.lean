import ScriptCheck.Proofs.Order.Expressions

/-! # The Order of Problems in Programs

  Problems come in the order of the input, and no two of them at one place. Only
  the last one can be about the end of the input.

  A list of statements reads on after an obstacle, so it has to be shown that it
  gets past the token at fault. If lines never decrease, the trivia in front of
  that token cannot stop the search for a place to go on. The search then either
  passes over the token or stops at it because a statement starts with it; and
  that statement consumes it before anything else can be found.

  At the end of the input nothing more is demanded: what was read so far is
  complete, or has just been reported.
-/

namespace ScriptCheck

/-! ## Section 1: Lines -/

/-- Lines never decrease along the tokens. -/
def LinesAscend (tokens : List Token) : Prop := tokens.Pairwise fun t u => t.line ≤ u.line

instance (tokens : List Token) : Decidable (LinesAscend tokens) :=
  inferInstanceAs (Decidable (tokens.Pairwise _))

theorem LinesAscend.of_suffix {later tokens : List Token} (h : LinesAscend tokens)
    (hs : later <:+ tokens) : LinesAscend later :=
  List.Pairwise.sublist hs.sublist h

theorem Token.startsStatement_of_isStatementKeyword {t : Token}
    (h : t.isStatementKeyword = true) : t.startsStatement = true := by
  simp only [isStatementKeyword, Bool.and_eq_true, beq_iff_eq] at h
  simp [startsStatement, statementHead?, h.1, h.2]

theorem Token.isStatementKeyword_of_isTrivia {t : Token} (h : t.isTrivia = true) :
    t.isStatementKeyword = false := by
  cases hkind : t.kind <;> simp_all [isTrivia, TokenKind.isTrivia, isStatementKeyword]

theorem Token.isStatementKeyword_of_statementHead {t : Token} (h : t.statementHead? = none) :
    t.isStatementKeyword = false := by
  by_cases ht : t.isStatementKeyword = true
  · have hstart := startsStatement_of_isStatementKeyword ht
    simp [startsStatement, h] at hstart
  · simpa using ht

section resume
variable {tokens rest : List Token} {t : Token}

/-- At the token at fault the search stops only if a statement's reserved word is at fault. -/
theorem resume_self : resume (t :: rest) (t :: rest) =
    if t.isStatementKeyword then t :: rest else resume (t :: rest) rest := by
  cases ht : t.isStatementKeyword <;> simp [resume, ht]

/-- The trivia in front of the token at fault does not stop the search. -/
theorem resume_of_upcoming (h : LinesAscend tokens) (hu : upcoming tokens = t :: rest) :
    resume (t :: rest) tokens = resume (t :: rest) (t :: rest) := by
  -- along the trivia, none of which is on a later line or a reserved word
  induction tokens with
  | nil => simp [upcoming] at hu
  | cons u us ih =>
    by_cases hu' : u.isTrivia = true
    · have hus : upcoming us = t :: rest := by simpa [upcoming, hu'] using hu
      have hmem : t ∈ us := (hus ▸ upcoming_suffix us : (t :: rest) <:+ us).mem List.mem_cons_self
      have hline : u.line ≤ t.line := List.rel_of_pairwise_cons h hmem
      rw [← ih (h.of_suffix (List.suffix_cons u us)) hus]
      simp [resume, Token.isStatementKeyword_of_isTrivia hu', hline]
    · have hcons : u :: us = t :: rest := by simpa [upcoming, hu'] using hu
      rw [hcons]

/-- The search passes over a token at fault that starts no statement, also if it begins behind the
    trivia in front of that token. -/
theorem resume_tail_of_upcoming (h : LinesAscend tokens) (hu : upcoming tokens = t :: rest)
    (ht : t.isStatementKeyword = false) :
    resume (t :: rest) tokens.tail = resume (t :: rest) rest := by
  cases tokens with
  | nil => simp [upcoming] at hu
  | cons u us =>
    -- either trivia is in front, which the search passes over, or the first token is the one at
    -- fault
    by_cases hu' : u.isTrivia = true
    · have hus : upcoming us = t :: rest := by simpa [upcoming, hu'] using hu
      rw [List.tail_cons, resume_of_upcoming (h.of_suffix (List.suffix_cons u us)) hus,
        resume_self, ht]
      rfl
    · have hcons : u :: us = t :: rest := by simpa [upcoming, hu'] using hu
      rw [hcons, List.tail_cons]

end resume

/-! ## Section 2: Ordered readings -/

/-- The first problem was not found at the end of the input, and the second one was found behind it
    if lines ascend. -/
def Problem.Precedes (ascending : Prop) (p q : Problem) : Prop :=
  p.ahead ≠ [] ∧ (ascending → q.ahead.length < p.ahead.length)

namespace Reading

variable {α β : Type} {ascending : Prop} {input : List Token}

/-- The problems are in order, and what is left begins behind them. A problem at the end of the
    input has been dealt with, and nothing is left. -/
structure Ordered (ascending : Prop) (r : Reading α input) : Prop where
  liesIn : ∀ p ∈ r.problems, p.LiesIn input
  precedes : r.problems.Pairwise (Problem.Precedes ascending)
  behind : ∀ p ∈ r.problems, p.ahead ≠ [] → ascending → r.rest.length < p.ahead.length
  finished : ∀ p ∈ r.problems, p.ahead = [] → r.rest = [] ∧ ∃ a, r.outcome = .ok a

theorem Forward.ahead_ne_nil {r : Reading α input} (h : r.Forward) {p : Problem}
    (hp : p ∈ r.problems) : p.ahead ≠ [] := by
  intro hnil
  have := h.behind p hp
  simp [hnil] at this

theorem Forward.ordered {r : Reading α input} (h : r.Forward) : r.Ordered ascending where
  liesIn := h.liesIn
  precedes := by
    refine List.Pairwise.imp_of_mem ?_ h.descending
    intro p q hp _ hlt
    exact ⟨h.ahead_ne_nil hp, fun _ => hlt⟩
  behind p hp _ _ := h.behind p hp
  finished p hp hnil := absurd hnil (h.ahead_ne_nil hp)

theorem Ordered.seenFrom {later : List Token} {r : Reading α later} (h : r.Ordered ascending)
    (hs : later <:+ input) : (Reading.seenFrom hs r).Ordered ascending where
  liesIn p hp := (h.liesIn p hp).of_suffix hs
  precedes := h.precedes
  behind := h.behind
  finished := h.finished

theorem Ordered.map {r : Reading α input} (h : r.Ordered ascending) (f : α → β) :
    (r.map f).Ordered ascending where
  liesIn := h.liesIn
  precedes := h.precedes
  behind := h.behind
  finished p hp hnil := by
    obtain ⟨hrest, a, ha⟩ := h.finished p hp hnil
    exact ⟨hrest, f a, by simp [Reading.map, ha, Except.map]⟩

/-- After a problem at the end of the input the second reading has nothing to find. -/
theorem Ordered.andThen {r : Reading α input}
    {f : α → (rest : List Token) → rest.length ≤ input.length → Reading β rest}
    (h : r.Ordered ascending)
    (hf : ∀ a rest (hs : rest <:+ input), (f a rest hs.length_le).Ordered ascending)
    (hend : (∃ p ∈ r.problems, p.ahead = []) → ∀ a hle, ∃ b, f a [] hle = .done b []) :
    (r.andThen f).Ordered ascending := by
  obtain ⟨outcome, rest, problems, suffix⟩ := r
  cases outcome with
  | error obstacle =>
    refine ⟨h.liesIn, h.precedes, h.behind, ?_⟩
    intro p hp hnil
    obtain ⟨-, a, ha⟩ := h.finished p hp hnil
    cases ha
  | ok a =>
    -- what a problem at the end of the input leaves is empty
    by_cases hlast : ∃ p ∈ problems, p.ahead = []
    · obtain ⟨p, hp, hnil⟩ := hlast
      obtain ⟨hrest, -⟩ := h.finished p hp hnil
      simp only at hrest
      subst hrest
      obtain ⟨b, hb⟩ := hend ⟨p, hp, hnil⟩ a suffix.length_le
      simp only [Reading.andThen, hb, done, List.append_nil]
      exact ⟨h.liesIn, h.precedes, h.behind, fun _ _ _ => ⟨rfl, b, rfl⟩⟩
    · have hne (p : Problem) (hp : p ∈ problems) : p.ahead ≠ [] := fun hnil => hlast ⟨p, hp, hnil⟩
      have hnext := hf a rest suffix
      -- otherwise the second reading finds its problems in what is left behind those of the first
      have hlater (q : Problem) (hq : q ∈ (f a rest suffix.length_le).problems) :
          q.ahead.length ≤ rest.length := (hnext.liesIn q hq).length_le
      constructor
      · intro p hp
        rcases List.mem_append.mp hp with hp | hp
        · exact h.liesIn p hp
        · exact (hnext.liesIn p hp).of_suffix suffix
      · refine List.pairwise_append.mpr ⟨h.precedes, hnext.precedes, ?_⟩
        intro p hp q hq
        refine ⟨hne p hp, fun hasc => ?_⟩
        exact Nat.lt_of_le_of_lt (hlater q hq) (h.behind p hp (hne p hp) hasc)
      · intro p hp hahead hasc
        rcases List.mem_append.mp hp with hp | hp
        · exact Nat.lt_of_le_of_lt (f a rest suffix.length_le).suffix.length_le
            (h.behind p hp hahead hasc)
        · exact hnext.behind p hp hahead hasc
      · intro p hp hnil
        rcases List.mem_append.mp hp with hp | hp
        · exact absurd hnil (hne p hp)
        · exact hnext.finished p hp hnil

/-- Readings that move forward have no problem at the end of the input. -/
theorem Forward.andThen_ordered {r : Reading α input}
    {f : α → (rest : List Token) → rest.length ≤ input.length → Reading β rest} (h : r.Forward)
    (hf : ∀ a rest (hs : rest <:+ input), (f a rest hs.length_le).Ordered ascending) :
    (r.andThen f).Ordered ascending := by
  refine h.ordered.andThen hf ?_
  intro ⟨p, hp, hnil⟩
  exact absurd hnil (h.ahead_ne_nil hp)

end Reading

/-! ## Section 3: Statements in a row -/

namespace Reading

variable {input : List Token} {r : Reading Statement input} {start : Token}
  {more : (left : List Token) → left.length ≤ input.length → Passage left}

/-- What was read, whether or not an obstacle ended it. -/
def settled {α : Type} (r : Reading α input) : Reading Unit input :=
  ⟨.ok (), r.rest, r.problems, r.suffix⟩

/-- Report an obstacle in front of the tokens, and go on where reading goes on. -/
def report (obstacle : Obstacle) (start : Token) (tokens : List Token)
    (next : Passage (resume (upcoming tokens) tokens)) : Reading (List Statement) tokens :=
  (next.precededBy (resume_suffix _ tokens) [] [.blocked obstacle (some start) (upcoming tokens)]
    ).toReading

/-- Behind a statement that was read the others are read. -/
theorem continueWith_of_ok {s : Statement} (h : r.outcome = .ok s) :
    (r.continueWith start more).toReading =
      r.andThen fun s rest hle => (more rest hle).toReading.map (s :: ·) := by
  obtain ⟨outcome, rest, problems, suffix⟩ := r
  obtain rfl : outcome = .ok s := h
  rfl

/-- Behind an obstacle it is reported, and the others are read. -/
theorem continueWith_of_error {obstacle : Obstacle} (h : r.outcome = .error obstacle) :
    (r.continueWith start more).toReading =
      r.settled.andThen fun _ rest hle =>
        report obstacle start rest
          (more _ (Nat.le_trans (resume_suffix _ rest).length_le hle)) := by
  obtain ⟨outcome, rest, problems, suffix⟩ := r
  obtain rfl : outcome = .error obstacle := h
  simp [continueWith, settled, report, andThen, Passage.toReading, Passage.precededBy]

end Reading

/-! ## Section 4: Ordered passages -/

/-- If a statement starts with the next token, that token is consumed before a problem is found. -/
def Passage.Consumes {input : List Token} (p : Passage input) : Prop :=
  ∀ t rest, upcoming input = t :: rest → t.startsStatement = true →
    p.rest <:+ rest ∧ ∀ q ∈ p.problems, q.ahead <:+ rest

section passages
variable {ascending : Prop} {left input rest : List Token} {t : Token}

/-- A passage that begins where reading goes on stays behind the token at fault. -/
theorem Passage.behind_fault {p : Passage left} (hp : p.toReading.Ordered ascending)
    (hconsumes : p.Consumes) (ht : t.isTrivia = false)
    (hleft : left = t :: rest ∧ t.isStatementKeyword = true ∨ left <:+ rest) :
    p.rest.length ≤ rest.length ∧ ∀ q ∈ p.problems, q.ahead.length ≤ rest.length := by
  rcases hleft with ⟨rfl, hword⟩ | hs
  -- the passage begins with the token at fault and consumes it
  · have hu : upcoming (t :: rest) = t :: rest := by simp [upcoming, ht]
    obtain ⟨hrest, hproblems⟩ :=
      hconsumes t rest hu (Token.startsStatement_of_isStatementKeyword hword)
    exact ⟨hrest.length_le, fun q hq => (hproblems q hq).length_le⟩
  · refine ⟨(p.suffix.trans hs).length_le, fun q hq => ?_⟩
    exact Nat.le_trans (hp.liesIn q hq).length_le hs.length_le

/-- A problem and a passage that begins where reading goes on are in order. -/
theorem Passage.ordered_precededBy {obstacle : Obstacle} {start : Option Token}
    {p : Passage left} (hp : p.toReading.Ordered ascending) (hconsumes : p.Consumes)
    (hs : left <:+ input) (hend : upcoming input = [] → p.problems = [] ∧ p.rest = [])
    (hleft : ∀ t rest, upcoming input = t :: rest → ascending →
      left = t :: rest ∧ t.isStatementKeyword = true ∨ left <:+ rest) :
    (p.precededBy hs [] [.blocked obstacle start (upcoming input)]).toReading.Ordered
      ascending := by
  -- the passage goes on behind the token at fault, wherever reading is resumed
  have hbehind {t : Token} {rest : List Token} (hu : upcoming input = t :: rest)
      (ha : ascending) :
      p.rest.length ≤ rest.length ∧ ∀ q ∈ p.problems, q.ahead.length ≤ rest.length :=
    Passage.behind_fault hp hconsumes (isTrivia_of_upcoming hu) (hleft t rest hu ha)
  constructor
  · intro q hq
    rcases List.mem_cons.mp hq with rfl | hq
    · exact ⟨List.suffix_rfl, upcoming_upcoming input⟩
    · exact (hp.liesIn q hq).of_suffix hs
  · -- the new problem is in front of all that the passage finds
    refine List.pairwise_cons.mpr ⟨fun q hq => ?_, hp.precedes⟩
    cases hu : upcoming input with
    | nil =>
      rw [(hend hu).1] at hq
      cases hq
    | cons t rest =>
      refine ⟨List.cons_ne_nil t rest, fun ha => ?_⟩
      exact Nat.lt_succ_of_le ((hbehind hu ha).2 q hq)
  · intro q hq hahead ha
    rcases List.mem_cons.mp hq with rfl | hq
    · cases hu : upcoming input with
      | nil => exact absurd hu hahead
      | cons t rest => exact Nat.lt_succ_of_le (hbehind hu ha).1
    · exact hp.behind q hq hahead ha
  · intro q hq hahead
    rcases List.mem_cons.mp hq with rfl | hq
    · exact ⟨(hend hahead).2, _, rfl⟩
    · exact ⟨(hp.finished q hq hahead).1, _, rfl⟩

/-- What follows the obstacle in a statement comes behind the token at fault. -/
theorem Reading.Ordered.continueWith {r : Reading Statement input} {start : Token}
    {more : (left : List Token) → left.length ≤ input.length → Passage left}
    (h : r.Ordered ascending) (hasc : ascending → LinesAscend input)
    (hmore : ∀ left (hs : left <:+ input),
      (more left hs.length_le).toReading.Ordered ascending ∧ (more left hs.length_le).Consumes)
    (hend : ∀ hle, more [] hle = .done []) :
    (r.continueWith start more).toReading.Ordered ascending := by
  cases hr : r.outcome with
  | ok s =>
    rw [continueWith_of_ok hr]
    -- a statement was read: the list behind it has nothing to find at the end of the input
    apply h.andThen
    · intro s rest hs
      exact (hmore rest hs).1.map _
    · intro _ s hle
      exact ⟨[s], by rw [hend]; rfl⟩
  | error obstacle =>
    rw [continueWith_of_error hr]
    -- an obstacle: a problem at the end of the input would have let the reading succeed
    have hne (p : Problem) (hp : p ∈ r.problems) : p.ahead ≠ [] := by
      intro hnil
      obtain ⟨-, a, ha⟩ := h.finished p hp hnil
      rw [hr] at ha
      cases ha
    have hsettled : r.settled.Ordered ascending :=
      ⟨h.liesIn, h.precedes, h.behind, fun p hp hnil => absurd hnil (hne p hp)⟩
    apply hsettled.andThen
    · intro _ rest hs
      have hs' : resume (upcoming rest) rest <:+ input := (resume_suffix _ rest).trans hs
      obtain ⟨hnext, hconsumes⟩ := hmore _ hs'
      apply Passage.ordered_precededBy hnext hconsumes
      · intro hu
        have hdone (left : List Token) (hle : left.length ≤ input.length) (hleft : left = []) :
            (more left hle).problems = [] ∧ (more left hle).rest = [] := by
          subst hleft
          rw [hend]
          exact ⟨rfl, rfl⟩
        exact hdone _ _ (by rw [hu, resume])
      · intro t later hu ha
        -- the search stops at the token at fault or goes on behind it
        rw [hu, resume_of_upcoming ((hasc ha).of_suffix hs) hu, resume_self]
        split
        · next hword => exact .inl ⟨rfl, hword⟩
        · exact .inr (resume_suffix _ later)
    · rintro ⟨p, hp, hnil⟩
      exact absurd hnil (hne p hp)

end passages

/-! ## Section 5: The four readers -/

theorem readNamed_forward (limit depth : Nat) (name : String) (input : List Token) :
    (readNamed limit depth name input).Forward := by
  unfold readNamed
  split
  · apply (forward_demand _ _ _).andThen
    intro _ rest _
    exact (readExpression_forward limit depth 0 rest).map _
  · split
    · apply (forward_demand _ _ _).andThen
      intro _ rest _
      exact (readItems_forward limit (depth + 1) ")" rest).map _
    · exact Reading.forward_fail _

theorem readPrint_forward (limit depth : Nat) (input : List Token) :
    (readPrint limit depth input).Forward := by
  unfold readPrint
  apply (forward_demand _ _ _).andThen
  intro _ rest _
  apply (readExpression_forward limit (depth + 1) 0 rest).andThen
  intro argument rest' _
  exact (forward_demand _ _ _).map _

theorem readParameters_forward (input : List Token) : (readParameters input).Forward := by
  unfold readParameters
  split
  · exact .of_no_problems rfl
  · split
    · exact .of_no_problems rfl
    · exact .of_no_problems rfl

section readers
variable {ascending : Prop}

mutual

theorem readStatements_ordered (limit depth : Nat) (scope : Scope) {input : List Token}
    (hasc : ascending → LinesAscend input) :
    (readStatements limit depth scope input).toReading.Ordered ascending ∧
      (readStatements limit depth scope input).Consumes := by
  cases hu : upcoming input with
  | nil =>
    rw [readStatements_of_nil hu]
    refine ⟨(Reading.forward_done []).ordered, ?_⟩
    intro t rest hu'
    simp [hu] at hu'
  | cons t rest =>
    have hlt := length_lt_of_upcoming hu
    cases ht : t.statementHead? with
    | some head =>
      rw [readStatements_of_head hu ht]
      have hs := suffix_of_upcoming hu
      have hasc' (ha : ascending) : LinesAscend rest := (hasc ha).of_suffix hs
      -- the statement and the list behind it, as a passage of its own
      let row : Passage rest := (readStatement limit depth head t.lexeme rest).continueWith t
        fun left _ => readStatements limit depth scope left
      have hrow : row.toReading.Ordered ascending := by
        apply (readStatement_ordered limit depth head t.lexeme hasc').continueWith hasc'
        · intro left hs'
          have := hs'.length_le
          exact readStatements_ordered limit depth scope fun ha => (hasc' ha).of_suffix hs'
        · intro _
          exact readStatements_of_nil rfl
      refine ⟨hrow.seenFrom hs, ?_⟩
      intro t' rest' hu' _
      obtain ⟨rfl, rfl⟩ := List.cons.inj (hu.symm.trans hu')
      exact ⟨row.suffix, fun q hq => (hrow.liesIn q hq).suffix⟩
    | none =>
      have hnone : t.startsStatement = false := by simp [Token.startsStatement, ht]
      -- no statement starts here, so there is nothing to consume
      have hconsumes (p : Passage input) : p.Consumes := by
        intro t' rest' hu' hstart
        obtain ⟨rfl, rfl⟩ := List.cons.inj (hu.symm.trans hu')
        simp [hnone] at hstart
      refine ⟨?_, hconsumes _⟩
      cases scope with
      | body =>
        rw [readStatements_body_of_none hu ht]
        exact (Reading.forward_done []).ordered
      | program =>
        rw [readStatements_program_of_none hu ht]
        have hs := resume_tail_suffix (t :: rest) input
        -- the list starts again behind a token, which is what makes it shorter
        have hlength := resume_tail_length_lt (t :: rest)
          (List.length_pos_iff.mpr (ne_nil_of_upcoming hu))
        obtain ⟨hnext, hconsumes'⟩ :=
          readStatements_ordered limit depth .program fun ha => (hasc ha).of_suffix hs
        have hword := Token.isStatementKeyword_of_statementHead ht
        have hrow : (Passage.precededBy hs []
            [.blocked (.expected .statement) (some t) (upcoming input)]
            (readStatements limit depth .program (resume (t :: rest) input.tail))).toReading.Ordered
              ascending := by
          apply Passage.ordered_precededBy hnext hconsumes' hs
          · intro hnil
            simp [hu] at hnil
          · intro t' rest' hu' ha
            obtain ⟨rfl, rfl⟩ := List.cons.inj (hu.symm.trans hu')
            rw [resume_tail_of_upcoming (hasc ha) hu hword]
            exact .inr (resume_suffix _ rest)
        rwa [hu] at hrow
termination_by 4 * input.length

theorem readBlock_ordered (limit depth : Nat) {input : List Token}
    (hasc : ascending → LinesAscend input) : (readBlock limit depth input).Ordered ascending := by
  unfold readBlock
  split
  · exact (Reading.forward_fail _).ordered
  · split
    · exact (Reading.forward_fail _).ordered
    · split
      · exact (readStatements_ordered limit depth .body hasc).1
      · exact (Reading.forward_fail _).ordered
termination_by 4 * input.length + 1

theorem readBody_ordered (limit depth : Nat) {input : List Token}
    (hasc : ascending → LinesAscend input) : (readBody limit depth input).Ordered ascending := by
  rw [readBody]
  apply (forward_demand _ _ _).andThen_ordered
  intro _ rest hs
  have := hs.length_le
  exact readBlock_ordered limit (depth + 1) fun ha => (hasc ha).of_suffix hs
termination_by 4 * input.length + 2

theorem readStatement_ordered (limit depth : Nat) (head : StatementHead) (lexeme : String)
    {input : List Token} (hasc : ascending → LinesAscend input) :
    (readStatement limit depth head lexeme input).Ordered ascending := by
  unfold readStatement
  -- a body comes last, so what is in front of it moves forward
  have hbody (rest : List Token) (hs : rest <:+ input) :
      (readBody limit depth rest).Ordered ascending := by
    have := hs.length_le
    exact readBody_ordered limit depth fun ha => (hasc ha).of_suffix hs
  cases head with
  | name => exact (readNamed_forward limit depth lexeme input).ordered
  | printWord => exact (readPrint_forward limit depth input).ordered
  | returnWord => exact ((readExpression_forward limit depth 0 input).map _).ordered
  | ifWord =>
    apply (readExpression_forward limit depth 0 input).andThen_ordered
    intro condition rest₁ hs₁
    apply (hbody rest₁ hs₁).andThen
    · intro body rest₂ hs₂
      split
      · exact (Reading.forward_done _).ordered
      · next other rest₃ hu =>
        split
        · have hs₃ := (suffix_of_upcoming hu).trans (hs₂.trans hs₁)
          exact ((hbody rest₃ hs₃).map _).seenFrom _
        · exact (Reading.forward_done _).ordered
    -- at the end of the input no `else` is looked for
    · intro _ body _
      exact ⟨.ifThen condition body, rfl⟩
  | whileWord =>
    apply (readExpression_forward limit depth 0 input).andThen_ordered
    intro condition rest hs
    exact (hbody rest hs).map _
  | forWord =>
    apply (forward_demand _ _ _).andThen_ordered
    intro name rest₁ hs₁
    apply (forward_demand _ _ _).andThen_ordered
    intro _ rest₂ hs₂
    apply (readExpression_forward limit depth 0 rest₂).andThen_ordered
    intro iterable rest₃ hs₃
    exact (hbody rest₃ (hs₃.trans (hs₂.trans hs₁))).map _
  | defWord =>
    apply (forward_demand _ _ _).andThen_ordered
    intro name rest₁ hs₁
    apply (forward_demand _ _ _).andThen_ordered
    intro _ rest₂ hs₂
    apply (readParameters_forward rest₂).andThen_ordered
    intro parameters rest₃ hs₃
    apply (forward_demand _ _ _).andThen_ordered
    intro _ rest₄ hs₄
    exact (hbody rest₄ (hs₄.trans (hs₃.trans (hs₂.trans hs₁)))).map _
termination_by 4 * input.length + 3

end

end readers

end ScriptCheck
