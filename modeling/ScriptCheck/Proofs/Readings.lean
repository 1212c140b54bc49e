import ScriptCheck.Program.Diagnosis

/-! # Outcomes of Readings

  A reading is *clean* if it met neither an obstacle nor a problem. Clean readings
  are the ones that grammar and parser agree on, so each way of putting readings
  together comes with the condition under which the whole is clean.

  The significant tokens are what a reading is about; trivia in front of them
  makes no difference to what is read. The lemmas of the first section translate
  between the tokens as they stand and the significant ones.
-/

namespace ScriptCheck

/-! ## Section 1: Significant tokens -/

@[simp] theorem significantTokens_nil : significantTokens [] = [] := rfl

@[simp] theorem significantTokens_append (tokens more : List Token) :
    significantTokens (tokens ++ more) = significantTokens tokens ++ significantTokens more :=
  List.filter_append ..

@[simp] theorem significantTokens_significantTokens (tokens : List Token) :
    significantTokens (significantTokens tokens) = significantTokens tokens := by
  simp [significantTokens]

theorem significantTokens_cons {t : Token} (h : t.isTrivia = false) (rest : List Token) :
    significantTokens (t :: rest) = t :: significantTokens rest := by
  simp [significantTokens, h]

theorem significantTokens_cons_of_isTrivia {t : Token} (h : t.isTrivia = true)
    (rest : List Token) : significantTokens (t :: rest) = significantTokens rest := by
  simp [significantTokens, h]

theorem significantTokens_length_le {rest input : List Token} (hs : rest <:+ input) :
    (significantTokens rest).length ≤ (significantTokens input).length :=
  (hs.filter _).length_le

theorem significantTokens_upcoming (tokens : List Token) :
    significantTokens (upcoming tokens) = significantTokens tokens := by
  induction tokens with
  | nil => rfl
  | cons t ts ih =>
    by_cases ht : t.isTrivia
    · simpa [upcoming, significantTokens, ht] using ih
    · simp [upcoming, ht]

/-- The next significant token is no trivia. -/
theorem isTrivia_of_upcoming {tokens rest : List Token} {t : Token}
    (h : upcoming tokens = t :: rest) : t.isTrivia = false := by
  have hhead := List.head?_dropWhile_not Token.isTrivia tokens
  rw [← upcoming, h] at hhead
  simpa using hhead

theorem significantTokens_of_upcoming_cons {tokens rest : List Token} {t : Token}
    (h : upcoming tokens = t :: rest) :
    significantTokens tokens = t :: significantTokens rest := by
  rw [← significantTokens_upcoming, h, significantTokens_cons (isTrivia_of_upcoming h)]

theorem significantTokens_of_upcoming_nil {tokens : List Token} (h : upcoming tokens = []) :
    significantTokens tokens = [] := by
  rw [← significantTokens_upcoming, h, significantTokens_nil]

/-- Looking ahead shows the first significant token. -/
theorem exists_upcoming {tokens ys : List Token} {t : Token}
    (h : significantTokens tokens = t :: ys) :
    ∃ rest, upcoming tokens = t :: rest ∧ significantTokens rest = ys := by
  cases hu : upcoming tokens with
  | nil =>
    rw [significantTokens_of_upcoming_nil hu] at h
    exact absurd h.symm (List.cons_ne_nil t ys)
  | cons t' rest =>
    rw [significantTokens_of_upcoming_cons hu, List.cons.injEq] at h
    obtain ⟨rfl, rfl⟩ := h
    exact ⟨rest, rfl, rfl⟩

theorem upcoming_append {tokens rest : List Token} {t : Token} (h : upcoming tokens = t :: rest)
    (more : List Token) : upcoming (tokens ++ more) = t :: (rest ++ more) := by
  unfold upcoming at h ⊢
  rw [List.dropWhile_append, h]
  rfl

/-- Behind trivia the next significant token is that of what follows. -/
theorem upcoming_append_of_nil {tokens : List Token} (h : upcoming tokens = [])
    (more : List Token) : upcoming (tokens ++ more) = upcoming more := by
  unfold upcoming at h ⊢
  rw [List.dropWhile_append, h]
  rfl

/-- Looking ahead for a punctuation mark depends on the next significant token alone. -/
theorem nextIs_eq (text : String) (tokens : List Token) :
    nextIs text tokens = (significantTokens tokens).head?.any (·.isPunctuation text) := by
  unfold nextIs
  cases hu : upcoming tokens with
  | nil => simp [significantTokens_of_upcoming_nil hu]
  | cons t rest => simp [significantTokens_of_upcoming_cons hu]

/-! ## Section 2: Clean readings -/

namespace Reading

variable {α β : Type} {input rest : List Token}

/-- The reading met neither obstacle nor problem; it gives `a` and leaves `rest`. -/
structure Clean (r : Reading α input) (a : α) (rest : List Token) : Prop where
  outcome : r.outcome = .ok a
  rest_eq : r.rest = rest
  problems : r.problems = []

theorem Clean.suffix {r : Reading α input} {a : α} (h : r.Clean a rest) : rest <:+ input :=
  h.rest_eq ▸ r.suffix

/-- A clean reading is known but for the proof that it carries. -/
theorem Clean.exists_eq {r : Reading α input} {a : α} (h : r.Clean a rest) :
    ∃ hs : rest <:+ input, r = ⟨.ok a, rest, [], hs⟩ := by
  obtain ⟨outcome, rest', problems, suffix⟩ := r
  obtain ⟨rfl, rfl, rfl⟩ := h
  exact ⟨suffix, rfl⟩

@[simp] theorem clean_done_iff {a b : α} : (done a input).Clean b rest ↔ a = b ∧ input = rest := by
  constructor
  · intro ⟨ha, hrest, _⟩
    exact ⟨Except.ok.inj ha, hrest⟩
  · intro ⟨ha, hrest⟩
    exact ⟨congrArg Except.ok ha, hrest, rfl⟩

@[simp] theorem not_clean_fail {obstacle : Obstacle} {a : α} :
    ¬ (fail obstacle input).Clean a rest := by
  intro h
  cases h.outcome

@[simp] theorem clean_seenFrom_iff {later : List Token} {h : later <:+ input}
    {r : Reading α later} {a : α} : (seenFrom h r).Clean a rest ↔ r.Clean a rest :=
  ⟨fun ⟨ho, hr, hp⟩ => ⟨ho, hr, hp⟩, fun ⟨ho, hr, hp⟩ => ⟨ho, hr, hp⟩⟩

@[simp] theorem clean_map_iff {f : α → β} {r : Reading α input} {b : β} :
    (r.map f).Clean b rest ↔ ∃ a, r.Clean a rest ∧ f a = b := by
  constructor
  · intro ⟨ho, hr, hp⟩
    cases hr' : r.outcome with
    | error obstacle => simp [map, hr', Except.map] at ho
    | ok a =>
      simp only [map, hr', Except.map, Except.ok.injEq] at ho
      exact ⟨a, ⟨hr', hr, hp⟩, ho⟩
  · intro ⟨a, ⟨ho, hr, hp⟩, hb⟩
    subst hb
    exact ⟨by simp [map, ho, Except.map], hr, hp⟩

/-- Two readings in a row are clean if both are. -/
@[simp] theorem clean_andThen_iff {r : Reading α input}
    {f : α → (mid : List Token) → mid.length ≤ input.length → Reading β mid} {b : β} :
    (r.andThen f).Clean b rest ↔
      ∃ a mid, ∃ h : mid.length ≤ input.length, r.Clean a mid ∧ (f a mid h).Clean b rest := by
  obtain ⟨outcome, mid, problems, suffix⟩ := r
  cases outcome with
  | error obstacle =>
    constructor
    -- the second reading is never begun
    · intro h
      cases h.outcome
    · intro ⟨a, _, _, h, _⟩
      cases h.outcome
  | ok a =>
    constructor
    · intro ⟨ho, hr, hp⟩
      -- no problem in both together means none in either
      obtain ⟨hp₁, hp₂⟩ := List.append_eq_nil_iff.mp hp
      exact ⟨a, mid, suffix.length_le, ⟨rfl, rfl, hp₁⟩, ⟨ho, hr, hp₂⟩⟩
    · intro ⟨a', mid', hle, ⟨ho, hr, hp⟩, ⟨ho', hr', hp'⟩⟩
      obtain rfl : a = a' := Except.ok.inj ho
      obtain rfl : mid = mid' := hr
      exact ⟨ho', hr', List.append_eq_nil_iff.mpr ⟨hp, hp'⟩⟩

end Reading

section demand
variable {wanted : Token → Bool} {what : Expectation} {input rest : List Token} {t : Token}

theorem demand_of_nil (h : upcoming input = []) :
    demand wanted what input = ⟨.error (.expected what), [], [], List.nil_suffix⟩ := by
  unfold demand
  split
  · rfl
  · next h' => simp [h] at h'

theorem demand_of_cons (h : upcoming input = t :: rest) :
    demand wanted what input =
      if wanted t then ⟨.ok t, rest, [], suffix_of_upcoming h⟩
      else ⟨.error (.expected what), t :: rest, [], h ▸ upcoming_suffix input⟩ := by
  unfold demand
  -- the reader looks the next token up itself, and finds the one that is known to come
  split
  · next h' => simp [h] at h'
  · next t' rest' h' =>
    obtain ⟨rfl, rfl⟩ := List.cons.inj (h'.symm.trans h)
    rfl

end demand

/-- A demanded token is read if it comes next. -/
@[simp] theorem clean_demand_iff {wanted : Token → Bool} {what : Expectation}
    {input rest : List Token} {t : Token} :
    (demand wanted what input).Clean t rest ↔ upcoming input = t :: rest ∧ wanted t = true := by
  unfold demand
  split
  · -- nothing comes next, so neither side holds
    next h =>
    constructor
    · intro hclean
      cases hclean.outcome
    · intro hnext
      obtain ⟨hu, -⟩ := hnext
      simp [h] at hu
  · next t' rest' h =>
    by_cases hw : wanted t'
    · rw [if_pos hw]
      constructor
      · intro hclean
        -- the token that comes next is the one that was read, and nothing else was consumed
        obtain rfl : t' = t := Except.ok.inj hclean.outcome
        obtain rfl : rest' = rest := hclean.rest_eq
        exact ⟨h, hw⟩
      · intro hnext
        obtain ⟨hu, -⟩ := hnext
        rw [h, List.cons.injEq] at hu
        obtain ⟨rfl, rfl⟩ := hu
        exact ⟨rfl, rfl, rfl⟩
    · rw [if_neg hw]
      constructor
      · intro hclean
        cases hclean.outcome
      · intro hnext
        obtain ⟨hu, ht⟩ := hnext
        rw [h, List.cons.injEq] at hu
        exact absurd (hu.1 ▸ ht) hw

@[simp] theorem clean_readValue_iff {t : Token} {input rest : List Token} {e : Expression} :
    (readValue t input).Clean e rest ↔
      t.isMalformedNumber = false ∧ .value t.lexeme = e ∧ input = rest := by
  unfold readValue
  constructor
  · intro ⟨ho, hr, hp⟩
    refine ⟨?_, Except.ok.inj ho, hr⟩
    by_cases ht : t.isMalformedNumber
    · simp [ht] at hp
    · simpa using ht
  · intro ⟨ht, he, hr⟩
    exact ⟨congrArg Except.ok he, hr, by simp [ht]⟩

/-! ## Section 3: One step of the expression parser

  What the readers of expressions do, by what comes next.
-/

section expressions
variable {limit depth least : Nat} {left : Expression} {input rest : List Token} {t : Token}

theorem readOperations_of_nil (h : upcoming input = []) :
    readOperations limit depth least left input = .done left input := by
  rw [readOperations]
  split
  · rfl
  · next h' => simp [h] at h'

theorem readOperations_of_cons (h : upcoming input = t :: rest) :
    readOperations limit depth least left input =
      match t.binaryOperator? with
      | none => .done left input
      | some op =>
        if op.precedence < least then .done left input
        else
          .seenFrom (suffix_of_upcoming h) <|
            (readExpression limit (depth + 1) (op.precedence + 1) rest).andThen
              fun right rest' _ =>
                readOperations limit depth least (.binary op left right) rest' := by
  rw [readOperations]
  split
  · next h' => simp [h] at h'
  · next t' rest' h' =>
    obtain ⟨rfl, rfl⟩ := List.cons.inj (h'.symm.trans h)
    rfl

theorem readOperand_of_nil (hd : depth ≤ limit) (h : upcoming input = []) :
    readOperand limit depth input = .fail (.expected .expression) input := by
  rw [readOperand, if_neg (by omega)]
  split
  · rfl
  · next h' => simp [h] at h'

theorem readOperand_of_cons (hd : depth ≤ limit) (h : upcoming input = t :: rest) :
    readOperand limit depth input =
      match t.operandHead? with
      | none => .fail (.expected .expression) input
      | some head =>
        .seenFrom (suffix_of_upcoming h) <|
          match head with
          | .literal => readValue t rest
          | .name =>
            if nextIs "(" rest then
              (demandPunctuation "(" rest).andThen fun _ rest' _ =>
                (readItems limit (depth + 1) ")" rest').map (.call t.lexeme)
            else readValue t rest
          | .group =>
            (readExpression limit (depth + 1) 0 rest).andThen fun inner rest' _ =>
              (demandPunctuation ")" rest').map fun _ => inner
          | .list close => (readItems limit (depth + 1) close rest).map .list := by
  rw [readOperand, if_neg (by omega)]
  split
  · next h' => simp [h] at h'
  · next t' rest' h' =>
    obtain ⟨rfl, rfl⟩ := List.cons.inj (h'.symm.trans h)
    rfl

/-- Behind an item: further items, if a comma comes next. -/
def furtherItems (limit depth : Nat) (e : Expression) (input : List Token) :
    Reading (List Expression) input :=
  match h : upcoming input with
  | [] => .done [e] input
  | t :: rest =>
    if t.isPunctuation "," then
      .seenFrom (suffix_of_upcoming h) ((readSeparated limit depth rest).map (e :: ·))
    else .done [e] input

theorem readSeparated_eq (limit depth : Nat) (input : List Token) :
    readSeparated limit depth input =
      (readExpression limit depth 0 input).andThen fun e rest _ =>
        furtherItems limit depth e rest := by
  rw [readSeparated]
  rfl

theorem furtherItems_of_nil {e : Expression} (h : upcoming input = []) :
    furtherItems limit depth e input = .done [e] input := by
  unfold furtherItems
  split
  · rfl
  · next h' => simp [h] at h'

theorem furtherItems_of_cons {e : Expression} (h : upcoming input = t :: rest) :
    furtherItems limit depth e input =
      if t.isPunctuation "," then
        .seenFrom (suffix_of_upcoming h) ((readSeparated limit depth rest).map (e :: ·))
      else .done [e] input := by
  unfold furtherItems
  split
  · next h' => simp [h] at h'
  · next t' rest' h' =>
    obtain ⟨rfl, rfl⟩ := List.cons.inj (h'.symm.trans h)
    rfl

end expressions

/-! ## Section 4: Clean passages -/

namespace Passage

variable {input rest : List Token}

/-- No problem was met; the passage gives the statements and leaves `rest`. -/
structure Clean (p : Passage input) (ss : List Statement) (rest : List Token) : Prop where
  statements : p.statements = ss
  rest_eq : p.rest = rest
  problems : p.problems = []

@[simp] theorem clean_done_iff {ss : List Statement} :
    (done input).Clean ss rest ↔ ss = [] ∧ input = rest := by
  constructor
  · intro ⟨hs, hr, _⟩
    exact ⟨hs.symm, hr⟩
  · intro ⟨hs, hr⟩
    exact ⟨hs.symm, hr, rfl⟩

@[simp] theorem clean_precededBy_iff {later : List Token} {h : later <:+ input}
    {ss ss' : List Statement} {ps : List Problem} {p : Passage later} :
    (precededBy h ss ps p).Clean ss' rest ↔
      ps = [] ∧ ∃ ss'', p.Clean ss'' rest ∧ ss ++ ss'' = ss' := by
  constructor
  · intro ⟨hs, hr, hp⟩
    obtain ⟨hp₁, hp₂⟩ := List.append_eq_nil_iff.mp hp
    exact ⟨hp₁, p.statements, ⟨rfl, hr, hp₂⟩, hs⟩
  · intro ⟨hp, ss'', hclean, hs⟩
    refine ⟨?_, hclean.rest_eq, ?_⟩
    · rw [← hs, ← hclean.statements, precededBy]
    · rw [precededBy, hp, hclean.problems, List.append_nil]

@[simp] theorem clean_toReading_iff {p : Passage input} {ss : List Statement} :
    p.toReading.Clean ss rest ↔ p.Clean ss rest := by
  constructor
  · intro ⟨ho, hr, hp⟩
    exact ⟨Except.ok.inj ho, hr, hp⟩
  · intro ⟨hs, hr, hp⟩
    exact ⟨congrArg Except.ok hs, hr, hp⟩

end Passage

/-- A list of statements is read cleanly if its first statement and the others are. -/
@[simp] theorem Reading.clean_continueWith_iff {input rest : List Token}
    {r : Reading Statement input} {start : Token}
    {more : (left : List Token) → left.length ≤ input.length → Passage left}
    {ss : List Statement} :
    (r.continueWith start more).Clean ss rest ↔
      ∃ s mid, ∃ h : mid.length ≤ input.length, r.Clean s mid ∧
        ∃ ss', (more mid h).Clean ss' rest ∧ s :: ss' = ss := by
  obtain ⟨outcome, mid, problems, suffix⟩ := r
  cases outcome with
  | error obstacle =>
    constructor
    -- the obstacle is reported as a problem
    · intro h
      simp [continueWith] at h
    · intro ⟨s, _, _, hclean, _⟩
      cases hclean.outcome
  | ok s =>
    simp only [continueWith, Passage.clean_precededBy_iff, List.singleton_append]
    constructor
    · intro ⟨hp, ss', hmore, hs⟩
      exact ⟨s, mid, suffix.length_le, ⟨rfl, rfl, hp⟩, ss', hmore, hs⟩
    · intro ⟨s', mid', hle, hclean, ss', hmore, hs⟩
      obtain rfl : s = s' := Except.ok.inj hclean.outcome
      obtain rfl : mid = mid' := hclean.rest_eq
      exact ⟨hclean.problems, ss', hmore, hs⟩

/-! ## Section 5: One step of the program parser -/

section programs
variable {limit depth : Nat} {scope : Scope} {input rest rest' : List Token} {t name : Token}

theorem readStatements_of_nil (h : upcoming input = []) :
    readStatements limit depth scope input = .done input := by
  rw [readStatements]
  split
  · rfl
  · next h' => simp [h] at h'

theorem readStatements_of_head {head : StatementHead} (h : upcoming input = t :: rest)
    (ht : t.statementHead? = some head) :
    readStatements limit depth scope input =
      .precededBy (suffix_of_upcoming h) [] []
        ((readStatement limit depth head t.lexeme rest).continueWith t fun left _ =>
          readStatements limit depth scope left) := by
  rw [readStatements]
  split
  · next h' => simp [h] at h'
  · next t' rest' h' =>
    obtain ⟨rfl, rfl⟩ := List.cons.inj (h'.symm.trans h)
    simp only [ht]

/-- A token that starts no statement ends a body. -/
theorem readStatements_body_of_none (h : upcoming input = t :: rest)
    (ht : t.statementHead? = none) :
    readStatements limit depth .body input = .done input := by
  rw [readStatements]
  split
  · rfl
  · next t' rest' h' =>
    obtain ⟨rfl, rfl⟩ := List.cons.inj (h'.symm.trans h)
    simp only [ht]

/-- A token that starts no statement is a problem in the program. -/
theorem readStatements_program_of_none (h : upcoming input = t :: rest)
    (ht : t.statementHead? = none) :
    readStatements limit depth .program input =
      .precededBy (resume_tail_suffix (t :: rest) input) []
        [.blocked (.expected .statement) (some t) (t :: rest)]
        (readStatements limit depth .program (resume (t :: rest) input.tail)) := by
  rw [readStatements]
  split
  · next h' => simp [h] at h'
  · next t' rest' h' =>
    obtain ⟨rfl, rfl⟩ := List.cons.inj (h'.symm.trans h)
    simp only [ht]

theorem moreParameters_of_nil (hu : upcoming input = []) : moreParameters input = ([], input) := by
  unfold moreParameters
  split
  · rfl
  · next h => simp [hu] at h

theorem moreParameters_of_not_comma (hu : upcoming input = t :: rest)
    (ht : t.isPunctuation "," = false) : moreParameters input = ([], input) := by
  unfold moreParameters
  split
  · rfl
  · next t' rest₁ hu₁ =>
    obtain ⟨rfl, rfl⟩ := List.cons.inj (hu₁.symm.trans hu)
    simp [ht]

theorem moreParameters_of_name (hu : upcoming input = t :: rest)
    (ht : t.isPunctuation "," = true) (hu' : upcoming rest = name :: rest')
    (hname : name.kind = .identifier) :
    moreParameters input =
      (name.lexeme :: (moreParameters rest').1, (moreParameters rest').2) := by
  rw [moreParameters]
  split
  · next hnil => simp [hu] at hnil
  · next t' rest₁ hu₁ =>
    obtain ⟨rfl, rfl⟩ := List.cons.inj (hu₁.symm.trans hu)
    simp only [ht, if_true]
    split
    · next hnil => simp [hu'] at hnil
    · next name' rest₂ hu₂ =>
      obtain ⟨rfl, rfl⟩ := List.cons.inj (hu₂.symm.trans hu')
      simp [hname]

/-- A comma that no name follows is left unread. -/
theorem moreParameters_of_not_name (hu : upcoming input = t :: rest)
    (hname : ∀ name ∈ (upcoming rest).head?, name.kind ≠ .identifier) :
    moreParameters input = ([], input) := by
  rw [moreParameters]
  split
  · rfl
  · next t' rest₁ hu₁ =>
    obtain ⟨rfl, rfl⟩ := List.cons.inj (hu₁.symm.trans hu)
    split
    · split
      · rfl
      · next name rest₂ hu₂ => simp [hname name (by simp [hu₂])]
    · rfl

theorem readParameters_of_nil (hu : upcoming input = []) :
    readParameters input = .done [] input := by
  unfold readParameters
  split
  · rfl
  · next h => simp [hu] at h

/-- The parameters are the first name and the further ones. -/
theorem readParameters_of_cons (hu : upcoming input = name :: rest) :
    readParameters input =
      if name.kind = .identifier then
        ⟨.ok (name.lexeme :: (moreParameters rest).1), (moreParameters rest).2, [],
          (moreParameters_suffix rest).trans (suffix_of_upcoming hu)⟩
      else .done [] input := by
  unfold readParameters
  split
  · next h => simp [hu] at h
  · next name' rest₁ hu₁ =>
    obtain ⟨rfl, rfl⟩ := List.cons.inj (hu₁.symm.trans hu)
    rfl

/-- Behind the first body of a conditional: the other one, if an `else` comes next. -/
def readElse (limit depth : Nat) (condition : Expression) (body : List Statement)
    (input : List Token) : Reading Statement input :=
  match h : upcoming input with
  | [] => .done (.ifThen condition body) input
  | t :: rest =>
    if t.isKeyword "else" then
      .seenFrom (suffix_of_upcoming h)
        ((readBody limit depth rest).map (.ifElse condition body))
    else .done (.ifThen condition body) input

theorem readStatement_if (limit depth : Nat) (lexeme : String) (input : List Token) :
    readStatement limit depth .ifWord lexeme input =
      (readExpression limit depth 0 input).andThen fun condition rest₁ _ =>
        (readBody limit depth rest₁).andThen fun body rest₂ _ =>
          readElse limit depth condition body rest₂ := by
  rw [readStatement]
  rfl

theorem readElse_of_nil {condition : Expression} {body : List Statement}
    (h : upcoming input = []) :
    readElse limit depth condition body input = .done (.ifThen condition body) input := by
  unfold readElse
  split
  · rfl
  · next h' => simp [h] at h'

theorem readElse_of_cons {condition : Expression} {body : List Statement}
    (h : upcoming input = t :: rest) :
    readElse limit depth condition body input =
      if t.isKeyword "else" then
        .seenFrom (suffix_of_upcoming h)
          ((readBody limit depth rest).map (.ifElse condition body))
      else .done (.ifThen condition body) input := by
  unfold readElse
  split
  · next h' => simp [h] at h'
  · next t' rest' h' =>
    obtain ⟨rfl, rfl⟩ := List.cons.inj (h'.symm.trans h)
    rfl

end programs

/-! ## Section 6: Clean checks -/

/-- The code of a diagnostic depends on the obstacle and on the token at fault. -/
theorem Problem.diagnose_code (limit : Nat) (tokens : List Token) (obstacle : Obstacle)
    (start : Option Token) (ahead : List Token) :
    ((Problem.blocked obstacle start ahead).diagnose limit tokens).code =
      some (obstacle.code ahead.head?) := by
  cases ahead with
  | nil => cases start <;> rfl
  | cons t rest => cases start <;> rfl

section checks
variable {limit : Nat} {tokens rest : List Token} {t : Token} {ss : List Statement}

/-- A check finds no error if at least one statement was read and no problem met. -/
theorem checkSyntax_succeeded_iff :
    (checkSyntax limit tokens).succeeded = true ↔
      ∃ ss rest, ss ≠ [] ∧ (readStatements limit 0 .program tokens).Clean ss rest := by
  have hproblems : (checkSyntax limit tokens).succeeded = true ↔
      (readProgram limit tokens).problems = [] := by
    simp [checkSyntax, SyntaxCheck.succeeded]
  rw [hproblems, readProgram]
  constructor
  · intro h
    split at h
    · simp at h
    · next hsome =>
      -- without a statement the program would have reported that
      refine ⟨_, _, ?_, rfl, rfl, h⟩
      intro hnil
      apply hsome
      simp only [hnil, List.isEmpty_nil, Bool.true_and, List.isEmpty_iff]
      exact h
  · intro ⟨ss, rest, hne, hclean⟩
    rw [if_neg (by simp [hclean.statements, hne])]
    exact hclean.problems

/-- The statements of a program are those of its list of statements. -/
theorem readProgram_statements :
    (readProgram limit tokens).statements =
      (readStatements limit 0 .program tokens).statements := by
  simp only [readProgram]
  split
  · next hnone =>
    rw [Bool.and_eq_true, List.isEmpty_iff] at hnone
    exact hnone.1.symm
  · rfl

/-- Where there is something to read, a program has just the problems of its statements. -/
theorem readProgram_problems_of_cons (hu : upcoming tokens = t :: rest) :
    (readProgram limit tokens).problems = (readStatements limit 0 .program tokens).problems := by
  rw [readProgram, if_neg]
  -- a token that comes next is read as part of a statement or reported
  cases ht : t.statementHead? with
  | none => simp [readStatements_program_of_none hu ht, Passage.precededBy]
  | some head =>
    rw [readStatements_of_head hu ht]
    cases hr : (readStatement limit 0 head t.lexeme rest).outcome with
    | ok s => simp [Reading.continueWith, hr, Passage.precededBy]
    | error obstacle => simp [Reading.continueWith, hr, Passage.precededBy]

/-- A check gives a tree if it found no error. -/
theorem SyntaxCheck.result_eq_ok_iff {check : SyntaxCheck} {tree : Node} :
    check.result = .ok tree ↔ check.succeeded = true ∧ check.tree = some tree := by
  unfold result
  cases check.succeeded <;> cases check.tree <;> simp

/-- The tree of a check without errors shows the statements that were read. -/
theorem checkSyntax_tree_of_clean (hne : ss ≠ [])
    (h : (readStatements limit 0 .program tokens).Clean ss rest) :
    (checkSyntax limit tokens).tree = some (.program (Statement.toNodes ss)) := by
  simp [checkSyntax, readProgram_statements, h.statements, displayTree?, hne]

end checks

/-! ## Section 7: What a reading gives

  Also a reading that is not clean can give something: problems may have been
  met and dealt with on the way. What it then gives has been put together from
  what the readings in it gave.
-/

namespace Reading

variable {α β : Type} {input : List Token}

/-- Whatever the reading gives has the property, together with the tokens that are left. -/
structure Gives (r : Reading α input) (P : α → List Token → Prop) : Prop where
  of_ok : ∀ a, r.outcome = .ok a → P a r.rest

variable {P : α → List Token → Prop} {Q : β → List Token → Prop}

theorem gives_done {a : α} (h : P a input) : (done a input).Gives P := by
  constructor
  intro b hb
  obtain rfl : a = b := Except.ok.inj hb
  exact h

/-- An obstacle gives nothing. -/
theorem gives_fail (obstacle : Obstacle) : (fail obstacle input).Gives P := by
  constructor
  intro a ha
  cases ha

theorem gives_any (r : Reading α input) : r.Gives fun _ _ => True := ⟨fun _ _ => trivial⟩

theorem Gives.seenFrom {later : List Token} {r : Reading α later} (h : r.Gives P)
    (hs : later <:+ input) : (Reading.seenFrom hs r).Gives P := ⟨h.of_ok⟩

theorem Gives.imp {P' : α → List Token → Prop} {r : Reading α input} (h : r.Gives P)
    (hP : ∀ a rest, P a rest → P' a rest) : r.Gives P' :=
  ⟨fun a ha => hP a _ (h.of_ok a ha)⟩

theorem Gives.map {r : Reading α input} {f : α → β} (h : r.Gives P)
    (hf : ∀ a rest, P a rest → Q (f a) rest) : (r.map f).Gives Q := by
  obtain ⟨outcome, rest, problems, suffix⟩ := r
  constructor
  intro b hb
  cases outcome with
  | error obstacle => cases hb
  | ok a =>
    obtain rfl : f a = b := Except.ok.inj hb
    exact hf a rest (h.of_ok a rfl)

/-- What the second of two readings gives, it gives behind what the first one gave. -/
theorem Gives.andThen {r : Reading α input}
    {f : α → (rest : List Token) → rest.length ≤ input.length → Reading β rest} (h : r.Gives P)
    (hf : ∀ a rest (hs : rest <:+ input), P a rest → (f a rest hs.length_le).Gives Q) :
    (r.andThen f).Gives Q := by
  obtain ⟨outcome, rest, problems, suffix⟩ := r
  constructor
  intro b hb
  cases outcome with
  | error obstacle => cases hb
  | ok a => exact (hf a rest suffix (h.of_ok a rfl)).of_ok b hb

/-- Behind a statement come the others. Behind an obstacle come those that follow the place where
    reading goes on. -/
theorem Gives.continueWith {P : Statement → List Token → Prop}
    {Q : List Statement → List Token → Prop} {r : Reading Statement input} {start : Token}
    {more : (left : List Token) → left.length ≤ input.length → Passage left} (h : r.Gives P)
    (hok : ∀ s left (hs : left <:+ input), P s left →
      (more left hs.length_le).toReading.Gives fun ss rest => Q (s :: ss) rest)
    (herror : ∀ left (hs : left <:+ input), (more left hs.length_le).toReading.Gives Q) :
    (r.continueWith start more).toReading.Gives Q := by
  obtain ⟨outcome, rest, problems, suffix⟩ := r
  cases outcome with
  -- the statement is lost: all that is given comes from further on
  | error obstacle => exact ⟨(herror _ ((resume_suffix _ rest).trans suffix)).of_ok⟩
  | ok s =>
    constructor
    intro ss hss
    obtain rfl := Except.ok.inj hss
    exact (hok s rest suffix (h.of_ok s rfl)).of_ok _ rfl

end Reading

/-- A demanded token that is given was the next one. -/
theorem gives_demand (wanted : Token → Bool) (what : Expectation) (input : List Token) :
    (demand wanted what input).Gives fun t rest =>
      upcoming input = t :: rest ∧ wanted t = true := by
  constructor
  intro t ht
  -- demanding a token reports nothing, so if it gives one it is clean
  have hclean : (demand wanted what input).Clean t (demand wanted what input).rest := by
    refine ⟨ht, rfl, ?_⟩
    unfold demand
    split
    · rfl
    · split <;> rfl
  exact clean_demand_iff.mp hclean

section readers
variable {limit depth : Nat} {input : List Token}

theorem gives_furtherItems {P : List Expression → List Token → Prop} {e : Expression}
    (hlast : P [e] input)
    (hmore : ∀ comma rest, upcoming input = comma :: rest →
      (readSeparated limit depth rest).Gives fun es left => P (e :: es) left) :
    (furtherItems limit depth e input).Gives P := by
  cases hu : upcoming input with
  | nil =>
    rw [furtherItems_of_nil hu]
    exact Reading.gives_done hlast
  | cons comma rest =>
    rw [furtherItems_of_cons hu]
    split
    · exact ((hmore comma rest hu).map fun _ _ hes => hes).seenFrom _
    · exact Reading.gives_done hlast

theorem gives_readElse {P : Statement → List Token → Prop} {condition : Expression}
    {body : List Statement} (hthen : P (.ifThen condition body) input)
    (helse : ∀ word rest, upcoming input = word :: rest →
      (readBody limit depth rest).Gives fun otherwise left =>
        P (.ifElse condition body otherwise) left) :
    (readElse limit depth condition body input).Gives P := by
  cases hu : upcoming input with
  | nil =>
    rw [readElse_of_nil hu]
    exact Reading.gives_done hthen
  | cons word rest =>
    rw [readElse_of_cons hu]
    split
    · exact ((helse word rest hu).map fun _ _ h => h).seenFrom _
    · exact Reading.gives_done hthen

/-- A block gives what its statements give, and only within the limit. -/
theorem gives_readBlock {P : List Statement → List Token → Prop}
    (h : depth ≤ limit → (readStatements limit depth .body input).toReading.Gives P) :
    (readBlock limit depth input).Gives P := by
  rw [readBlock]
  -- too deep, at the end of the input, or in front of something else: then nothing is given
  split
  · exact Reading.gives_fail _
  · next hd =>
    split
    · exact Reading.gives_fail _
    · split
      · exact h (Nat.le_of_not_lt hd)
      · exact Reading.gives_fail _

/-- Statements are given by the first one and those behind it. Where the first one is given up or
    does not begin, they are those that are read further on. -/
theorem gives_readStatements {P : List Statement → List Token → Prop}
    {Q : Statement → List Token → Prop} {scope : Scope} (hnone : P [] input)
    (hfirst : ∀ t rest head, upcoming input = t :: rest → t.statementHead? = some head →
      (readStatement limit depth head t.lexeme rest).Gives Q)
    (hnext : ∀ s left, left.length < input.length → Q s left →
      (readStatements limit depth scope left).toReading.Gives fun ss rest => P (s :: ss) rest)
    (hlater : ∀ left, left.length < input.length → left <:+ input →
      (readStatements limit depth scope left).toReading.Gives P) :
    (readStatements limit depth scope input).toReading.Gives P := by
  cases hu : upcoming input with
  | nil =>
    rw [readStatements_of_nil hu]
    exact Reading.gives_done hnone
  | cons t rest =>
    have hlt := length_lt_of_upcoming hu
    cases ht : t.statementHead? with
    | some head =>
      rw [readStatements_of_head hu ht]
      -- the list behind the statement is shorter, since the first token was consumed
      have hall : ((readStatement limit depth head t.lexeme rest).continueWith t fun left _ =>
          readStatements limit depth scope left).toReading.Gives P := by
        apply (hfirst t rest head hu ht).continueWith
        · intro s left hs hstatement
          exact hnext s left (Nat.lt_of_le_of_lt hs.length_le hlt) hstatement
        · intro left hs
          exact hlater left (Nat.lt_of_le_of_lt hs.length_le hlt)
            (hs.trans (suffix_of_upcoming hu))
      exact ⟨hall.of_ok⟩
    | none =>
      cases scope with
      | body =>
        rw [readStatements_body_of_none hu ht]
        exact Reading.gives_done hnone
      | program =>
        rw [readStatements_program_of_none hu ht]
        -- a stray token is reported, and the list goes on further behind
        have hshorter := resume_tail_length_lt (t :: rest)
          (List.length_pos_iff.mpr (ne_nil_of_upcoming hu))
        exact ⟨(hlater _ hshorter (resume_tail_suffix (t :: rest) input)).of_ok⟩

end readers

end ScriptCheck
