import ScriptCheck.Proofs.Order.Programs

/-! # Two Runs Side by Side

  Several facts about the parser compare two of its runs: with and without
  trivia, before and after something is appended, with malformed numbers and
  with others in their place. In each of them the runs see the same next token
  as long as their inputs correspond, and so they do the same.

  What it takes for inputs to correspond is different each time. A *comparison*
  says what it is, together with how much of it the runs keep. The laws of a
  comparison are about one token; that two whole readings then run side by side
  is proved once for all comparisons.

  Runs can part. Inputs may correspond only up to some place; from there on
  nothing is said but that the first run has come there. Or the runs may not
  read on at the same place after an obstacle; then they agree up to and with
  that obstacle.
-/

namespace ScriptCheck

/-! ## Section 1: Comparisons -/

/-- The tokens begin the definition of a function and end with the name of a parameter. -/
inductive IsFunctionHead : List Token → Prop
  | first {word name opening parameter : Token} (hword : word.isKeyword "def" = true)
      (hname : name.kind = .identifier) (hopening : opening.isPunctuation "(" = true)
      (hparameter : parameter.kind = .identifier) :
      IsFunctionHead [word, name, opening, parameter]
  | further {head : List Token} {comma parameter : Token} (hhead : IsFunctionHead head)
      (hcomma : comma.isPunctuation "," = true) (hparameter : parameter.kind = .identifier) :
      IsFunctionHead (head ++ [comma, parameter])

/-- What two runs of the parser have in common. Primes are on what belongs to the second run. -/
structure Comparison where
  limit : Nat
  limit' : Nat
  /-- The values that are read are the same, and malformed numbers are reported in both runs.
      Otherwise there are none in the second run. -/
  Exact : Prop
  /-- After an obstacle the runs read on at the same place. -/
  KeepsPace : Prop
  /-- The tokens take the same place in the two inputs. -/
  Same : Token → Token → Prop
  /-- The tokens that the runs have left correspond, at a depth of nesting. -/
  Near : Nat → List Token → List Token → Prop
  /-- With these tokens left the first run has come to where the inputs no longer correspond. -/
  Past : List Token → Prop

namespace Comparison

variable {c : Comparison}

/-- What comes next in two runs. -/
inductive Next (c : Comparison) (d : Nat) (xs ys : List Token) : Prop
  | ended (h : upcoming xs = []) (h' : upcoming ys = []) (hnear : c.Near d [] [])
      (hpast : ¬ c.Past [])
  /-- The depth can be one more behind a token, since whatever is nested begins with one. -/
  | token {t t' : Token} {rest rest' : List Token} (h : upcoming xs = t :: rest)
      (h' : upcoming ys = t' :: rest') (hsame : c.Same t t')
      (hhere : c.Near d (t :: rest) (t' :: rest')) (hnear : c.Near (d + 1) rest rest')
      (hpast : ¬ c.Past (t :: rest))
  | past (h : c.Past xs)

/-- Reading goes on at corresponding places or past what corresponds. -/
def Meets (c : Comparison) (d : Nat) (xs ys : List Token) : Prop := c.Near d xs ys ∨ c.Past xs

/-- The laws of a comparison. Each is about the next token. -/
structure Lawful (c : Comparison) : Prop where
  kind_eq {t t' : Token} (h : c.Same t t') : t'.kind = t.kind
  lexeme_eq {t t' : Token} (h : c.Same t t') (ht : t.kind ≠ .number ∨ c.Exact) :
    t'.lexeme = t.lexeme
  wellFormed {t t' : Token} (h : c.Same t t') (hexact : ¬ c.Exact) : t'.isMalformedNumber = false
  limit_lt_iff {d : Nat} {xs ys : List Token} (h : c.Near d xs ys) : c.limit < d ↔ c.limit' < d
  shallower {d : Nat} {xs ys : List Token} (h : c.Near (d + 1) xs ys) : c.Near d xs ys
  past_of_suffix {later xs : List Token} (h : c.Past xs) (hs : later <:+ xs) : c.Past later
  next {d : Nat} {xs ys : List Token} (h : c.Near d xs ys) : c.Next d xs ys
  resume {d : Nat} {xs ys rest rest' : List Token} {t t' : Token} (hpace : c.KeepsPace)
    (h : c.Near d xs ys) (hu : upcoming xs = t :: rest) (hu' : upcoming ys = t' :: rest')
    (hpast : ¬ c.Past (t :: rest)) :
    c.Meets d (resume (t :: rest) xs) (resume (t' :: rest') ys)
  resume_tail {d : Nat} {xs ys rest rest' : List Token} {t t' : Token} (hpace : c.KeepsPace)
    (h : c.Near d xs ys) (hu : upcoming xs = t :: rest) (hu' : upcoming ys = t' :: rest')
    (hpast : ¬ c.Past (t :: rest)) (ht : t.statementHead? = none) :
    c.Meets d (ScriptCheck.resume (t :: rest) xs.tail) (ScriptCheck.resume (t' :: rest') ys.tail)
  /-- What corresponds does not end behind a comma that follows a parameter. -/
  noLastComma {d : Nat} {xs ys head rest : List Token} {comma : Token} (h : c.Near d xs ys)
    (hhead : IsFunctionHead head) (hcomma : comma.isPunctuation "," = true)
    (hxs : significantTokens xs = head ++ comma :: significantTokens rest)
    (hpast : ¬ c.Past (comma :: rest)) : ¬ c.Past rest

/-- Two values agree: they are the same if the comparison is exact. -/
def Agree {α : Type} (c : Comparison) (a b : α) : Prop := c.Exact → b = a

theorem Agree.map {α β : Type} {a b : α} (h : c.Agree a b) (f : α → β) : c.Agree (f a) (f b) :=
  fun hexact => congrArg f (h hexact)

theorem agree_refl {α : Type} (a : α) : c.Agree a a := fun _ => rfl

theorem Agree.map₂ {α β γ : Type} {a a' : α} {b b' : β} (h : c.Agree a a') (h' : c.Agree b b')
    (f : α → β → γ) : c.Agree (f a b) (f a' b') :=
  fun hexact => by rw [h hexact, h' hexact]

/-! ## Section 2: Corresponding tokens -/

namespace Lawful

variable {t t' : Token} (hc : c.Lawful) (h : c.Same t t')
include hc h

theorem agree_lexeme : c.Agree t.lexeme t'.lexeme :=
  fun hexact => hc.lexeme_eq h (.inr hexact)

theorem isPunctuation_eq (text : String) : t'.isPunctuation text = t.isPunctuation text := by
  by_cases hnumber : t.kind = .number
  · rw [Token.isPunctuation, Token.isPunctuation, hc.kind_eq h, hnumber]
    rfl
  · simp [Token.isPunctuation, hc.kind_eq h, hc.lexeme_eq h (.inl hnumber)]

theorem isKeyword_eq (word : String) : t'.isKeyword word = t.isKeyword word := by
  by_cases hnumber : t.kind = .number
  · rw [Token.isKeyword, Token.isKeyword, hc.kind_eq h, hnumber]
    rfl
  · simp [Token.isKeyword, hc.kind_eq h, hc.lexeme_eq h (.inl hnumber)]

theorem binaryOperator?_eq : t'.binaryOperator? = t.binaryOperator? := by
  by_cases hnumber : t.kind = .number
  · simp [Token.binaryOperator?, hc.kind_eq h, hnumber]
  · simp [Token.binaryOperator?, hc.kind_eq h, hc.lexeme_eq h (.inl hnumber)]

theorem operandHead?_eq : t'.operandHead? = t.operandHead? := by
  by_cases hnumber : t.kind = .number
  · simp [Token.operandHead?, hc.kind_eq h, hnumber]
  · simp [Token.operandHead?, hc.kind_eq h, hc.lexeme_eq h (.inl hnumber)]

theorem statementHead?_eq : t'.statementHead? = t.statementHead? := by
  by_cases hnumber : t.kind = .number
  · simp [Token.statementHead?, hc.kind_eq h, hnumber]
  · simp [Token.statementHead?, hc.kind_eq h, hc.lexeme_eq h (.inl hnumber)]

theorem startsStatement_eq : t'.startsStatement = t.startsStatement := by
  rw [Token.startsStatement, hc.statementHead?_eq h, Token.startsStatement]

end Lawful

/-! ## Section 3: Problems -/

end Comparison

/-- The problem is that a statement could not be read to its end. -/
def Problem.isBlocked : Problem → Bool
  | .blocked .. => true
  | .malformedNumber .. => false

namespace Comparison

variable {c : Comparison}

/-- The next token or the end of the input is the same in both runs, and they have not parted. -/
structure Faces (c : Comparison) (ahead ahead' : List Token) : Prop where
  near : ∃ d, c.Near d ahead ahead'
  head : Option.Rel c.Same ahead.head? ahead'.head?
  notPast : ¬ c.Past ahead

/-- The runs are both at the end of their inputs or both in front of the same token. -/
theorem Faces.heads {ahead ahead' : List Token} (h : c.Faces ahead ahead') :
    (ahead = [] ∧ ahead' = []) ∨
      ∃ t t' rest rest', ahead = t :: rest ∧ ahead' = t' :: rest' ∧ c.Same t t' := by
  have hhead := h.head
  cases ahead with
  | nil =>
    cases ahead' with
    | nil => exact .inl ⟨rfl, rfl⟩
    | cons t' rest' => cases hhead
  | cons t rest =>
    cases ahead' with
    | nil => cases hhead
    | cons t' rest' =>
      cases hhead with
      | some hsame => exact .inr ⟨t, t', rest, rest', rfl, rfl, hsame⟩

theorem eq_of_rel_eq {α : Type} {a b : Option α} (h : Option.Rel Eq a b) : a = b := by
  cases h with
  | none => rfl
  | some h => exact congrArg some h

/-- Both runs have found the same problems, but for malformed numbers if there are none in the
    second run. -/
inductive Reports (c : Comparison) : List Problem → List Problem → Prop
  | nil : Reports c [] []
  | blocked {obstacle : Obstacle} {start start' : Option Token} {ahead ahead' : List Token}
      {ps ps' : List Problem} (hstart : Option.Rel c.Same start start')
      (hfaces : c.Faces ahead ahead') (h : Reports c ps ps') :
      Reports c (.blocked obstacle start ahead :: ps) (.blocked obstacle start' ahead' :: ps')
  | number {number number' : Token} {after after' : List Token} {ps ps' : List Problem}
      (hexact : c.Exact) (hsame : c.Same number number')
      (hfaces : c.Faces (number :: after) (number' :: after')) (h : Reports c ps ps') :
      Reports c (.malformedNumber number after :: ps) (.malformedNumber number' after' :: ps')
  | skipped {number : Token} {after : List Token} {ps ps' : List Problem} (hexact : ¬ c.Exact)
      (h : Reports c ps ps') : Reports c (.malformedNumber number after :: ps) ps'

theorem Reports.append {ps ps' qs qs' : List Problem} (h : c.Reports ps ps')
    (hq : c.Reports qs qs') : c.Reports (ps ++ qs) (ps' ++ qs') := by
  induction h with
  | nil => exact hq
  | blocked hstart hfaces _ ih => exact .blocked hstart hfaces ih
  | number hexact hsame hfaces _ ih => exact .number hexact hsame hfaces ih
  | skipped hexact _ ih => exact .skipped hexact ih

/-- If the first run has found a statement blocked, so has the second one. -/
theorem Reports.exists_isBlocked {ps ps' : List Problem} (h : c.Reports ps ps') {p : Problem}
    (hp : p ∈ ps) (hblocked : p.isBlocked = true) : ∃ p' ∈ ps', p'.isBlocked = true := by
  induction h with
  | nil => simp at hp
  | blocked => exact ⟨_, List.mem_cons_self, rfl⟩
  | number _ _ _ _ ih =>
    rcases List.mem_cons.mp hp with rfl | hp
    · cases hblocked
    · obtain ⟨p', hp', hblocked'⟩ := ih hp
      exact ⟨p', List.mem_cons_of_mem _ hp', hblocked'⟩
  | skipped _ _ ih =>
    rcases List.mem_cons.mp hp with rfl | hp
    · cases hblocked
    · exact ih hp

end Comparison

/-! ## Section 4: What a reading leaves behind -/

namespace Reading

variable {α β : Type} {input : List Token}

/-- Each problem was found within the input. -/
def Within (r : Reading α input) : Prop := ∀ p ∈ r.problems, p.ahead <:+ input

theorem Forward.within {r : Reading α input} (h : r.Forward) : r.Within :=
  fun p hp => (h.liesIn p hp).suffix

theorem Ordered.within {ascending : Prop} {r : Reading α input} (h : r.Ordered ascending) :
    r.Within :=
  fun p hp => (h.liesIn p hp).suffix

@[simp] theorem within_done (a : α) : (done a input).Within := (forward_done a).within

@[simp] theorem within_demand (wanted : Token → Bool) (what : Expectation) :
    (demand wanted what input).Within :=
  (forward_demand wanted what input).within

@[simp] theorem within_map {r : Reading α input} {f : α → β} : (r.map f).Within ↔ r.Within :=
  Iff.rfl

@[simp] theorem Within.seenFrom {later : List Token} {r : Reading α later} (h : r.Within)
    (hs : later <:+ input) : (Reading.seenFrom hs r).Within :=
  fun p hp => (h p hp).trans hs

/-- The second reading begins with the first one and goes on where that one stopped. -/
def GoesOn (r : Reading α input) (s : Reading β input) : Prop :=
  ∃ qs, s.problems = r.problems ++ qs ∧ (∀ q ∈ qs, q.ahead <:+ r.rest) ∧ s.rest <:+ r.rest

theorem goesOn_andThen (r : Reading α input)
    {f : α → (rest : List Token) → rest.length ≤ input.length → Reading β rest}
    (hf : ∀ a rest hle, (f a rest hle).Within) : r.GoesOn (r.andThen f) := by
  obtain ⟨outcome, rest, problems, suffix⟩ := r
  cases outcome with
  | error obstacle => exact ⟨[], (List.append_nil _).symm, by simp, List.suffix_rfl⟩
  | ok a => exact ⟨_, rfl, hf a rest suffix.length_le, (f a rest suffix.length_le).suffix⟩

/-- The problems of the second reading come behind those of the first. -/
theorem prefix_andThen (r : Reading α input)
    (f : α → (rest : List Token) → rest.length ≤ input.length → Reading β rest) :
    r.problems <+: (r.andThen f).problems := by
  obtain ⟨outcome, rest, problems, suffix⟩ := r
  cases outcome with
  | error obstacle => exact List.prefix_rfl
  | ok a => exact List.prefix_append _ _

@[simp] theorem Within.andThen {r : Reading α input} (h : r.Within)
    {f : α → (rest : List Token) → rest.length ≤ input.length → Reading β rest}
    (hf : ∀ a rest hle, (f a rest hle).Within) : (r.andThen f).Within := by
  obtain ⟨qs, hproblems, hqs, -⟩ := goesOn_andThen r hf
  intro p hp
  rw [hproblems, List.mem_append] at hp
  rcases hp with hp | hp
  · exact h p hp
  · exact (hqs p hp).trans r.suffix

end Reading

/-- A report and what follows it stay behind the place where reading goes on. -/
theorem Reading.within_report {obstacle : Obstacle} {start : Token} {tokens : List Token}
    {next : Passage (resume (upcoming tokens) tokens)} (h : next.toReading.Within) :
    (Reading.report obstacle start tokens next).Within := by
  intro p hp
  rcases List.mem_cons.mp hp with rfl | hp
  · exact upcoming_suffix tokens
  · exact (h p hp).trans (resume_suffix _ tokens)

theorem Reading.goesOn_continueWith {input : List Token} (r : Reading Statement input)
    {start : Token} {more : (left : List Token) → left.length ≤ input.length → Passage left}
    (hmore : ∀ left hle, (more left hle).toReading.Within) :
    r.GoesOn (r.continueWith start more).toReading := by
  cases hr : r.outcome with
  | ok s =>
    rw [continueWith_of_ok hr]
    exact goesOn_andThen r fun _ rest hle => hmore rest hle
  | error obstacle =>
    rw [continueWith_of_error hr]
    exact goesOn_andThen r.settled fun _ rest hle => within_report (hmore _ _)

theorem Reading.prefix_continueWith {input : List Token} (r : Reading Statement input)
    (start : Token) (more : (left : List Token) → left.length ≤ input.length → Passage left) :
    r.problems <+: (r.continueWith start more).problems := by
  obtain ⟨outcome, rest, problems, suffix⟩ := r
  cases outcome with
  | error obstacle => exact ⟨_, (List.append_assoc ..).symm⟩
  | ok s => exact List.prefix_append _ _

namespace Comparison

variable {c : Comparison} {α β γ δ : Type} {d : Nat} {xs ys : List Token}

/-! ## Section 5: Readings side by side -/

/-- Both readings met the same obstacle, or they gave related values. -/
inductive Outcomes (V : α → β → Prop) : Except Obstacle α → Except Obstacle β → Prop
  | ok {a : α} {b : β} (h : V a b) : Outcomes V (.ok a) (.ok b)
  | error (obstacle : Obstacle) : Outcomes V (.error obstacle) (.error obstacle)

/-- The readings have parted: either the first one has come past what corresponds and found the
    problems `ms` there, or the two have gone on at different places after an obstacle. -/
structure Parted (c : Comparison) (r : Reading α xs) (r' : Reading β ys) : Prop where
  exists_problems : ∃ ps ms ps', r.problems = ps ++ ms ∧ ps' <+: r'.problems ∧ c.Reports ps ps' ∧
    ((c.Past r.rest ∧ ∀ p ∈ ms, c.Past p.ahead) ∨
      ¬ c.KeepsPace ∧ ∃ obstacle start ahead, .blocked obstacle start ahead ∈ ps)

/-- The readings do the same, or they do so until they part. -/
inductive SideBySide (c : Comparison) (d : Nat) (V : α → β → Prop) (r : Reading α xs)
    (r' : Reading β ys) : Prop
  | inStep (houtcome : Outcomes V r.outcome r'.outcome) (hnear : c.Near d r.rest r'.rest)
      (hreports : c.Reports r.problems r'.problems)
  | parted (h : c.Parted r r')

/-- Readings part only for one of two reasons. -/
theorem SideBySide.stays {V : α → β → Prop} {r : Reading α xs} {r' : Reading β ys}
    (h : c.SideBySide d V r r') (hpace : c.KeepsPace) (hpast : ∀ zs, ¬ c.Past zs) :
    Outcomes V r.outcome r'.outcome ∧ c.Reports r.problems r'.problems := by
  cases h with
  | inStep houtcome _ hreports => exact ⟨houtcome, hreports⟩
  | parted h =>
    obtain ⟨_, _, _, -, -, -, ⟨hend, -⟩ | ⟨hstray, -⟩⟩ := h
    · exact absurd hend (hpast _)
    · exact absurd hpace hstray

/-- Runs that read on at the same places report the same up to where the inputs no longer
    correspond. -/
theorem SideBySide.exists_reports {V : α → β → Prop} {r : Reading α xs} {r' : Reading β ys}
    (h : c.SideBySide d V r r') (hpace : c.KeepsPace) :
    ∃ ps ms ps', r.problems = ps ++ ms ∧ ps' <+: r'.problems ∧ c.Reports ps ps' ∧
      ∀ p ∈ ms, c.Past p.ahead := by
  cases h with
  | inStep _ _ hreports =>
    exact ⟨r.problems, [], r'.problems, by simp, List.prefix_rfl, hreports, by simp⟩
  | parted h =>
    obtain ⟨ps, ms, ps', hps, hps', hreports, ⟨-, hms⟩ | ⟨hstray, -⟩⟩ := h
    · exact ⟨ps, ms, ps', hps, hps', hreports, hms⟩
    · exact absurd hpace hstray

/-- Where the first run is blocked before the inputs no longer correspond, so is the second one,
    though perhaps earlier. -/
theorem SideBySide.exists_isBlocked {V : α → β → Prop} {r : Reading α xs} {r' : Reading β ys}
    (h : c.SideBySide d V r r') {p : Problem} (hp : p ∈ r.problems) (hblocked : p.isBlocked = true)
    (hpast : ¬ c.Past p.ahead) : ∃ p' ∈ r'.problems, p'.isBlocked = true := by
  cases h with
  | inStep _ _ hreports => exact hreports.exists_isBlocked hp hblocked
  | parted h =>
    obtain ⟨ps, ms, ps', hps, hps', hreports, hend⟩ := h
    -- a run that went on elsewhere was blocked before that, perhaps by another problem
    have hearlier : ∃ q ∈ ps, q.isBlocked = true := by
      rcases hend with ⟨-, hms⟩ | ⟨-, obstacle, start, ahead, hmem⟩
      · rw [hps, List.mem_append] at hp
        exact ⟨p, hp.resolve_right fun hp => hpast (hms p hp), hblocked⟩
      · exact ⟨_, hmem, rfl⟩
    obtain ⟨q, hq, hblocked⟩ := hearlier
    obtain ⟨p', hp', hblocked'⟩ := hreports.exists_isBlocked hq hblocked
    exact ⟨p', hps'.mem hp', hblocked'⟩

/-- Past what corresponds there is nothing to compare. -/
theorem sideBySide_of_past {V : α → β → Prop} {r : Reading α xs} {r' : Reading β ys}
    (hc : c.Lawful) (h : c.Past xs) (hr : r.Within) : c.SideBySide d V r r' := by
  refine .parted ⟨[], r.problems, [], rfl, List.nil_prefix, .nil, .inl ⟨?_, ?_⟩⟩
  · exact hc.past_of_suffix h r.suffix
  · exact fun p hp => hc.past_of_suffix h (hr p hp)

/-- Readings that have parted stay so. -/
theorem Parted.goesOn {r : Reading α xs} {r' : Reading β ys} {s : Reading γ xs}
    {s' : Reading δ ys} (hc : c.Lawful) (h : c.Parted r r') (hs : r.GoesOn s)
    (hs' : r'.problems <+: s'.problems) : c.Parted s s' := by
  -- what is added lies behind what was left, and that is past what corresponds already
  obtain ⟨ps, ms, ps', hps, hps', hreports, hend⟩ := h
  obtain ⟨qs, hproblems, hqs, hrest⟩ := hs
  refine ⟨ps, ms ++ qs, ps', ?_, hps'.trans hs', hreports, hend.imp_left ?_⟩
  · rw [hproblems, hps, List.append_assoc]
  · intro ⟨hpast, hms⟩
    refine ⟨hc.past_of_suffix hpast hrest, fun p hp => ?_⟩
    rcases List.mem_append.mp hp with hp | hp
    · exact hms p hp
    · exact hc.past_of_suffix hpast (hqs p hp)

theorem sideBySide_done {V : α → β → Prop} {a : α} {b : β} (h : V a b) (hnear : c.Near d xs ys) :
    c.SideBySide d V (.done a xs) (.done b ys) :=
  .inStep (.ok h) hnear .nil

theorem sideBySide_fail {V : α → β → Prop} (obstacle : Obstacle) (hnear : c.Near d xs ys) :
    c.SideBySide d V (.fail obstacle xs) (.fail obstacle ys) :=
  .inStep (.error obstacle) hnear .nil

namespace SideBySide

variable {V : α → β → Prop} {W : γ → δ → Prop}

theorem shallower {r : Reading α xs} {r' : Reading β ys} (h : c.SideBySide (d + 1) V r r')
    (hc : c.Lawful) : c.SideBySide d V r r' := by
  cases h with
  | inStep houtcome hnear hreports => exact .inStep houtcome (hc.shallower hnear) hreports
  | parted h => exact .parted h

theorem seenFrom {later later' : List Token} {r : Reading α later} {r' : Reading β later'}
    (h : c.SideBySide d V r r') (hs : later <:+ xs) (hs' : later' <:+ ys) :
    c.SideBySide d V (Reading.seenFrom hs r) (Reading.seenFrom hs' r') := by
  cases h with
  | inStep houtcome hnear hreports => exact .inStep houtcome hnear hreports
  | parted h => exact .parted ⟨h.exists_problems⟩

theorem map {r : Reading α xs} {r' : Reading β ys} {f : α → γ} {g : β → δ}
    (h : c.SideBySide d V r r') (hfg : ∀ a b, V a b → W (f a) (g b)) :
    c.SideBySide d W (r.map f) (r'.map g) := by
  obtain ⟨outcome, rest, problems, suffix⟩ := r
  obtain ⟨outcome', rest', problems', suffix'⟩ := r'
  cases h with
  | inStep houtcome hnear hreports =>
    cases houtcome with
    | ok h => exact .inStep (.ok (hfg _ _ h)) hnear hreports
    | error obstacle => exact .inStep (.error obstacle) hnear hreports
  | parted h => exact .parted ⟨h.exists_problems⟩

/-- What follows side by side runs side by side. Once the first readings have parted, it only has to
    stay behind them. -/
theorem andThen {r : Reading α xs} {r' : Reading β ys}
    {f : α → (rest : List Token) → rest.length ≤ xs.length → Reading γ rest}
    {f' : β → (rest : List Token) → rest.length ≤ ys.length → Reading δ rest}
    (h : c.SideBySide d V r r') (hc : c.Lawful) (hw : ∀ a rest hle, (f a rest hle).Within)
    (hf : ∀ a b rest rest' hle hle', V a b → c.Near d rest rest' →
      c.SideBySide d W (f a rest hle) (f' b rest' hle')) :
    c.SideBySide d W (r.andThen f) (r'.andThen f') := by
  -- the second readings matter only if the first ones are in step and both gave a value
  cases h with
  | parted h => exact .parted (h.goesOn hc (r.goesOn_andThen hw) (r'.prefix_andThen f'))
  | inStep houtcome hnear hreports =>
    obtain ⟨outcome, rest, problems, suffix⟩ := r
    obtain ⟨outcome', rest', problems', suffix'⟩ := r'
    cases houtcome with
    | error obstacle => exact .inStep (.error obstacle) hnear hreports
    | ok h =>
      next a b =>
      cases hf a b rest rest' suffix.length_le suffix'.length_le h hnear with
      | inStep houtcome' hnear' hreports' =>
        exact .inStep houtcome' hnear' (hreports.append hreports')
      | parted h' =>
        -- they part later: the problems of the first readings go in front
        obtain ⟨ps, ms, ps', hps, hps', hreports', hend⟩ := h'
        refine .parted ⟨problems ++ ps, ms, problems' ++ ps', ?_, ?_, hreports.append hreports',
          hend.imp_right ?_⟩
        · simp [Reading.andThen, hps]
        · exact (List.prefix_append_right_inj problems').mpr hps'
        · rintro ⟨hpace, obstacle, start, ahead, hmem⟩
          exact ⟨hpace, obstacle, start, ahead, List.mem_append_right _ hmem⟩

end SideBySide

/-! ## Section 6: Demanded tokens -/

theorem faces_nil (hnear : c.Near d [] []) (hpast : ¬ c.Past []) : c.Faces [] [] :=
  ⟨⟨d, hnear⟩, .none, hpast⟩

theorem faces_cons {t t' : Token} {rest rest' : List Token} (hsame : c.Same t t')
    (hhere : c.Near d (t :: rest) (t' :: rest')) (hpast : ¬ c.Past (t :: rest)) :
    c.Faces (t :: rest) (t' :: rest') :=
  ⟨⟨d, hhere⟩, .some hsame, hpast⟩

section demand
variable {wanted : Token → Bool} {what : Expectation}

/-- Both runs demand the same of the next token. -/
theorem sideBySide_demand (hc : c.Lawful) (h : c.Near d xs ys)
    (hwanted : ∀ t t', c.Same t t' → wanted t' = wanted t) :
    c.SideBySide d c.Same (demand wanted what xs) (demand wanted what ys) := by
  rcases hc.next h with ⟨hu, hu', hend, hpast⟩ |
    @⟨t, t', rest, rest', hu, hu', hsame, hhere, hnear, hpast⟩ | ⟨hpast⟩
  · rw [demand_of_nil hu, demand_of_nil hu']
    exact .inStep (.error _) hend .nil
  · rw [demand_of_cons hu, demand_of_cons hu', hwanted t t' hsame]
    -- a token that is wanted is taken by both, and one that is not stops both in front of it
    split
    · exact .inStep (.ok hsame) (hc.shallower hnear) .nil
    · exact .inStep (.error _) hhere .nil
  · exact sideBySide_of_past hc hpast (Reading.within_demand _ _)

/-- What is read behind a demanded token can be one deeper. -/
theorem sideBySide_demand_andThen {W : γ → δ → Prop}
    {f : Token → (rest : List Token) → rest.length ≤ xs.length → Reading γ rest}
    {f' : Token → (rest : List Token) → rest.length ≤ ys.length → Reading δ rest}
    (hc : c.Lawful) (h : c.Near d xs ys) (hwanted : ∀ t t', c.Same t t' → wanted t' = wanted t)
    (hw : ∀ t rest hle, (f t rest hle).Within)
    (hf : ∀ t t' rest rest' hle hle', upcoming xs = t :: rest → wanted t = true → c.Same t t' →
      c.Near (d + 1) rest rest' → c.SideBySide d W (f t rest hle) (f' t' rest' hle')) :
    c.SideBySide d W ((demand wanted what xs).andThen f) ((demand wanted what ys).andThen f') := by
  rcases hc.next h with ⟨hu, hu', hend, hpast⟩ |
    @⟨t, t', rest, rest', hu, hu', hsame, hhere, hnear, hpast⟩ | ⟨hpast⟩
  · rw [demand_of_nil hu, demand_of_nil hu']
    exact .inStep (.error _) hend .nil
  · rw [demand_of_cons hu, demand_of_cons hu', hwanted t t' hsame]
    split
    · next ht =>
      have hle := (suffix_of_upcoming hu).length_le
      have hle' := (suffix_of_upcoming hu').length_le
      exact (hf t t' rest rest' hle hle' hu ht hsame hnear).seenFrom (suffix_of_upcoming hu)
        (suffix_of_upcoming hu')
    · exact .inStep (.error _) hhere .nil
  · exact sideBySide_of_past hc hpast ((Reading.within_demand _ _).andThen hw)

end demand

end Comparison

end ScriptCheck
