import ScriptCheck.Proofs.SideBySide.Expressions

/-! # Programs Side by Side

  The readers of statements run side by side on inputs that correspond. A list
  of statements reads on after an obstacle, and with it the comparison goes on
  there, or else the runs part at the obstacle.

  Only the parameters of a function look further ahead than one token: a comma
  is taken if a name follows it. So a comparison must not end between the two.
-/

namespace ScriptCheck

/-! ## Section 1: Problems of statements lie in their input -/

section within
variable (limit depth : Nat) (input : List Token)

@[simp] theorem within_readNamed (name : String) : (readNamed limit depth name input).Within :=
  (readNamed_forward limit depth name input).within

@[simp] theorem within_readPrint : (readPrint limit depth input).Within :=
  (readPrint_forward limit depth input).within

@[simp] theorem within_readParameters : (readParameters input).Within :=
  (readParameters_forward input).within

@[simp] theorem within_readStatements (scope : Scope) :
    (readStatements limit depth scope input).toReading.Within :=
  (readStatements_ordered limit depth scope False.elim).1.within

@[simp] theorem within_readBlock : (readBlock limit depth input).Within :=
  (readBlock_ordered limit depth False.elim).within

@[simp] theorem within_readBody : (readBody limit depth input).Within :=
  (readBody_ordered limit depth False.elim).within

@[simp] theorem within_readElse (condition : Expression) (body : List Statement) :
    (readElse limit depth condition body input).Within := by
  cases hu : upcoming input with
  | nil => simp [readElse_of_nil hu]
  | cons t rest =>
    rw [readElse_of_cons hu]
    split
    · simp [Reading.Within.seenFrom]
    · simp

@[simp] theorem within_demandIdentifier : (demandIdentifier input).Within :=
  Reading.within_demand _ _

@[simp] theorem within_demandKeyword (word : String) : (demandKeyword word input).Within :=
  Reading.within_demand _ _

end within

theorem Token.isTrivia_of_statementHead {t : Token} {head : StatementHead}
    (ht : t.statementHead? = some head) : t.isTrivia = false := by
  cases hkind : t.kind <;> simp_all [statementHead?, isTrivia, TokenKind.isTrivia]

namespace Comparison

variable {c : Comparison} {d : Nat} {xs ys : List Token}

/-! ## Section 2: Parameters -/

/-- Behind a parameter both runs take the same further parameters, or both come past what
    corresponds. -/
theorem meets_moreParameters {d e : Nat} {xs ys start start' head : List Token} (hc : c.Lawful)
    (h : c.Near d xs ys) (hstart : c.Near e start start') (hhead : IsFunctionHead head)
    (hsig : significantTokens start = head ++ significantTokens xs) :
    (c.Agree (moreParameters xs).1 (moreParameters ys).1 ∧
        c.Near d (moreParameters xs).2 (moreParameters ys).2) ∨
      c.Past (moreParameters xs).2 := by
  have hnone (hxs : moreParameters xs = ([], xs)) (hys : moreParameters ys = ([], ys)) :
      (c.Agree (moreParameters xs).1 (moreParameters ys).1 ∧
          c.Near d (moreParameters xs).2 (moreParameters ys).2) ∨
        c.Past (moreParameters xs).2 := by
    rw [hxs, hys]
    exact .inl ⟨agree_refl _, h⟩
  rcases hc.next h with ⟨hu, hu', -, -⟩ |
    @⟨comma, comma', rest, rest', hu, hu', hsame, -, hnear, hpast⟩ | ⟨hpast⟩
  · exact hnone (moreParameters_of_nil hu) (moreParameters_of_nil hu')
  · cases hcomma : comma.isPunctuation "," with
    | false =>
      have hcomma' := (hc.isPunctuation_eq hsame ",").trans hcomma
      exact hnone (moreParameters_of_not_comma hu hcomma) (moreParameters_of_not_comma hu' hcomma')
    | true =>
      have hcomma' := (hc.isPunctuation_eq hsame ",").trans hcomma
      have hsig₁ := significantTokens_of_upcoming_cons hu
      rcases hc.next (hc.shallower hnear) with ⟨hu₁, hu₁', -, -⟩ |
        @⟨name, name', rest₁, rest₁', hu₁, hu₁', hsame₁, -, hnear₁, -⟩ | ⟨hpast₁⟩
      · exact hnone (moreParameters_of_not_name hu (by simp [hu₁]))
          (moreParameters_of_not_name hu' (by simp [hu₁']))
      · by_cases hname : name.kind = .identifier
        -- both runs take the comma and the name
        · have hname' := (hc.kind_eq hsame₁).trans hname
          have hlt := length_lt_of_upcoming hu
          have hlt₁ := length_lt_of_upcoming hu₁
          have hsig₂ : significantTokens start =
              head ++ [comma, name] ++ significantTokens rest₁ := by
            rw [hsig, hsig₁, significantTokens_of_upcoming_cons hu₁]
            simp
          rw [moreParameters_of_name hu hcomma hu₁ hname,
            moreParameters_of_name hu' hcomma' hu₁' hname']
          refine (meets_moreParameters hc (hc.shallower hnear₁) hstart
            (.further hhead hcomma hname) hsig₂).imp_left fun ⟨hmore, hrest⟩ => ⟨?_, hrest⟩
          exact (hc.agree_lexeme hsame₁).map₂ hmore _
        · have hname' : name'.kind ≠ .identifier := fun heq => hname (hc.kind_eq hsame₁ ▸ heq)
          exact hnone (moreParameters_of_not_name hu (by simpa [hu₁] using hname))
            (moreParameters_of_not_name hu' (by simpa [hu₁'] using hname'))
      -- the comma is not the last token that corresponds
      · exact absurd hpast₁ (hc.noLastComma hstart hhead hcomma (hsig₁ ▸ hsig) hpast)
  · exact .inr (hc.past_of_suffix hpast (moreParameters_suffix xs))
termination_by xs.length

theorem sideBySide_readParameters {e : Nat} {start start' : List Token}
    {word name opening : Token} (hc : c.Lawful) (h : c.Near d xs ys)
    (hstart : c.Near e start start') (hword : word.isKeyword "def" = true)
    (hname : name.kind = .identifier) (hopening : opening.isPunctuation "(" = true)
    (hsig : significantTokens start = word :: name :: opening :: significantTokens xs) :
    c.SideBySide d c.Agree (readParameters xs) (readParameters ys) := by
  rcases hc.next h with ⟨hu, hu', -, -⟩ |
    @⟨p, p', rest, rest', hu, hu', hsame, -, hnear, -⟩ | ⟨hpast⟩
  · rw [readParameters_of_nil hu, readParameters_of_nil hu']
    exact sideBySide_done (agree_refl _) h
  · rw [readParameters_of_cons hu, readParameters_of_cons hu', hc.kind_eq hsame]
    split
    · next hp =>
      have hhead : IsFunctionHead [word, name, opening, p] := .first hword hname hopening hp
      have hsig₁ : significantTokens start =
          [word, name, opening, p] ++ significantTokens rest := by
        rw [hsig, significantTokens_of_upcoming_cons hu]
        rfl
      rcases meets_moreParameters hc (hc.shallower hnear) hstart hhead hsig₁ with
        ⟨hmore, hrest⟩ | hpast
      · exact .inStep (.ok ((hc.agree_lexeme hsame).map₂ hmore _)) hrest .nil
      · exact .parted ⟨[], [], [], rfl, List.nil_prefix, .nil, .inl ⟨hpast, by simp⟩⟩
    · exact sideBySide_done (agree_refl _) h
  · exact sideBySide_of_past hc hpast (by simp)

/-! ## Section 3: Obstacles -/

/-- Both runs report a fault and read on. They stay together if they do so at the same place. -/
theorem sideBySide_fault {left left' ahead ahead' : List Token} {p : Passage left}
    {p' : Passage left'} {start start' : Option Token} (obstacle : Obstacle) (hs : left <:+ xs)
    (hs' : left' <:+ ys) (hc : c.Lawful) (hstart : Option.Rel c.Same start start')
    (hfaces : c.Faces ahead ahead') (hleft : c.KeepsPace → c.Meets d left left')
    (hmore : c.Near d left left' → c.SideBySide d c.Agree p.toReading p'.toReading)
    (hw : p.toReading.Within) :
    c.SideBySide d c.Agree (p.precededBy hs [] [.blocked obstacle start ahead]).toReading
      (p'.precededBy hs' [] [.blocked obstacle start' ahead']).toReading := by
  have hfault : c.Reports [.blocked obstacle start ahead] [.blocked obstacle start' ahead'] :=
    .blocked hstart hfaces .nil
  have hfirst : [.blocked obstacle start' ahead'] <+:
      (p'.precededBy hs' [] [.blocked obstacle start' ahead']).problems := List.prefix_append _ _
  -- runs that do not keep pace part here, with the fault as the last problem they share
  by_cases hpace : c.KeepsPace
  · rcases hleft hpace with hnear | hpast
    · cases hmore hnear with
      | inStep houtcome hnear hreports => exact .inStep houtcome hnear (hfault.append hreports)
      | parted h =>
        obtain ⟨ps, ms, ps', hps, hps', hreports, hend⟩ := h
        refine .parted ⟨_ :: ps, ms, _ :: ps', congrArg (_ :: ·) hps,
          (List.prefix_cons_inj _).mpr hps', .blocked hstart hfaces hreports, hend.imp_right ?_⟩
        exact fun ⟨hstray, _⟩ => absurd hpace hstray
    · -- the search for a place to go on has come past what corresponds
      refine .parted ⟨_, p.problems, _, rfl, hfirst, hfault, .inl ⟨?_, ?_⟩⟩
      · exact hc.past_of_suffix hpast p.suffix
      · exact fun q hq => hc.past_of_suffix hpast (hw q hq)
  · refine .parted ⟨_, p.problems, _, rfl, hfirst, hfault, .inr ⟨hpace, ?_⟩⟩
    exact ⟨obstacle, start, ahead, List.mem_singleton_self _⟩

/-- Both runs report an obstacle in front of corresponding tokens. -/
theorem sideBySide_report {start start' : Token} {next : Passage (resume (upcoming xs) xs)}
    {next' : Passage (resume (upcoming ys) ys)} (obstacle : Obstacle) (hc : c.Lawful)
    (h : c.Near d xs ys) (hsame : c.Same start start')
    (hmore : c.Near d (resume (upcoming xs) xs) (resume (upcoming ys) ys) →
      c.SideBySide d c.Agree next.toReading next'.toReading)
    (hw : next.toReading.Within) :
    c.SideBySide d c.Agree (Reading.report obstacle start xs next)
      (Reading.report obstacle start' ys next') := by
  rcases hc.next h with ⟨hu, hu', hend, hpast⟩ |
    @⟨t, t', rest, rest', hu, hu', hsame', hhere, -, hpast⟩ | ⟨hpast⟩
  · refine sideBySide_fault obstacle _ _ hc (.some hsame) ?_ ?_ hmore hw
    · rw [hu, hu']
      exact faces_nil hend hpast
    · intro _
      rw [hu, hu']
      exact .inl hend
  · refine sideBySide_fault obstacle _ _ hc (.some hsame) ?_ ?_ hmore hw
    · rw [hu, hu']
      exact faces_cons hsame' hhere hpast
    · intro hpace
      rw [hu, hu']
      exact hc.resume hpace h hu hu' hpast
  · exact sideBySide_of_past hc hpast (Reading.within_report hw)

theorem SideBySide.continueWith {r : Reading Statement xs} {r' : Reading Statement ys}
    {start start' : Token} {more : (left : List Token) → left.length ≤ xs.length → Passage left}
    {more' : (left : List Token) → left.length ≤ ys.length → Passage left}
    (h : c.SideBySide d c.Agree r r') (hc : c.Lawful) (hsame : c.Same start start')
    (hw : ∀ left hle, (more left hle).toReading.Within)
    (hmore : ∀ left left' hle hle', c.Near d left left' →
      c.SideBySide d c.Agree (more left hle).toReading (more' left' hle').toReading) :
    c.SideBySide d c.Agree (r.continueWith start more).toReading
      (r'.continueWith start' more').toReading := by
  cases h with
  | parted h =>
    exact .parted (h.goesOn hc (r.goesOn_continueWith hw) (r'.prefix_continueWith start' more'))
  | inStep houtcome hnear hreports =>
    -- both gave a statement, and go on behind it, or both were blocked by the same obstacle
    generalize hr : r.outcome = o at houtcome
    generalize hr' : r'.outcome = o' at houtcome
    cases houtcome with
    | ok hs =>
      have hboth : c.SideBySide d c.Agree r r' := .inStep (by rw [hr, hr']; exact .ok hs) hnear
        hreports
      rw [Reading.continueWith_of_ok hr, Reading.continueWith_of_ok hr']
      apply hboth.andThen hc
      · exact fun _ rest hle => Reading.within_map.mpr (hw rest hle)
      · intro s s' rest rest' hle hle' hs hnear
        exact (hmore rest rest' hle hle' hnear).map fun _ _ hss => hs.map₂ hss _
    | error obstacle =>
      have hboth : c.SideBySide d c.Agree r.settled r'.settled := .inStep (.ok (agree_refl ()))
        hnear hreports
      rw [Reading.continueWith_of_error hr, Reading.continueWith_of_error hr']
      apply hboth.andThen hc
      · exact fun _ rest _ => Reading.within_report (hw _ _)
      · intro _ _ rest rest' _ _ _ hnear
        exact sideBySide_report obstacle hc hnear hsame (hmore _ _ _ _) (hw _ _)

/-! ## Section 4: Simple statements -/

theorem sideBySide_readNamed {name name' : String} (hc : c.Lawful) (h : c.Near d xs ys)
    (hname : c.Agree name name') :
    c.SideBySide d c.Agree (readNamed c.limit d name xs) (readNamed c.limit' d name' ys) := by
  have hpunctuation (text : String) (t t' : Token) (hsame : c.Same t t') :
      t'.isPunctuation text = t.isPunctuation text := hc.isPunctuation_eq hsame text
  rcases nextIs_eq_of_next "=" hc h with heq | hpast
  · rcases nextIs_eq_of_next "(" hc h with heq' | hpast
    · unfold readNamed
      rw [heq, heq']
      split
      · apply sideBySide_demand_andThen hc h (hpunctuation "=") (by simp)
        intro _ _ rest rest' _ _ _ _ _ hnear
        apply (sideBySide_readExpression hc 0 (hc.shallower hnear)).map
        exact fun _ _ he => hname.map₂ he _
      · split
        · apply sideBySide_demand_andThen hc h (hpunctuation "(") (by simp)
          intro _ _ rest rest' _ _ _ _ _ hnear
          apply ((sideBySide_readItems hc ")" hnear).shallower hc).map
          exact fun _ _ hes => hname.map₂ hes _
        · exact sideBySide_fail _ h
    · exact sideBySide_of_past hc hpast (by simp)
  · exact sideBySide_of_past hc hpast (by simp)

theorem sideBySide_readPrint (hc : c.Lawful) (h : c.Near d xs ys) :
    c.SideBySide d c.Agree (readPrint c.limit d xs) (readPrint c.limit' d ys) := by
  unfold readPrint
  apply sideBySide_demand_andThen hc h
  · exact fun _ _ hsame => hc.isPunctuation_eq hsame "("
  · simp
  · intro _ _ rest rest' _ _ _ _ _ hnear
    apply ((sideBySide_readExpression hc 0 hnear).shallower hc).andThen hc
    · simp
    · intro argument argument' rest₁ rest₁' _ _ hargument hnear₁
      apply (sideBySide_demandPunctuation hc hnear₁).map
      exact fun _ _ _ => hargument.map _

/-! ## Section 5: The four readers -/

mutual

theorem sideBySide_readStatements {d : Nat} {xs ys : List Token} (hc : c.Lawful) (scope : Scope)
    (h : c.Near d xs ys) :
    c.SideBySide d c.Agree (readStatements c.limit d scope xs).toReading
      (readStatements c.limit' d scope ys).toReading := by
  rcases hc.next h with ⟨hu, hu', -, -⟩ |
    @⟨t, t', rest, rest', hu, hu', hsame, hhere, hnear, hpast⟩ | ⟨hpast⟩
  · rw [readStatements_of_nil hu, readStatements_of_nil hu']
    exact sideBySide_done (agree_refl _) h
  · have hlt := length_lt_of_upcoming hu
    cases ht : t.statementHead? with
    | some head =>
      have ht' := (hc.statementHead?_eq hsame).trans ht
      rw [readStatements_of_head hu ht, readStatements_of_head hu' ht']
      have hrow := (sideBySide_readStatement hc ht hsame hhere (hc.shallower hnear)).continueWith
        hc hsame (fun left _ => within_readStatements c.limit d left scope)
        fun left left' hle _ hnear' => sideBySide_readStatements hc scope hnear'
      exact hrow.seenFrom (suffix_of_upcoming hu) (suffix_of_upcoming hu')
    | none =>
      have ht' := (hc.statementHead?_eq hsame).trans ht
      cases scope with
      | body =>
        rw [readStatements_body_of_none hu ht, readStatements_body_of_none hu' ht']
        exact sideBySide_done (agree_refl _) h
      | program =>
        rw [readStatements_program_of_none hu ht, readStatements_program_of_none hu' ht']
        -- going on begins behind the fault, which is what makes the recursion end
        have hlength := resume_tail_length_lt (t :: rest)
          (List.length_pos_iff.mpr (ne_nil_of_upcoming hu))
        apply sideBySide_fault _ _ _ hc (.some hsame) (faces_cons hsame hhere hpast)
        · exact fun hpace => hc.resume_tail hpace h hu hu' hpast ht
        · exact sideBySide_readStatements hc .program
        · simp
  · exact sideBySide_of_past hc hpast (by simp)
termination_by 4 * xs.length

theorem sideBySide_readBlock {d : Nat} {xs ys : List Token} (hc : c.Lawful) (h : c.Near d xs ys) :
    c.SideBySide d c.Agree (readBlock c.limit d xs) (readBlock c.limit' d ys) := by
  rcases hc.next h with ⟨hu, hu', -, -⟩ |
    @⟨t, t', rest, rest', hu, hu', hsame, -, -, -⟩ | ⟨hpast⟩
  · simp only [readBlock, hu, hu', hc.limit_lt_iff h]
    split
    · exact sideBySide_fail _ h
    · exact sideBySide_fail _ h
  · simp only [readBlock, hu, hu', hc.limit_lt_iff h, hc.startsStatement_eq hsame]
    split
    · exact sideBySide_fail _ h
    · split
      · exact sideBySide_readStatements hc .body h
      · exact sideBySide_fail _ h
  · exact sideBySide_of_past hc hpast (by simp)
termination_by 4 * xs.length + 1

theorem sideBySide_readBody {d : Nat} {xs ys : List Token} (hc : c.Lawful) (h : c.Near d xs ys) :
    c.SideBySide d c.Agree (readBody c.limit d xs) (readBody c.limit' d ys) := by
  rw [readBody, readBody]
  apply sideBySide_demand_andThen hc h
  · exact fun _ _ hsame => hc.isPunctuation_eq hsame ":"
  · simp
  · intro _ _ rest rest' hle _ _ _ _ hnear
    exact (sideBySide_readBlock hc hnear).shallower hc
termination_by 4 * xs.length + 2

theorem sideBySide_readStatement {d : Nat} {xs ys : List Token} {head : StatementHead}
    {t t' : Token} (hc : c.Lawful) (ht : t.statementHead? = some head) (hsame : c.Same t t')
    (hhere : c.Near d (t :: xs) (t' :: ys)) (h : c.Near d xs ys) :
    c.SideBySide d c.Agree (readStatement c.limit d head t.lexeme xs)
      (readStatement c.limit' d head t'.lexeme ys) := by
  -- each reader of a part is followed by the next one at a place that corresponds again; with a
  -- value on both sides the statements agree since their parts do
  have hidentifier (t t' : Token) (hsame : c.Same t t') :
      (t'.kind == .identifier) = (t.kind == .identifier) := by rw [hc.kind_eq hsame]
  have hpunctuation (text : String) (t t' : Token) (hsame : c.Same t t') :
      t'.isPunctuation text = t.isPunctuation text := hc.isPunctuation_eq hsame text
  cases head with
  | name =>
    rw [readStatement, readStatement]
    exact sideBySide_readNamed hc h (hc.agree_lexeme hsame)
  | printWord =>
    rw [readStatement, readStatement]
    exact sideBySide_readPrint hc h
  | returnWord =>
    rw [readStatement, readStatement]
    exact (sideBySide_readExpression hc 0 h).map fun _ _ he => he.map _
  | ifWord =>
    rw [readStatement_if, readStatement_if]
    apply (sideBySide_readExpression hc 0 h).andThen hc (by simp)
    intro condition condition' rest₁ rest₁' hle₁ _ hcondition hnear₁
    apply (sideBySide_readBody hc hnear₁).andThen hc (by simp)
    intro body body' rest₂ rest₂' hle₂ _ hbody hnear₂
    have hthen := hcondition.map₂ hbody Statement.ifThen
    rcases hc.next hnear₂ with ⟨hu, hu', -, -⟩ |
      @⟨other, other', rest₃, rest₃', hu, hu', hsame', -, hnear₃, -⟩ | ⟨hpast⟩
    · rw [readElse_of_nil hu, readElse_of_nil hu']
      exact sideBySide_done hthen hnear₂
    · have := length_lt_of_upcoming hu
      rw [readElse_of_cons hu, readElse_of_cons hu', hc.isKeyword_eq hsame']
      split
      · apply SideBySide.seenFrom
        apply (sideBySide_readBody hc (hc.shallower hnear₃)).map
        intro otherwise otherwise' hotherwise hexact
        rw [hcondition hexact, hbody hexact, hotherwise hexact]
      · exact sideBySide_done hthen hnear₂
    · exact sideBySide_of_past hc hpast (by simp)
  | whileWord =>
    rw [readStatement, readStatement]
    apply (sideBySide_readExpression hc 0 h).andThen hc (by simp)
    intro condition condition' rest rest' hle _ hcondition hnear
    exact (sideBySide_readBody hc hnear).map fun _ _ hbody => hcondition.map₂ hbody _
  | forWord =>
    rw [readStatement, readStatement]
    apply sideBySide_demand_andThen hc h hidentifier (by simp)
    intro name name' rest₁ rest₁' hle₁ _ _ _ hname hnear₁
    apply sideBySide_demand_andThen hc (hc.shallower hnear₁)
    · exact fun _ _ hsame => hc.isKeyword_eq hsame "in"
    · simp
    intro _ _ rest₂ rest₂' hle₂ _ _ _ _ hnear₂
    apply (sideBySide_readExpression hc 0 (hc.shallower hnear₂)).andThen hc (by simp)
    intro iterable iterable' rest₃ rest₃' hle₃ _ hiterable hnear₃
    apply (sideBySide_readBody hc hnear₃).map
    intro body body' hbody hexact
    rw [hc.agree_lexeme hname hexact, hiterable hexact, hbody hexact]
  | defWord =>
    rw [readStatement, readStatement]
    apply sideBySide_demand_andThen hc h hidentifier
    · exact fun _ _ _ => (within_demandPunctuation _ _).andThen (by simp)
    intro name name' rest₁ rest₁' hle₁ _ hu₁ hkind hname hnear₁
    apply sideBySide_demand_andThen hc (hc.shallower hnear₁) (hpunctuation "(")
    · simp
    intro opening opening' rest₂ rest₂' hle₂ _ hu₂ hopening _ hnear₂
    -- where the parameters begin is known, so it is known that they are parameters
    have hsig : significantTokens (t :: xs) = t :: name :: opening :: significantTokens rest₂ := by
      have ht : t.isTrivia = false := Token.isTrivia_of_statementHead ht
      rw [← significantTokens_of_upcoming_cons hu₂, ← significantTokens_of_upcoming_cons hu₁,
        significantTokens_cons ht]
    have hword : t.isKeyword "def" = true :=
      Token.isKeyword_iff.mpr (Token.statementHead?_eq_some_iff.mp ht)
    apply (sideBySide_readParameters hc (hc.shallower hnear₂) hhere hword
      (by simpa using hkind) hopening hsig).andThen hc (by simp)
    intro parameters parameters' rest₃ rest₃' hle₃ _ hparameters hnear₃
    apply sideBySide_demand_andThen hc hnear₃ (hpunctuation ")")
    · simp
    intro _ _ rest₄ rest₄' hle₄ _ _ _ _ hnear₄
    apply (sideBySide_readBody hc (hc.shallower hnear₄)).map
    intro body body' hbody hexact
    rw [hc.agree_lexeme hname hexact, hparameters hexact, hbody hexact]
termination_by 4 * xs.length + 3

end

end Comparison

end ScriptCheck
