import ScriptCheck.Proofs.Completeness.Expressions
import ScriptCheck.Token.Lexer

/-! # Yields of Greedy Programs are Read Back

  A yield of a greedy program is read as that program if nothing in it is nested
  too deeply; otherwise nesting is the first error that is reported. Trivia may
  stand anywhere, since only the significant tokens are spoken of.

  A list of statements is read back where no statement follows it. Greediness is
  what hands this condition down: the statements in front of the last one have no
  body, and what follows the last one follows its body. An `else` follows only
  bodies that do not take it.
-/

namespace ScriptCheck

open ExpressionPhrase StatementPhrase

/-! ## Section 1: Ends of statements -/

/-- Nothing but a name or a reserved word comes first. -/
def BeginsWithWord (ys : List Token) : Prop :=
  ∀ t ∈ ys.head?, t.kind = .identifier ∨ t.kind = .keyword

theorem BeginsWithWord.stopsBefore {least : Nat} {ys : List Token} (h : BeginsWithWord ys) :
    StopsBefore least ys := by
  intro t ht op hop
  have hkind := (Token.binaryOperator?_eq_some_iff.mp hop).1
  rcases h t ht with hword | hword
  all_goals
    rw [hkind] at hword
    cases hword

theorem BeginsWithWord.endsExpression {top : Option BinaryOperator} {ys : List Token}
    (h : BeginsWithWord ys) : EndsExpression top ys where
  noCall t ht := by rcases h t ht with hword | hword <;> simp [Token.isPunctuation, hword]
  noTighter _ _ := h.stopsBefore

theorem beginsWithWord_of_statementHead {t : Token} {head : StatementHead} {ys : List Token}
    (ht : t.statementHead? = some head) : BeginsWithWord (t :: ys) := by
  intro t' ht'
  obtain rfl : t = t' := by simpa using ht'
  have hword := Token.statementHead?_eq_some_iff.mp ht
  -- every statement but an assignment or a call starts with a reserved word
  cases head with
  | name => exact .inl hword
  | _ => exact .inr hword.1

/-- A list of statements is never empty. -/
theorem StatementPhrase.Yields.ne_nil {ss : List Statement} {n : Nat} {ys : List Token}
    (h : (statements ss).Yields n ys) : ss ≠ [] := by
  cases h with
  | last => exact List.cons_ne_nil _ _
  | more => exact List.cons_ne_nil _ _

namespace Statement

variable {s : Statement} {ss : List Statement} {following : List Token}

/-- What follows a statement with a body follows its last body. The first of two bodies is followed
    by an `else`, which it does not take. -/
theorem TookAll.bodies (h : s.TookAll following) :
    match s with
    | .ifThen _ ss | .whileLoop _ ss | .forLoop _ _ ss | .define _ _ ss =>
      TookAllInRow ss following
    | .ifElse _ ss ss' =>
      areGreedy ss = true ∧ lastTakesElse ss = false ∧ TookAllInRow ss' following
    | .assign .. | .call .. | .print .. | .returnValue .. => True := by
  obtain ⟨hgreedy, hstatement, helse⟩ := h
  -- the last body is followed by what follows the statement; only a conditional has one before it
  cases s with
  | ifThen =>
    rw [isGreedy] at hgreedy
    exact ⟨hgreedy, hstatement rfl, fun _ => helse (by rw [takesElse])⟩
  | whileLoop | forLoop | define =>
    rw [isGreedy] at hgreedy
    rw [takesElse] at helse
    exact ⟨hgreedy, hstatement rfl, helse⟩
  | ifElse =>
    simp only [isGreedy, Bool.and_eq_true, Bool.not_eq_true'] at hgreedy
    rw [takesElse] at helse
    exact ⟨hgreedy.1.2, hgreedy.1.1, hgreedy.2, hstatement rfl, helse⟩
  | _ => trivial

/-- What follows a list of statements follows the last of them. -/
theorem TookAllInRow.last (h : TookAllInRow [s] following) : s.TookAll following where
  greedy := by simpa [areGreedy] using h.greedy
  noStatement _ := h.noStatement
  noElse hs := h.noElse (by simpa [lastTakesElse] using hs)

/-- The statements before the last one have no body. -/
theorem TookAllInRow.tail (h : TookAllInRow (s :: ss) following) (hne : ss ≠ []) :
    s.isSimple = true ∧ TookAllInRow ss following := by
  have hgreedy := h.greedy
  simp only [areGreedy, List.isEmpty_iff, hne, Bool.and_eq_true, Bool.or_eq_true, false_or]
    at hgreedy
  refine ⟨hgreedy.2.1, hgreedy.2.2, h.noStatement, fun hlast => h.noElse ?_⟩
  simpa [lastTakesElse, hne] using hlast

end Statement

/-! ## Section 2: Parameters -/

section parameters
variable {input : List Token} {name : Token}

/-- A list of at least one parameter starts with a name. -/
theorem IsParameterList.exists_name {p : String} {ps : List String} {ys : List Token}
    (h : IsParameterList (p :: ps) ys) :
    ∃ name zs, ys = name :: zs ∧ name.kind = .identifier ∧ name.lexeme = p := by
  cases h with
  | last hname => exact ⟨_, _, rfl, hname, rfl⟩
  | more hname => exact ⟨_, _, rfl, hname, rfl⟩

/-- The parameters behind the first one are read back. -/
theorem moreParameters_complete {p : String} {ps : List String} {ys following : List Token}
    {closing : Token} (h : IsParameterList (p :: ps) (name :: ys))
    (hclosing : closing.Spells .delimiter ")")
    (hinput : significantTokens input = ys ++ closing :: following) :
    (moreParameters input).1 = ps ∧
      significantTokens (moreParameters input).2 = closing :: following := by
  -- along the names; before each of them the reader meets a comma
  induction ps generalizing p name ys input with
  | nil =>
    cases h with
    | last _ =>
      obtain ⟨rest, hu, _⟩ := exists_upcoming hinput
      have hcomma : closing.isPunctuation "," = false := by
        simp [Token.isPunctuation, hclosing.2]
      rw [moreParameters_of_not_comma hu hcomma]
      exact ⟨rfl, hinput⟩
  | cons p' ps' ih =>
    cases h with
    | more _ hcomma hrest =>
      obtain ⟨name', ys', rfl, hname', rfl⟩ := hrest.exists_name
      obtain ⟨rest, hu, hrest'⟩ := exists_upcoming hinput
      obtain ⟨rest', hu', hrest''⟩ := exists_upcoming hrest'
      obtain ⟨hps, hfollowing⟩ := ih hrest hrest''
      rw [moreParameters_of_name hu hcomma.isPunctuation_delimiter hu' hname']
      exact ⟨congrArg (name'.lexeme :: ·) hps, hfollowing⟩

/-- Parameters are read back in front of a closing parenthesis. -/
theorem guarded_readParameters {ps : List String} {ys following : List Token} {closing : Token}
    (h : IsParameterList ps ys) (hclosing : closing.Spells .delimiter ")")
    (hinput : significantTokens input = ys ++ closing :: following) :
    (readParameters input).Guarded True ps (closing :: following) := by
  cases ps with
  | nil =>
    cases h
    obtain ⟨rest, hu, hrest⟩ := exists_upcoming hinput
    have hdone : (Reading.done ([] : List String) input).Guarded True [] (closing :: following) :=
      (Reading.clean_done_iff.mpr ⟨rfl, rfl⟩).guarded hinput
    unfold readParameters
    -- the closing parenthesis is no name
    split
    · exact hdone
    · next t rest' hu' =>
      obtain ⟨rfl, rfl⟩ := List.cons.inj (hu'.symm.trans hu)
      rw [if_neg (by simp [hclosing.1])]
      exact hdone
  | cons p ps =>
    obtain ⟨name, ys', rfl, hname, rfl⟩ := h.exists_name
    obtain ⟨rest, hu, hrest⟩ := exists_upcoming hinput
    obtain ⟨hps, hfollowing⟩ := moreParameters_complete h hclosing hrest
    unfold readParameters
    split
    · next hnil => simp [hu] at hnil
    · next t rest' hu' =>
      obtain ⟨rfl, rfl⟩ := List.cons.inj (hu'.symm.trans hu)
      rw [if_pos hname]
      subst hps
      exact Reading.Clean.guarded ⟨rfl, rfl, rfl⟩ hfollowing

end parameters

/-! ## Section 3: What is read back -/

/-- A yield of the phrase is read as the phrase where the phrase took all that it could. The reader
    of a statement starts behind its first token. -/
def StatementPhrase.ReadsBack (limit : Nat) : StatementPhrase → Nat → List Token → Prop
  | statement s, n, ys =>
    ∃ t ys' head, ys = t :: ys' ∧ t.statementHead? = some head ∧
      ∀ ⦃depth : Nat⦄ ⦃input following : List Token⦄,
        significantTokens input = ys' ++ following → depth ≤ limit → s.TookAll following →
        BeginsWithWord following →
        (readStatement limit depth head t.lexeme input).Guarded (depth + n ≤ limit) s following
  | statements ss, n, ys =>
    ∀ ⦃depth : Nat⦄ ⦃scope : Scope⦄ ⦃input following : List Token⦄,
      significantTokens input = ys ++ following → depth ≤ limit →
      (scope = .program → following = []) → Statement.TookAllInRow ss following →
      BeginsWithWord following →
      (readStatements limit depth scope input).Guarded (depth + n ≤ limit) ss following
  | body ss, n, ys =>
    ∀ ⦃depth : Nat⦄ ⦃input following : List Token⦄,
      significantTokens input = ys ++ following → depth ≤ limit →
      Statement.TookAllInRow ss following → BeginsWithWord following →
      (readBody limit depth input).Guarded (depth + n ≤ limit) ss following

/-! ## Section 4: Expressions in statements -/

section expressions
variable {limit depth n m : Nat} {top : Option BinaryOperator} {e : Expression}
  {ss : List Statement} {input ys zs following : List Token}

/-- An expression is read back at the end of a statement. -/
theorem ExpressionPhrase.ReadsBack.guarded_before_word
    (h : (expression top e).ReadsBack limit n ys)
    (hinput : significantTokens input = ys ++ following) (hword : BeginsWithWord following) :
    (readExpression limit depth 0 input).Guarded (depth + n ≤ limit) e following := by
  apply h.guarded_readExpression hinput
  · intro op _
    exact Nat.zero_le _
  · exact hword.endsExpression
  · exact hword.stopsBefore

/-- An expression is read back in front of a body. -/
theorem ExpressionPhrase.ReadsBack.guarded_before_body
    (h : (expression top e).ReadsBack limit n ys) (hbody : (body ss).Yields m zs)
    (hinput : significantTokens input = ys ++ (zs ++ following)) :
    (readExpression limit depth 0 input).Guarded (depth + n ≤ limit) e (zs ++ following) := by
  cases hbody with
  | body hcolon => exact h.guarded_before_delimiter hinput hcolon (by decide)

end expressions

/-! ## Section 5: One step for each construct -/

section constructs
variable {limit n m : Nat} {top : Option BinaryOperator} {e : Expression} {es : List Expression}
  {s : Statement} {ss : List Statement} {t word name opening closing : Token} {ys zs : List Token}

theorem readsBack_assign {sign : Token} (hname : name.kind = .identifier)
    (hsign : sign.Spells .operator "=") (hvalue : (expression top e).ReadsBack limit n ys) :
    (statement (.assign name.lexeme e)).ReadsBack limit n (name :: sign :: ys) := by
  refine ⟨name, _, .name, rfl, Token.statementHead?_eq_some_iff.mpr hname, ?_⟩
  intro depth input following hinput _ _ hends
  have hpunct := hsign.isPunctuation_operator
  -- the sign behind the name tells an assignment from a call
  have hnext : nextIs "=" input = true := by simp [nextIs_eq, hinput, hpunct]
  unfold readStatement
  simp only [readNamed, hnext, if_true]
  apply Reading.Guarded.congr (P := True ∧ depth + n ≤ limit)
  · apply (guarded_demand hinput hpunct).andThen
    intro rest _ hrest
    exact (hvalue.guarded_before_word hrest hends).map _
  · simp

theorem readsBack_callStatement (hname : name.kind = .identifier)
    (hopening : opening.Spells .delimiter "(") (hyields : (items es).Yields n ys)
    (harguments : (items es).ReadsBack limit n ys) (hclosing : closing.Spells .delimiter ")") :
    (statement (.call name.lexeme es)).ReadsBack limit n
      (name :: opening :: (ys ++ [closing])) := by
  refine ⟨name, _, .name, rfl, Token.statementHead?_eq_some_iff.mpr hname, ?_⟩
  intro depth input following hinput hd _ _
  have hpunct := hopening.isPunctuation_delimiter
  -- an opening parenthesis is no sign of an assignment
  have hassign : nextIs "=" input = false := by
    simp [nextIs_eq, hinput, Token.isPunctuation, hopening.2]
  have hnext : nextIs "(" input = true := by simp [nextIs_eq, hinput, hpunct]
  unfold readStatement
  simp only [readNamed, hassign, hnext, Bool.false_eq_true, if_false, if_true]
  apply Reading.Guarded.congr (P := True ∧ depth + n ≤ limit)
  · apply (guarded_demand hinput hpunct).andThen
    intro rest _ hrest
    have hsplit : significantTokens rest = ys ++ closing :: following := by simpa using hrest
    exact (guarded_readItems hyields harguments hd hsplit hclosing (by decide)).map _
  · simp

theorem readsBack_print (hword : word.Spells .keyword "print")
    (hopening : opening.Spells .delimiter "(")
    (hargument : (expression top e).ReadsBack limit n ys)
    (hclosing : closing.Spells .delimiter ")") :
    (statement (.print e)).ReadsBack limit (n + 1) (word :: opening :: (ys ++ [closing])) := by
  refine ⟨word, _, .printWord, rfl, Token.statementHead?_eq_some_iff.mpr hword, ?_⟩
  intro depth input following hinput _ _ _
  unfold readStatement
  -- the parenthesis opens the level of the argument, which is one deeper
  apply Reading.Guarded.congr (P := True ∧ depth + 1 + n ≤ limit ∧ True)
  · apply (guarded_demand hinput hopening.isPunctuation_delimiter).andThen
    intro rest _ hrest
    have hsplit : significantTokens rest = ys ++ closing :: following := by simpa using hrest
    apply (hargument.guarded_before_delimiter hsplit hclosing (by decide)).andThen
    intro rest' _ hrest'
    exact (guarded_demand hrest' hclosing.isPunctuation_delimiter).map _
  · rw [and_true, true_and]
    omega

theorem readsBack_return (hword : word.Spells .keyword "return")
    (hvalue : (expression top e).ReadsBack limit n ys) :
    (statement (.returnValue e)).ReadsBack limit n (word :: ys) := by
  refine ⟨word, _, .returnWord, rfl, Token.statementHead?_eq_some_iff.mpr hword, ?_⟩
  intro depth input following hinput _ _ hends
  unfold readStatement
  exact (hvalue.guarded_before_word hinput hends).map _

theorem readsBack_ifThen (hword : word.Spells .keyword "if")
    (hcondition : (expression top e).ReadsBack limit n ys) (hyields : (body ss).Yields m zs)
    (hbody : (body ss).ReadsBack limit m zs) :
    (statement (.ifThen e ss)).ReadsBack limit (max n m) (word :: (ys ++ zs)) := by
  refine ⟨word, _, .ifWord, rfl, Token.statementHead?_eq_some_iff.mpr hword, ?_⟩
  intro depth input following hinput hd htook hends
  have hsplit : significantTokens input = ys ++ (zs ++ following) := by simpa using hinput
  unfold readStatement
  -- the condition ends at the colon, the body where the whole statement does
  apply Reading.Guarded.congr (P := depth + n ≤ limit ∧ depth + m ≤ limit ∧ True)
  · apply (hcondition.guarded_before_body hyields hsplit).andThen
    intro rest _ hrest
    apply (hbody hrest hd htook.bodies hends).andThen
    intro rest' _ hrest'
    have hdone :
        (Reading.done (Statement.ifThen e ss) rest').Guarded True (.ifThen e ss) following :=
      (Reading.clean_done_iff.mpr ⟨rfl, rfl⟩).guarded hrest'
    -- no `else` follows, since the statement would have taken it
    split
    · exact hdone
    · next t rest'' hu =>
      rw [significantTokens_of_upcoming_cons hu] at hrest'
      have hother : t.isKeyword "else" = false :=
        htook.noElse (by rw [Statement.takesElse]) t (by simp [← hrest'])
      rw [if_neg (by simp [hother])]
      exact hdone
  · rw [and_true]
    omega

theorem readsBack_ifElse {other : Token} {ss' : List Statement} {m' : Nat} {zs' : List Token}
    (hword : word.Spells .keyword "if") (hcondition : (expression top e).ReadsBack limit n ys)
    (hyields : (body ss).Yields m zs) (hbody : (body ss).ReadsBack limit m zs)
    (hother : other.Spells .keyword "else") (hotherwise : (body ss').ReadsBack limit m' zs') :
    (statement (.ifElse e ss ss')).ReadsBack limit (max n (max m m'))
      (word :: (ys ++ (zs ++ other :: zs'))) := by
  refine ⟨word, _, .ifWord, rfl, Token.statementHead?_eq_some_iff.mpr hword, ?_⟩
  intro depth input following hinput hd htook hends
  have hsplit : significantTokens input = ys ++ (zs ++ other :: (zs' ++ following)) := by
    simpa using hinput
  obtain ⟨hgreedy, hleft, htook'⟩ := htook.bodies
  -- the first body stops at the `else` and does not take it
  have hword' : BeginsWithWord (other :: (zs' ++ following)) := by
    intro t ht
    obtain rfl : other = t := by simpa using ht
    exact .inr hother.1
  have hnone : StartsNoStatement (other :: (zs' ++ following)) := by
    intro t ht
    obtain rfl : other = t := by simpa using ht
    simp [Token.statementHead?, hother.1, hother.2, StatementHead.ofKeyword?]
  have htookFirst : Statement.TookAllInRow ss (other :: (zs' ++ following)) :=
    ⟨hgreedy, hnone, by simp [hleft]⟩
  unfold readStatement
  apply Reading.Guarded.congr (P := depth + n ≤ limit ∧ depth + m ≤ limit ∧ depth + m' ≤ limit)
  · apply (hcondition.guarded_before_body hyields hsplit).andThen
    intro rest _ hrest
    apply (hbody hrest hd htookFirst hword').andThen
    intro rest' _ hrest'
    obtain ⟨rest₁, hu, hrest₁⟩ := exists_upcoming hrest'
    -- the next token is the `else`
    split
    · next hnil => simp [hu] at hnil
    · next t rest'' hu' =>
      obtain ⟨rfl, rfl⟩ := List.cons.inj (hu'.symm.trans hu)
      rw [if_pos (Token.isKeyword_iff.mpr hother)]
      exact ((hotherwise hrest₁ hd htook' hends).map _).seenFrom _
  · omega

theorem readsBack_while (hword : word.Spells .keyword "while")
    (hcondition : (expression top e).ReadsBack limit n ys) (hyields : (body ss).Yields m zs)
    (hbody : (body ss).ReadsBack limit m zs) :
    (statement (.whileLoop e ss)).ReadsBack limit (max n m) (word :: (ys ++ zs)) := by
  refine ⟨word, _, .whileWord, rfl, Token.statementHead?_eq_some_iff.mpr hword, ?_⟩
  intro depth input following hinput hd htook hends
  have hsplit : significantTokens input = ys ++ (zs ++ following) := by simpa using hinput
  unfold readStatement
  apply Reading.Guarded.congr (P := depth + n ≤ limit ∧ depth + m ≤ limit)
  · apply (hcondition.guarded_before_body hyields hsplit).andThen
    intro rest _ hrest
    exact (hbody hrest hd htook.bodies hends).map _
  · omega

theorem readsBack_for {inWord : Token} (hword : word.Spells .keyword "for")
    (hname : name.kind = .identifier) (hin : inWord.Spells .keyword "in")
    (hiterable : (expression top e).ReadsBack limit n ys) (hyields : (body ss).Yields m zs)
    (hbody : (body ss).ReadsBack limit m zs) :
    (statement (.forLoop name.lexeme e ss)).ReadsBack limit (max n m)
      (word :: name :: inWord :: (ys ++ zs)) := by
  refine ⟨word, _, .forWord, rfl, Token.statementHead?_eq_some_iff.mpr hword, ?_⟩
  intro depth input following hinput hd htook hends
  unfold readStatement
  -- name and reserved word are demanded, so only the iterable and the body add to the guard
  apply Reading.Guarded.congr (P := True ∧ True ∧ depth + n ≤ limit ∧ depth + m ≤ limit)
  · apply (guarded_demand hinput (by simp [hname])).andThen
    intro rest₁ _ hrest₁
    apply (guarded_demand hrest₁ (Token.isKeyword_iff.mpr hin)).andThen
    intro rest₂ _ hrest₂
    have hsplit : significantTokens rest₂ = ys ++ (zs ++ following) := by simpa using hrest₂
    apply (hiterable.guarded_before_body hyields hsplit).andThen
    intro rest₃ _ hrest₃
    exact (hbody hrest₃ hd htook.bodies hends).map _
  · rw [true_and, true_and]
    omega

theorem readsBack_define {ps : List String} (hword : word.Spells .keyword "def")
    (hname : name.kind = .identifier) (hopening : opening.Spells .delimiter "(")
    (hparameters : IsParameterList ps ys) (hclosing : closing.Spells .delimiter ")")
    (hbody : (body ss).ReadsBack limit n zs) :
    (statement (.define name.lexeme ps ss)).ReadsBack limit n
      (word :: name :: opening :: (ys ++ closing :: zs)) := by
  refine ⟨word, _, .defWord, rfl, Token.statementHead?_eq_some_iff.mpr hword, ?_⟩
  intro depth input following hinput hd htook hends
  unfold readStatement
  -- a head without expressions is never too deep, so only the body adds to the guard
  apply Reading.Guarded.congr (P := True ∧ True ∧ True ∧ True ∧ depth + n ≤ limit)
  · apply (guarded_demand hinput (by simp [hname])).andThen
    intro rest₁ _ hrest₁
    apply (guarded_demand hrest₁ hopening.isPunctuation_delimiter).andThen
    intro rest₂ _ hrest₂
    have hsplit : significantTokens rest₂ = ys ++ closing :: (zs ++ following) := by
      simpa using hrest₂
    apply (guarded_readParameters hparameters hclosing hsplit).andThen
    intro rest₃ _ hrest₃
    apply (guarded_demand hrest₃ hclosing.isPunctuation_delimiter).andThen
    intro rest₄ _ hrest₄
    exact (hbody hrest₄ hd htook.bodies hends).map _
  · simp

/-- A body is too deep as a whole or no deeper than its statements. -/
theorem readsBack_body {colon : Token} (hcolon : colon.Spells .delimiter ":")
    (hyields : (statements ss).Yields n ys) (h : (statements ss).ReadsBack limit n ys) :
    (body ss).ReadsBack limit (n + 1) (colon :: ys) := by
  intro depth input following hinput _ htook hends
  unfold readBody
  apply Reading.Guarded.congr (P := True ∧ depth + 1 + n ≤ limit)
  · apply (guarded_demand hinput hcolon.isPunctuation_delimiter).andThen
    intro rest _ hrest
    unfold readBlock
    by_cases hd : limit < depth + 1
    -- the limit is passed before any statement of the body is looked at
    · rw [if_pos hd]
      exact ⟨by omega, fun _ => Reading.tooDeep_fail⟩
    · -- the first token of the body starts a statement, as the reader asks for
      obtain ⟨t, ys', head, rfl, ht⟩ := hyields.exists_first_head
      obtain ⟨rest', hu, _⟩ := exists_upcoming hrest
      rw [if_neg hd, hu]
      simp only [Token.startsStatement, ht, Option.isSome_some, if_true]
      exact (h hrest (by omega) (by simp) htook hends).toReading
  · rw [true_and]
    omega

/-- Where no statement starts there is nothing more to read. -/
theorem guarded_readStatements_end {depth : Nat} {scope : Scope} {input following : List Token}
    (hinput : significantTokens input = following) (hnone : StartsNoStatement following)
    (hscope : scope = .program → following = []) :
    (readStatements limit depth scope input).Guarded True [] following := by
  have hdone : (Passage.done input).Guarded True [] following :=
    ⟨fun _ => ⟨input, Passage.clean_done_iff.mpr ⟨rfl, rfl⟩, hinput⟩, by simp⟩
  cases hu : upcoming input with
  | nil =>
    rw [readStatements_of_nil hu]
    exact hdone
  | cons t rest =>
    rw [significantTokens_of_upcoming_cons hu] at hinput
    -- only a body ends in front of other tokens; a program has none behind it
    cases scope with
    | body =>
      rw [readStatements_body_of_none hu (hnone t (by simp [← hinput]))]
      exact hdone
    | program => simp [hscope rfl] at hinput

theorem readsBack_last (h : (statement s).ReadsBack limit n ys) :
    (statements [s]).ReadsBack limit n ys := by
  intro depth scope input following hinput hd hscope htook hends
  obtain ⟨t, ys', head, rfl, ht, hread⟩ := h
  obtain ⟨rest, hu, hrest⟩ := exists_upcoming hinput
  rw [readStatements_of_head hu ht]
  -- behind the statement the list ends, and that is never too deep
  apply Passage.Guarded.congr (P := depth + n ≤ limit ∧ True)
  · apply Passage.Guarded.precededBy
    apply (hread hrest hd htook.last hends).continueWith
    intro left _ hleft
    exact guarded_readStatements_end hleft htook.noStatement hscope
  · simp

theorem readsBack_more (h : (statement s).ReadsBack limit n ys)
    (hyields : (statements ss).Yields m zs) (h' : (statements ss).ReadsBack limit m zs) :
    (statements (s :: ss)).ReadsBack limit (max n m) (ys ++ zs) := by
  intro depth scope input following hinput hd hscope htook hends
  obtain ⟨hsimple, htook'⟩ := htook.tail hyields.ne_nil
  obtain ⟨t, ys', head, rfl, ht, hread⟩ := h
  obtain ⟨rest, hu, hrest⟩ := exists_upcoming (by simpa using hinput)
  -- the statement has no body, so it ends in front of any other one
  have hword : BeginsWithWord (zs ++ following) := by
    obtain ⟨t', zs', head', rfl, ht'⟩ := hyields.exists_first_head
    exact beginsWithWord_of_statementHead ht'
  rw [readStatements_of_head hu ht]
  apply Passage.Guarded.congr (P := depth + n ≤ limit ∧ depth + m ≤ limit)
  · apply Passage.Guarded.precededBy
    apply (hread hrest hd (.of_isSimple hsimple) hword).continueWith
    intro left _ hleft
    exact h' hleft hd hscope htook' hends
  · omega

end constructs

/-- Every yield of a phrase is read as the phrase. -/
theorem StatementPhrase.Yields.readsBack {p : StatementPhrase} {n : Nat} {ys : List Token}
    (limit : Nat) (h : p.Yields n ys) (hnumbers : NoneMalformed ys) : p.ReadsBack limit n ys := by
  -- along the yield; each of its rules is one of the constructs above
  induction h with
  | assign hname hsign hvalue =>
    exact readsBack_assign hname hsign (hvalue.readsBack limit (by simp_all))
  | call hname hopening harguments hclosing =>
    have harguments' := harguments.readsBack limit (by simp_all)
    exact readsBack_callStatement hname hopening harguments harguments' hclosing
  | print hword hopening hargument hclosing =>
    exact readsBack_print hword hopening (hargument.readsBack limit (by simp_all)) hclosing
  | returnValue hword hvalue =>
    exact readsBack_return hword (hvalue.readsBack limit (by simp_all))
  | ifThen hword hcondition hbody ih =>
    exact readsBack_ifThen hword (hcondition.readsBack limit (by simp_all)) hbody (ih (by simp_all))
  | ifElse hword hcondition hbody hother hotherwise ih ih' =>
    have hcondition' := hcondition.readsBack limit (by simp_all)
    exact readsBack_ifElse hword hcondition' hbody (ih (by simp_all)) hother (ih' (by simp_all))
  | whileLoop hword hcondition hbody ih =>
    exact readsBack_while hword (hcondition.readsBack limit (by simp_all)) hbody (ih (by simp_all))
  | forLoop hword hname hin hiterable hbody ih =>
    have hiterable' := hiterable.readsBack limit (by simp_all)
    exact readsBack_for hword hname hin hiterable' hbody (ih (by simp_all))
  | define hword hname hopening hparameters hclosing hbody ih =>
    exact readsBack_define hword hname hopening hparameters hclosing (ih (by simp_all))
  | body hcolon hstatements ih => exact readsBack_body hcolon hstatements (ih (by simp_all))
  | last hstatement ih => exact readsBack_last (ih hnumbers)
  | more hstatement hstatements ih ih' =>
    exact readsBack_more (ih (by simp_all)) hstatements (ih' (by simp_all))

/-! ## Section 6: Checked programs -/

section checks
variable {limit n : Nat} {tokens : List Token} {program : List Statement}

/-- If nesting is the first problem in a program, the first diagnostic is about nesting. -/
theorem checkSyntax_of_tooDeep (h : (readStatements limit 0 .program tokens).TooDeep) :
    ∃ d, (checkSyntax limit tokens).diagnostics.head? = some d ∧
      d.code = some .nestingTooDeep := by
  obtain ⟨start, ahead, problems, hp⟩ := h
  have hproblems :
      (readProgram limit tokens).problems = .blocked .tooDeep start ahead :: problems := by
    rw [readProgram, if_neg (by simp [hp])]
    exact hp
  -- the first problem of the statements is the first one of the program, and keeps its code
  refine ⟨(Problem.blocked .tooDeep start ahead).diagnose limit tokens, ?_, ?_⟩
  · simp [checkSyntax, hproblems]
  · exact Problem.diagnose_code limit tokens .tooDeep start ahead

/-- A program is read back whole. -/
theorem guarded_program (hyields : (statements program).Yields n (significantTokens tokens))
    (hgreedy : Statement.areGreedy program = true)
    (hnumbers : NoneMalformed (significantTokens tokens)) :
    (readStatements limit 0 .program tokens).Guarded (n ≤ limit) program [] := by
  -- nothing follows a program, so it took all that it could
  have hall : Statement.TookAllInRow program [] :=
    ⟨hgreedy, by simp [StartsNoStatement], by simp [StartsNoElse]⟩
  have hread := hyields.readsBack limit hnumbers
  apply (hread (by simp) (Nat.zero_le limit) (fun _ => rfl) hall (by simp [BeginsWithWord])).congr
  rw [Nat.zero_add]

/-- A yield of a greedy program checks without an error exactly if it is nested no deeper than the
    limit. The tree then is the program; otherwise the first error is about nesting. -/
theorem succeeded_iff_of_yields
    (hyields : (statements program).Yields n (significantTokens tokens))
    (hgreedy : Statement.areGreedy program = true)
    (hnumbers : NoneMalformed (significantTokens tokens)) :
    ((checkSyntax limit tokens).succeeded = true ↔ n ≤ limit) ∧
      (n ≤ limit →
        (checkSyntax limit tokens).tree = some (.program (Statement.toNodes program))) ∧
      (limit < n →
        ∃ d, (checkSyntax limit tokens).diagnostics.head? = some d ∧
          d.code = some .nestingTooDeep) := by
  have hread : (readStatements limit 0 .program tokens).Guarded (n ≤ limit) program [] :=
    guarded_program hyields hgreedy hnumbers
  have hdeep (hn : limit < n) :
      ∃ d, (checkSyntax limit tokens).diagnostics.head? = some d ∧
        d.code = some .nestingTooDeep :=
    checkSyntax_of_tooDeep (hread.tooDeep (by omega))
  refine ⟨⟨?_, ?_⟩, ?_, hdeep⟩
  · -- beyond the limit there is a diagnostic, so the check did not succeed
    intro hsucceeded
    apply Nat.le_of_not_lt
    intro hn
    obtain ⟨d, hd, _⟩ := hdeep hn
    rw [SyntaxCheck.succeeded, List.isEmpty_iff] at hsucceeded
    simp [hsucceeded] at hd
  · intro hn
    -- within the limit the reading is clean and leaves nothing significant
    obtain ⟨rest, hclean, _⟩ := hread.clean hn
    exact checkSyntax_succeeded_iff.mpr ⟨program, rest, hyields.ne_nil, hclean⟩
  · intro hn
    obtain ⟨rest, hclean, _⟩ := hread.clean hn
    exact checkSyntax_tree_of_clean hyields.ne_nil hclean

/-- The theorem at a program with a line end and a comment inside, which is nested three levels
    deep: a limit of three accepts it and gives the program back, a limit of two does not. -/
theorem succeeded_iff_of_yields_conditional :
    let token (kind : TokenKind) (lexeme : String) : Token := ⟨kind, lexeme, 1, 1, .emptyAt 0⟩
    let tokens := [token .keyword "if", token .identifier "a", token .delimiter ":",
      token .newline "\n", token .keyword "print", token .delimiter "(", token .identifier "b",
      token .comment "# more", token .operator "+", token .number "1", token .delimiter ")"]
    let program :=
      [Statement.ifThen (.value "a") [.print (.binary .plus (.value "b") (.value "1"))]]
    (statements program).Yields 3 (significantTokens tokens) ∧
      Statement.areGreedy program = true ∧ NoneMalformed (significantTokens tokens) ∧
      (checkSyntax 3 tokens).succeeded = true ∧
      (checkSyntax 3 tokens).tree = some (.program (Statement.toNodes program)) ∧
      (checkSyntax 2 tokens).succeeded ≠ true ∧
      ∃ d, (checkSyntax 2 tokens).diagnostics.head? = some d ∧
        d.code = some .nestingTooDeep := by
  intro token tokens program
  -- names and numbers are values, nested nowhere
  have hvalue (kind : TokenKind) (lexeme : String)
      (h : kind = .identifier ∨ kind = .number) :
      (expression none (.value lexeme)).Yields 0 [token kind lexeme] := by
    have ht : (token kind lexeme).IsValue := by
      rcases h with rfl | rfl
      · exact .inl rfl
      · exact .inr (.inl rfl)
    exact .value ht
  have hsum : (expression (some .plus) (.binary .plus (.value "b") (.value "1"))).Yields 1
      ([token .identifier "b"] ++ token .operator "+" :: [token .number "1"]) :=
    .binary (hvalue .identifier "b" (.inl rfl)) ⟨rfl, rfl⟩ (hvalue .number "1" (.inr rfl))
      (by simp [BindsAtLeast]) (by simp [BindsAtLeast])
  -- operator, brackets and body each add a level
  have hprint : (statement (.print (.binary .plus (.value "b") (.value "1")))).Yields 2
      (token .keyword "print" :: token .delimiter "(" :: (_ ++ [token .delimiter ")"])) :=
    .print ⟨rfl, rfl⟩ ⟨rfl, rfl⟩ hsum ⟨rfl, rfl⟩
  have hbody : (body [.print (.binary .plus (.value "b") (.value "1"))]).Yields 3
      (token .delimiter ":" :: _) :=
    .body ⟨rfl, rfl⟩ (.last hprint)
  have hconditional : (statement program.head!).Yields 3
      (token .keyword "if" :: ([token .identifier "a"] ++ _)) :=
    .ifThen ⟨rfl, rfl⟩ (hvalue .identifier "a" (.inl rfl)) hbody
  have hyields : (statements program).Yields 3 (significantTokens tokens) := .last hconditional
  have hgreedy : Statement.areGreedy program = true := by decide
  have hnumbers : NoneMalformed (significantTokens tokens) := by decide
  have haccepted := @succeeded_iff_of_yields 3 3 tokens program hyields hgreedy hnumbers
  have hrejected := @succeeded_iff_of_yields 2 3 tokens program hyields hgreedy hnumbers
  refine ⟨hyields, hgreedy, hnumbers, haccepted.1.mpr (Nat.le_refl 3),
    haccepted.2.1 (Nat.le_refl 3), ?_, hrejected.2.2 (by decide)⟩
  intro hsucceeded
  exact absurd (hrejected.1.mp hsucceeded) (by decide)

end checks

end ScriptCheck
