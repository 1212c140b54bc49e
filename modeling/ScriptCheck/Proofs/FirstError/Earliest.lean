import ScriptCheck.Proofs.Completeness.Programs
import ScriptCheck.Proofs.FirstError.Programs
import ScriptCheck.Proofs.Order.Diagnostics
import ScriptCheck.Proofs.SideBySide.Mending
import ScriptCheck.Token.Lexer

/-! # The First Error Is Reported at the Earliest Token

  Malformed numbers apart, the first error of a check could not have been
  reported earlier or later. What stands in front of the token at fault is the
  beginning of tokens without an error, and nothing that begins with the token at
  fault as well is without an error.

  For the first half the malformed numbers are mended; the check is then stuck,
  and what it was stuck in can be completed. For the second half the check is
  compared with that of any other tokens with the same beginning. Both see the
  same tokens up to the one at fault, so they are blocked there alike.

  There is one exception to the second half. Behind a parameter a comma is not
  taken if no name follows it, so the comma is at fault although it might have
  been followed by a name.
-/

namespace ScriptCheck

open StatementPhrase

/-! ## Section 1: Errors other than malformed numbers -/

def Diagnostic.isAboutNumber (d : Diagnostic) : Bool := d.code == some .malformedNumber

theorem Token.faultCode_ne_malformedNumber (t : Token) : t.faultCode ≠ .malformedNumber := by
  unfold faultCode
  split
  · split <;> simp
  · simp

theorem Problem.isAboutNumber_diagnose (limit : Nat) (tokens : List Token) (p : Problem) :
    (p.diagnose limit tokens).isAboutNumber = !p.isBlocked := by
  cases p with
  | malformedNumber number after => rfl
  | blocked obstacle start ahead =>
    have hcode : obstacle.code ahead.head? ≠ .malformedNumber := by
      cases obstacle with
      | tooDeep => simp [Obstacle.code]
      | expected what =>
        cases ahead with
        | nil => simp [Obstacle.code]
        | cons t rest => exact t.faultCode_ne_malformedNumber
    simpa [Diagnostic.isAboutNumber, Problem.diagnose_code, Problem.isBlocked] using hcode

/-- Given enough room for nesting, a check of the tokens finds nothing wrong but malformed
    numbers. -/
def OnlyNumbersWrong (tokens : List Token) : Prop :=
  ∃ enough, ∀ limit, enough ≤ limit →
    ∀ d ∈ (checkSyntax limit tokens).diagnostics, d.isAboutNumber = true

/-- At a limit on nesting, this is a matter of the problems that are found. -/
theorem isAboutNumber_iff {limit : Nat} {tokens : List Token} :
    (∀ d ∈ (checkSyntax limit tokens).diagnostics, d.isAboutNumber = true) ↔
      ∀ p ∈ (readProgram limit tokens).problems, p.isBlocked = false := by
  simp [checkSyntax, Problem.isAboutNumber_diagnose]

/-- The first such error among the diagnostics is that of the first blocked statement. -/
theorem find?_diagnostics (limit : Nat) (tokens : List Token) :
    (checkSyntax limit tokens).diagnostics.find? (!·.isAboutNumber) =
      ((readProgram limit tokens).problems.find? Problem.isBlocked).map
        (Problem.diagnose limit tokens) := by
  have hsame : (!·.isAboutNumber) ∘ Problem.diagnose limit tokens = Problem.isBlocked := by
    funext p
    simp [Problem.isAboutNumber_diagnose]
  rw [checkSyntax, List.find?_map, hsame]

/-! ## Section 2: Completed tokens have no error -/

/-- Tokens that become a greedy program when they are mended have no other error. -/
theorem AreGreedyStatements.onlyNumbersWrong {tokens : List Token}
    (h : AreGreedyStatements ((significantTokens tokens).map Token.mended)) :
    OnlyNumbersWrong tokens := by
  obtain ⟨program, n, hyields, hgreedy⟩ := h
  refine ⟨n, fun limit hn => ?_⟩
  have hnumbers : NoneMalformed ((significantTokens tokens).map Token.mended) := by
    simp [NoneMalformed]
  rw [← significantTokens_map_mended] at hyields hnumbers
  have hguarded : (readStatements limit 0 .program (tokens.map Token.mended)).Guarded (n ≤ limit)
      program [] := guarded_program hyields hgreedy hnumbers
  -- the mended program is read cleanly under its own depth of nesting
  obtain ⟨_, hclean, -⟩ := hguarded.clean hn
  -- a blocked statement would be blocked with the mended tokens as well
  have hnone :
      (readStatements limit 0 .program tokens).problems.find? Problem.isBlocked = none := by
    rcases find?_isBlocked_mended limit tokens with ⟨hnone, -⟩ | ⟨_, _, _, _, -, hproblems⟩
    · exact hnone
    · rw [hclean.problems] at hproblems
      cases hproblems
  -- a program has a first token, so the problems are those of the statements
  cases hu : upcoming tokens with
  | nil =>
    have hend : significantTokens (tokens.map Token.mended) = [] := by
      simp [significantTokens_of_upcoming_nil hu]
    rw [hend] at hyields
    obtain ⟨t, _, _, hhead, -⟩ := hyields.exists_first_head
    cases hhead
  | cons t rest =>
    rw [isAboutNumber_iff, readProgram_problems_of_cons hu]
    simpa using hnone

theorem AreFillers.map_mended {zs : List Token} (h : AreFillers zs) : zs.map Token.mended = zs := by
  have hsame : zs.map Token.mended = zs.map id :=
    List.map_congr_left fun t ht => Token.mended_of_wellFormed (h t ht).2.2
  rw [hsame, List.map_id]

theorem AreFillers.significantTokens_eq {zs : List Token} (h : AreFillers zs) :
    significantTokens zs = zs := by
  simp only [significantTokens, List.filter_eq_self]
  intro t ht
  simp [(h t ht).1]

section completion
variable {limit : Nat} {tokens : List Token} {p : Problem}

/-- With mended tokens, reading is stuck where the first statement was blocked. -/
theorem stuckAt_mended
    (hfirst : (readStatements limit 0 .program tokens).problems.find? Problem.isBlocked = some p) :
    (readStatements limit 0 .program (tokens.map Token.mended)).toReading.StuckAt
      (p.ahead.map Token.mended) := by
  rcases find?_isBlocked_mended limit tokens with ⟨hnone, -⟩ |
    ⟨p', obstacle, start, later, hsome, hproblems⟩
  · rw [hfirst] at hnone
    cases hnone
  · obtain rfl : p = p' := Option.some.inj (hfirst.symm.trans hsome)
    exact .inr ⟨obstacle, start, later, hproblems⟩

theorem completesTo_of_find? (hlisted : Token.AreListed tokens)
    (hlimit : (significantTokens tokens).length ≤ limit)
    (hfirst : (readStatements limit 0 .program tokens).problems.find? Problem.isBlocked = some p) :
    CompletesTo AreGreedyStatements ((significantTokens tokens).map Token.mended)
      ((significantTokens p.ahead).map Token.mended) := by
  have hlisted' : Token.AreListed (tokens.map Token.mended) :=
    List.forall_mem_map.mpr fun t ht => (hlisted t ht).mended
  have hroom : 0 + (significantTokens (tokens.map Token.mended)).length ≤ limit := by
    simpa using hlimit
  -- the mended tokens are stuck at the same place, with nothing wrong before it
  have hread := readStatements_completes hlisted' hroom (stuckAt_mended hfirst)
  simp only [significantTokens_map_mended] at hread
  -- stuck before the first token, everything is still to come; otherwise the reader was on its way
  rcases hread with ⟨-, hsame⟩ | ⟨-, hcompletes⟩
  · exact .of_fillers hsame (by decide) areGreedyStatements_filler
  · exact hcompletes

/-- What is in front of the first such error is the beginning of tokens without one. -/
theorem exists_completion {front : List Token} (hlisted : Token.AreListed tokens)
    (hlimit : (significantTokens tokens).length ≤ limit)
    (hfirst : (readProgram limit tokens).problems.find? Problem.isBlocked = some p)
    (hfront : front ++ p.ahead = tokens) :
    ∃ more, Token.AreListed more ∧ OnlyNumbersWrong (significantTokens front ++ more) := by
  have hsig : significantTokens tokens = significantTokens front ++ significantTokens p.ahead := by
    rw [← hfront, significantTokens_append]
  have hcompletes : CompletesTo AreGreedyStatements ((significantTokens tokens).map Token.mended)
      ((significantTokens p.ahead).map Token.mended) := by
    -- without a token the error is the missing statement, and any statement completes
    cases hu : upcoming tokens with
    | nil =>
      have hnone := significantTokens_of_upcoming_nil hu
      obtain ⟨-, hahead⟩ := List.append_eq_nil_iff.mp (hsig.symm.trans hnone)
      exact .of_fillers (by rw [hnone, hahead]) (by decide) areGreedyStatements_filler
    | cons t rest =>
      rw [readProgram_problems_of_cons hu] at hfirst
      exact completesTo_of_find? hlisted hlimit hfirst
  obtain ⟨ys, zs, hys, hzs, hgreedy⟩ := hcompletes
  -- what stands in front of the error is what the completion has in front of the fillers
  have hys : (significantTokens front).map Token.mended = ys := by
    rw [hsig, List.map_append] at hys
    exact List.append_cancel_right hys
  refine ⟨zs, fun t ht => (hzs t ht).2.1, AreGreedyStatements.onlyNumbersWrong ?_⟩
  rw [significantTokens_append, significantTokens_significantTokens, hzs.significantTokens_eq,
    List.map_append, hzs.map_mended, hys]
  exact hgreedy

end completion

/-! ## Section 3: Runs on the same beginning -/

/-- The second run has the same significant tokens up to some place, and others behind it. What has
    been nested so far and what is left up to there keep within both limits. -/
def Comparison.ofBeginning (limit limit' : Nat) (beginning behind behind' : List Token) :
    Comparison where
  limit := limit
  limit' := limit'
  Exact := True
  KeepsPace := False
  Same := Eq
  Near d xs ys := ∃ left, left <:+ beginning ∧ significantTokens xs = left ++ behind ∧
    significantTokens ys = left ++ behind' ∧ d + left.length ≤ limit ∧ d + left.length ≤ limit'
  Past xs := (significantTokens xs).length ≤ behind.length

/-- The token is a comma behind the name of a parameter. -/
def IsParameterComma (front : List Token) (t : Token) : Prop :=
  t.isPunctuation "," = true ∧ ∃ head, IsFunctionHead head ∧ head <:+ front

theorem Comparison.lawful_ofBeginning (limit limit' : Nat) {front : List Token} {t : Token}
    (behind behind' : List Token) (ht : ¬ IsParameterComma front t) :
    (ofBeginning limit limit' (front ++ [t]) behind behind').Lawful where
  kind_eq h := by rw [← h]
  lexeme_eq h _ := by rw [← h]
  wellFormed _ hexact := absurd trivial hexact
  limit_lt_iff := by
    intro d xs ys ⟨left, _, _, _, hroom, hroom'⟩
    simp only [ofBeginning]
    omega
  shallower := by
    intro d xs ys ⟨left, hleft, hxs, hys, hroom, hroom'⟩
    exact ⟨left, hleft, hxs, hys, by omega, by omega⟩
  past_of_suffix h hs := Nat.le_trans (significantTokens_length_le hs) h
  next := by
    intro d xs ys ⟨left, hleft, hxs, hys, hroom, hroom'⟩
    cases left with
    | nil => exact .past (Nat.le_of_eq (by rw [hxs, List.nil_append]))
    | cons u left =>
      -- both runs see the same token; one token less is left, so they can go one level deeper
      rw [List.cons_append] at hxs hys
      rw [List.length_cons] at hroom hroom'
      obtain ⟨rest, hu, hrest⟩ := exists_upcoming hxs
      obtain ⟨rest', hu', hrest'⟩ := exists_upcoming hys
      have hhere : significantTokens (u :: rest) = u :: (left ++ behind) := by
        rw [← hu, significantTokens_upcoming, hxs]
      have hhere' : significantTokens (u :: rest') = u :: (left ++ behind') := by
        rw [← hu', significantTokens_upcoming, hys]
      refine .token hu hu' rfl ⟨u :: left, hleft, hhere, hhere', hroom, hroom'⟩
        ⟨left, (List.suffix_cons u left).trans hleft, hrest, hrest', by omega, by omega⟩ ?_
      intro hpast
      have hlength : (significantTokens (u :: rest)).length ≤ behind.length := hpast
      rw [hhere, List.length_cons, List.length_append] at hlength
      omega
  resume hpace := hpace.elim
  resume_tail hpace := hpace.elim
  -- a comma at the end of the common part would be the exception that is excluded
  noLastComma := by
    intro d xs ys head rest comma ⟨left, hleft, hxs, _⟩ hhead hcomma hsig hpast hend
    have hshort : (significantTokens rest).length ≤ behind.length := hend
    have hlonger : behind.length < (significantTokens rest).length + 1 := by
      rw [← List.length_cons, ← significantTokens_cons (Token.isTrivia_of_isPunctuation hcomma)]
      exact Nat.lt_of_not_le hpast
    -- what is left ends with the comma, so the comma is the token at fault
    have hends : left ++ behind = (head ++ [comma]) ++ significantTokens rest := by
      rw [← hxs, hsig, List.append_assoc]
      rfl
    obtain ⟨rfl, -⟩ := List.append_inj' hends (by omega)
    obtain ⟨before, hbefore⟩ := hleft
    rw [← List.append_assoc] at hbefore
    obtain ⟨hfront, hsame⟩ := List.append_inj' hbefore rfl
    obtain rfl : comma = t := List.singleton_inj.mp hsame
    exact ht ⟨hcomma, head, hhead, before, hfront⟩

/-- Nothing that begins with the token at fault as well is without such an error. -/
theorem not_onlyNumbersWrong {limit : Nat} {tokens front rest : List Token} {p : Problem}
    {t : Token} (hlimit : (significantTokens tokens).length ≤ limit)
    (hp : p ∈ (readProgram limit tokens).problems) (hblocked : p.isBlocked = true)
    (hfront : front ++ p.ahead = tokens) (hahead : p.ahead = t :: rest)
    (ht : t.isTrivia = false) (hcomma : ¬ IsParameterComma (significantTokens front) t)
    {tokens' : List Token}
    (hbeginning : significantTokens front ++ [t] <+: significantTokens tokens') :
    ¬ OnlyNumbersWrong tokens' := by
  intro ⟨enough, hclean⟩
  obtain ⟨behind', hbehind'⟩ := hbeginning
  have hhere : significantTokens p.ahead = t :: significantTokens rest := by
    rw [hahead, significantTokens_cons ht]
  have hsig : significantTokens tokens =
      (significantTokens front ++ [t]) ++ significantTokens rest := by
    rw [← hfront, significantTokens_append, hhere]
    simp
  -- the other tokens are checked under a limit with room for the common beginning
  obtain ⟨limit', henough, hroom'⟩ :
      ∃ limit', enough ≤ limit' ∧ (significantTokens front ++ [t]).length ≤ limit' :=
    ⟨_, Nat.le_max_left .., Nat.le_max_right ..⟩
  have hroom : (significantTokens front ++ [t]).length ≤ limit := by
    rw [hsig, List.length_append] at hlimit
    omega
  -- side by side with the other tokens the error lies in the common beginning
  have hlawful :=
    Comparison.lawful_ofBeginning limit limit' (significantTokens rest) behind' hcomma
  have hnear : (Comparison.ofBeginning limit limit' (significantTokens front ++ [t])
      (significantTokens rest) behind').Near 0 tokens tokens' :=
    ⟨_, List.suffix_rfl, hsig, hbehind'.symm, by omega, by omega⟩
  have hread : p ∈ (readStatements limit 0 .program tokens).problems := by
    cases hu : upcoming tokens with
    | nil => simp [significantTokens_of_upcoming_nil hu] at hsig
    | cons u later => exact readProgram_problems_of_cons hu ▸ hp
  -- so the other run has a blocked statement too, which is no malformed number
  obtain ⟨p', hp', hblocked'⟩ :=
    (Comparison.sideBySide_readStatements hlawful .program hnear).exists_isBlocked hread hblocked
      (by simp [Comparison.ofBeginning, hhere])
  have hnumbers := isAboutNumber_iff.mp (hclean limit' henough)
  have hnot := hnumbers p' ((prefix_readProgram limit' tokens').mem hp')
  rw [hblocked'] at hnot
  cases hnot

/-! ## Section 4: The first error -/

/-- The first error that is not about a malformed number is reported at the earliest token. What is
    in front of that token, or in front of the end, can be completed to tokens with no such error.
    With the token itself it can not, unless the token is a comma behind a parameter. -/
theorem first_error_is_earliest {limit : Nat} {tokens : List Token} {d : Diagnostic}
    (hlisted : Token.AreListed tokens) (hlimit : (significantTokens tokens).length ≤ limit)
    (hfirst : (checkSyntax limit tokens).diagnostics.find? (!·.isAboutNumber) = some d) :
    ∃ p front,
      (readProgram limit tokens).problems.find? Problem.isBlocked = some p ∧
      p.diagnose limit tokens = d ∧ front ++ p.ahead = tokens ∧
      (∃ more, Token.AreListed more ∧ OnlyNumbersWrong (significantTokens front ++ more)) ∧
      ∀ t ∈ p.ahead.head?, t.isTrivia = false ∧
        (¬ IsParameterComma (significantTokens front) t →
          ∀ tokens', significantTokens front ++ [t] <+: significantTokens tokens' →
            ¬ OnlyNumbersWrong tokens') := by
  rw [find?_diagnostics, Option.map_eq_some_iff] at hfirst
  obtain ⟨p, hfirst, hd⟩ := hfirst
  have hp : p ∈ (readProgram limit tokens).problems := List.mem_of_find?_eq_some hfirst
  have hlies := readProgram_liesIn hp
  obtain ⟨front, hfront⟩ := hlies.suffix
  refine ⟨p, front, hfirst, hd, hfront, exists_completion hlisted hlimit hfirst hfront, ?_⟩
  intro t hhead
  -- the token at fault is the head of what is ahead
  obtain ⟨rest, hahead⟩ := List.head?_eq_some_iff.mp hhead
  have ht := hlies.isTrivia_eq_false hhead
  refine ⟨ht, fun hcomma tokens' hbeginning => ?_⟩
  exact not_onlyNumbersWrong hlimit hp (List.find?_some hfirst) hfront hahead ht hcomma hbeginning

/-- The theorem at an input with a malformed number in front of the first error, which is on the
    second line, and with a comment in between. -/
theorem first_error_is_earliest_operand :
    let tokens := Lexer.tokenize {} "x = 1.2.3 + # more\n) y"
    ∃ d, Token.AreListed tokens ∧ (significantTokens tokens).length ≤ 6 ∧
      (checkSyntax 6 tokens).diagnostics.find? (!·.isAboutNumber) = some d ∧ d.line = some 2 ∧
      (checkSyntax 6 tokens).diagnostics.length = 2 ∧
      ∃ p front,
        (readProgram 6 tokens).problems.find? Problem.isBlocked = some p ∧
        p.diagnose 6 tokens = d ∧ front ++ p.ahead = tokens ∧
        (∃ more, Token.AreListed more ∧ OnlyNumbersWrong (significantTokens front ++ more)) ∧
        ∀ t ∈ p.ahead.head?, t.isTrivia = false ∧
          (¬ IsParameterComma (significantTokens front) t →
            ∀ tokens', significantTokens front ++ [t] <+: significantTokens tokens' →
              ¬ OnlyNumbersWrong tokens') := by
  intro tokens
  have hlisted : Token.AreListed tokens := by decide +kernel
  have hlimit : (significantTokens tokens).length ≤ 6 := by decide +kernel
  -- the number is reported on the first line, the first error that counts on the second
  have hline : ((checkSyntax 6 tokens).diagnostics.find? (!·.isAboutNumber)).bind (·.line) =
      some 2 := by
    decide +kernel
  obtain ⟨d, hfirst, hd⟩ := Option.bind_eq_some_iff.mp hline
  exact ⟨d, hlisted, hlimit, hfirst, hd, by decide +kernel,
    first_error_is_earliest hlisted hlimit hfirst⟩

/-- The exception: the comma is reported although a name could follow it. -/
example :
    let fault (source : String) : Option String :=
      let problems := (readProgram 9 (Lexer.tokenize {} source)).problems
      (problems.head?.bind (·.ahead.head?)).map (·.lexeme)
    fault "def f(a, 1): x = 1" = some "," ∧ fault "def f(a, b): x = 1" = none := by
  decide +kernel

end ScriptCheck
