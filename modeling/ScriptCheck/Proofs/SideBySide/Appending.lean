import ScriptCheck.Proofs.Order.Diagnostics
import ScriptCheck.Proofs.SideBySide.Programs
import ScriptCheck.Token.Lexer

/-! # Appending Never Changes Earlier Diagnostics

  What is appended to some tokens is seen only by readings that have come to
  their end. All that was reported before is reported again, in the same words
  and about the same tokens. What was reported at the end is another matter: the
  input no longer ends there.

  One token is looked at before its turn. Behind a parameter a comma is taken
  only if a name follows, so a comma at the end of the tokens can become part of
  what it did not belong to.
-/

namespace ScriptCheck

/-! ## Section 1: Runs on tokens and on more tokens -/

/-- Reading goes on at the same place, if it does so within the tokens that were there. -/
theorem resume_append {fault : Token} {rest rest' : List Token} (tokens more : List Token) :
    resume (fault :: rest) tokens = [] ∨
      resume (fault :: rest') (tokens ++ more) = resume (fault :: rest) tokens ++ more := by
  simp only [resume]
  rw [List.dropWhile_append]
  split
  · next h => exact .inl (List.isEmpty_iff.mp h)
  · exact .inr rfl

/-- The tokens are the same, and behind them come the appended ones. -/
def Comparison.ofAppending (limit : Nat) (tokens more : List Token) : Comparison where
  limit := limit
  limit' := limit
  Exact := True
  KeepsPace := True
  Same := Eq
  Near _ xs ys := xs <:+ tokens ∧ ys = xs ++ more
  Past xs := upcoming xs = []

theorem Comparison.lawful_ofAppending (limit : Nat) {tokens : List Token} (more : List Token)
    (hlast : ∀ t ∈ (significantTokens tokens).getLast?, t.isPunctuation "," = false) :
    (ofAppending limit tokens more).Lawful where
  kind_eq h := by rw [← h]
  lexeme_eq h _ := by rw [← h]
  wellFormed _ hexact := absurd trivial hexact
  limit_lt_iff _ := Iff.rfl
  shallower h := h
  past_of_suffix h hs := List.suffix_nil.mp (h ▸ upcoming_suffix_upcoming hs)
  next := by
    intro d xs ys ⟨hs, hys⟩
    subst hys
    -- with nothing left the first run is at the end of the tokens and looks at it
    cases hu : upcoming xs with
    | nil => exact .past hu
    | cons t rest =>
      refine .token hu (upcoming_append hu more) rfl ⟨?_, rfl⟩ ⟨?_, rfl⟩ ?_
      · exact (hu ▸ upcoming_suffix xs : (t :: rest) <:+ xs).trans hs
      · exact (suffix_of_upcoming hu).trans hs
      · intro hpast
        have hself : upcoming (t :: rest) = t :: rest := by rw [← hu, upcoming_upcoming]
        exact List.cons_ne_nil t rest (hself.symm.trans hpast)
  resume := by
    intro d xs ys rest rest' t t' _ ⟨hs, hys⟩ hu hu' _
    subst hys
    obtain ⟨rfl, -⟩ := List.cons.inj ((upcoming_append hu more).symm.trans hu')
    -- the search stops within the tokens, or it runs to their end and may find more behind it
    rcases resume_append xs more with hnil | happend
    · exact .inr (by rw [hnil]; rfl)
    · exact .inl ⟨(resume_suffix _ xs).trans hs, happend⟩
  resume_tail := by
    intro d xs ys rest rest' t t' _ ⟨hs, hys⟩ hu hu' _ _
    subst hys
    obtain ⟨rfl, -⟩ := List.cons.inj ((upcoming_append hu more).symm.trans hu')
    rw [List.tail_append_of_ne_nil (ne_nil_of_upcoming hu)]
    rcases resume_append xs.tail more with hnil | happend
    · exact .inr (by rw [hnil]; rfl)
    · exact .inl ⟨(resume_tail_suffix _ xs).trans hs, happend⟩
  noLastComma := by
    intro d xs ys head rest comma ⟨hs, _⟩ _ hcomma hsig _ hend
    -- the comma would be the last significant token
    have hends : significantTokens xs = head ++ [comma] := by
      rw [hsig, significantTokens_of_upcoming_nil hend]
    obtain ⟨front, hfront⟩ := hs.filter fun t => !t.isTrivia
    have hwhole : significantTokens tokens = front ++ (head ++ [comma]) := by
      rw [← hends]
      exact hfront.symm
    have hnot := hlast comma (by simp [hwhole])
    rw [hcomma] at hnot
    cases hnot

/-! ## Section 2: Diagnostics that are settled -/

/-- The diagnostics without the last one, if that one is about the end of the input or about
    nesting. -/
def SyntaxCheck.settled (check : SyntaxCheck) : List Diagnostic :=
  match check.diagnostics.getLast? with
  | none => []
  | some d =>
    if d.code = some .unexpectedEnd ∨ d.code = some .nestingTooDeep then check.diagnostics.dropLast
    else check.diagnostics

theorem SyntaxCheck.settled_prefix (check : SyntaxCheck) : check.settled <+: check.diagnostics := by
  unfold settled
  split
  · exact List.nil_prefix
  · split
    · exact List.dropLast_prefix _
    · exact List.prefix_rfl

/-- A last diagnostic about the end of the input is left out. -/
theorem SyntaxCheck.settled_of_append {check : SyntaxCheck} {ds : List Diagnostic} {d : Diagnostic}
    (h : check.diagnostics = ds ++ [d])
    (hd : d.code = some .unexpectedEnd ∨ d.code = some .nestingTooDeep) : check.settled = ds := by
  simp [settled, h, hd]

/-- A problem at the end of the input is about that end or about nesting. -/
theorem Problem.code_of_ahead_nil (limit : Nat) (tokens : List Token) {p : Problem}
    (h : p.ahead = []) :
    (p.diagnose limit tokens).code = some .unexpectedEnd ∨
      (p.diagnose limit tokens).code = some .nestingTooDeep := by
  cases p with
  | malformedNumber number after => cases h
  | blocked obstacle start ahead =>
    obtain rfl : ahead = [] := h
    rw [Problem.diagnose_code]
    cases obstacle with
    | expected what => exact .inl rfl
    | tooDeep => exact .inr rfl

/-- Of problems in order only the last one can be at the end of the input. -/
theorem eq_singleton_of_precedes {ascending : Prop} {ps : List Problem}
    (h : ps.Pairwise (Problem.Precedes ascending)) (hend : ∀ p ∈ ps, p.ahead = []) :
    ps = [] ∨ ∃ p, ps = [p] := by
  match ps, h with
  | [], _ => exact .inl rfl
  | [p], _ => exact .inr ⟨p, rfl⟩
  | p :: q :: qs, h =>
    have hfirst := List.rel_of_pairwise_cons h List.mem_cons_self
    exact absurd (hend p List.mem_cons_self) hfirst.1

/-! ## Section 3: Diagnostics before and after -/

section diagnostics
variable {limit : Nat} {tokens more : List Token}

/-- What both runs report is diagnosed in the same way. -/
theorem Comparison.Reports.map_diagnose_eq {ps ps' : List Problem}
    (h : (ofAppending limit tokens more).Reports ps ps') :
    ps'.map (Problem.diagnose limit (tokens ++ more)) =
      ps.map (Problem.diagnose limit tokens) := by
  induction h with
  | nil => rfl
  | blocked hstart hfaces _ ih =>
    obtain rfl := eq_of_rel_eq hstart
    rcases hfaces.heads with ⟨rfl, rfl⟩ | ⟨t, _, rest, rest', rfl, rfl, rfl⟩
    -- at the end of the tokens the runs would have parted
    · exact absurd rfl hfaces.notPast
    · rw [List.map_cons, List.map_cons, ih]
      rfl
  | number _ hsame _ _ ih =>
    obtain rfl := hsame
    rw [List.map_cons, List.map_cons, ih]
    rfl
  | skipped hexact => exact absurd trivial hexact

/-- Before it comes to the end of the tokens, a run reports what it would report with more. At the
    end there is at most one problem. -/
theorem exists_reports_append (limit : Nat) {tokens : List Token} (more : List Token)
    (hlast : ∀ t ∈ (significantTokens tokens).getLast?, t.isPunctuation "," = false) :
    ∃ ps ms ps', (readStatements limit 0 .program tokens).problems = ps ++ ms ∧
      ps' <+: (readStatements limit 0 .program (tokens ++ more)).problems ∧
      (Comparison.ofAppending limit tokens more).Reports ps ps' ∧
      (ms = [] ∨ ∃ p, ms = [p] ∧ p.ahead = []) := by
  have hlawful := Comparison.lawful_ofAppending limit more hlast
  have hnear : (Comparison.ofAppending limit tokens more).Near 0 tokens (tokens ++ more) :=
    ⟨List.suffix_rfl, rfl⟩
  obtain ⟨ps, ms, ps', hps, hps', hreports, hms⟩ :=
    (Comparison.sideBySide_readStatements hlawful .program hnear).exists_reports trivial
  have hordered : (readStatements limit 0 .program tokens).toReading.Ordered False :=
    (readStatements_ordered limit 0 .program False.elim).1
  have hprecedes : (ps ++ ms).Pairwise (Problem.Precedes False) := hps ▸ hordered.precedes
  -- the run has parted at the end only, so what it found since then it found there
  have hend (p : Problem) (hp : p ∈ ms) : p.ahead = [] := by
    have hmem : p ∈ (readStatements limit 0 .program tokens).toReading.problems :=
      hps ▸ List.mem_append_right ps hp
    exact (hordered.liesIn p hmem).upcoming_ahead.symm.trans (hms p hp)
  refine ⟨ps, ms, ps', hps, hps', hreports, ?_⟩
  rcases eq_singleton_of_precedes (List.pairwise_append.mp hprecedes).2.1 hend with rfl | ⟨p, rfl⟩
  · exact .inl rfl
  · exact .inr ⟨p, rfl, hend p (List.mem_singleton_self p)⟩

/-- Appending never changes earlier diagnostics, provided that the tokens do not end with a comma.
    Only a last diagnostic about the end of the input or about nesting is not settled. -/
theorem settled_prefix_append (limit : Nat) (tokens more : List Token)
    (hlast : ∀ t ∈ (significantTokens tokens).getLast?, t.isPunctuation "," = false) :
    (checkSyntax limit tokens).settled <+: (checkSyntax limit (tokens ++ more)).diagnostics := by
  rcases readProgram_problems limit tokens with hproblems | ⟨-, hproblems⟩
  · obtain ⟨ps, ms, ps', hps, hps', hreports, hms⟩ := exists_reports_append limit more hlast
    have hdiagnostics : (checkSyntax limit tokens).diagnostics =
        ps.map (Problem.diagnose limit tokens) ++ ms.map (Problem.diagnose limit tokens) := by
      rw [checkSyntax, hproblems, hps, List.map_append]
    -- what was found at the end of the tokens is not settled
    have hsettled : (checkSyntax limit tokens).settled <+:
        ps.map (Problem.diagnose limit tokens) := by
      rcases hms with rfl | ⟨p, rfl, hp⟩
      · rw [List.map_nil, List.append_nil] at hdiagnostics
        exact hdiagnostics ▸ SyntaxCheck.settled_prefix _
      · have hend := p.code_of_ahead_nil limit tokens hp
        exact ⟨[], by rw [SyntaxCheck.settled_of_append hdiagnostics hend, List.append_nil]⟩
    -- and what was found before is found again
    have hagain : ps'.map (Problem.diagnose limit (tokens ++ more)) <+:
        (checkSyntax limit (tokens ++ more)).diagnostics :=
      (hps'.trans (prefix_readProgram limit (tokens ++ more))).map _
    rw [hreports.map_diagnose_eq] at hagain
    exact hsettled.trans hagain
  · have hdiagnostics : (checkSyntax limit tokens).diagnostics =
        [] ++ [(Problem.blocked (.expected .statement) none []).diagnose limit tokens] := by
      rw [checkSyntax, hproblems, List.map_singleton, List.nil_append]
    rw [SyntaxCheck.settled_of_append hdiagnostics (.inl rfl)]
    exact List.nil_prefix

/-- The theorem at tokens with two errors of which the second one is about their end, and at more
    tokens that put an end to it. -/
theorem settled_prefix_append_call :
    let tokens := Lexer.tokenize {} "x = 1 )\nprint(a"
    let more := Lexer.tokenize {} ")\ny ="
    (∀ t ∈ (significantTokens tokens).getLast?, t.isPunctuation "," = false) ∧
      (checkSyntax 4 tokens).diagnostics.length = 2 ∧ (checkSyntax 4 tokens).settled.length = 1 ∧
      (checkSyntax 4 tokens).settled <+: (checkSyntax 4 (tokens ++ more)).diagnostics := by
  intro tokens more
  have hlast : ∀ t ∈ (significantTokens tokens).getLast?, t.isPunctuation "," = false := by
    decide +kernel
  exact ⟨hlast, by decide +kernel, by decide +kernel, settled_prefix_append 4 tokens more hlast⟩

/-- A comma at the end is an exception: with a name behind it, it is no error any more. -/
example :
    let tokens := Lexer.tokenize {} "def f(a,"
    let more := Lexer.tokenize {} "b): return a"
    ¬ (checkSyntax 4 tokens).settled <+: (checkSyntax 4 (tokens ++ more)).diagnostics := by
  decide +kernel

end diagnostics

end ScriptCheck
