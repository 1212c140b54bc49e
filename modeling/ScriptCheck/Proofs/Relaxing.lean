import ScriptCheck.Proofs.Calls.Limits
import ScriptCheck.Proofs.Calls.Progress
import ScriptCheck.Proofs.Scanner.Options
import ScriptCheck.Proofs.SideBySide.Trivia
import ScriptCheck.Proofs.Soundness.Programs

/-! # Relaxing the Settings

  A program without errors stays one if the settings become more permissive:
  fewer words reserved, more room for nesting, or unclosed texts no longer taken
  for errors. Its tree stays the same.

  A program without errors is a yield of the grammar, and the grammar has no use
  for invalid tokens and uses no other reserved words than those of the language. So
  the tokens that the options of the lexer could change do not occur in it.
-/

namespace ScriptCheck

open Lexer StatementPhrase

/-! ## Section 1: Tokens that the grammar uses -/

/-- Neither an invalid token nor a reserved word that is not one of the language. -/
structure Token.IsFirm (t : Token) : Prop where
  kind_ne : t.kind ≠ .invalid
  mem_standard : t.kind = .keyword → t.lexeme ∈ Vocabulary.standard.keywords

section firm
variable {t : Token} {kind : TokenKind} {text : String}

theorem Token.isFirm_of_kind (h : t.kind ≠ .invalid) (h' : t.kind ≠ .keyword) : t.IsFirm :=
  ⟨h, fun hkind => absurd hkind h'⟩

theorem Token.Spells.isFirm (h : t.Spells kind text) (hkind : kind ≠ .invalid)
    (hkind' : kind ≠ .keyword) : t.IsFirm :=
  isFirm_of_kind (h.1 ▸ hkind) (h.1 ▸ hkind')

theorem Token.Spells.isFirm_keyword (h : t.Spells .keyword text)
    (htext : text ∈ Vocabulary.standard.keywords) : t.IsFirm :=
  ⟨by simp [h.1], fun _ => h.2 ▸ htext⟩

theorem Token.IsValue.isFirm (h : t.IsValue) : t.IsFirm := by
  rcases h with h | h | h
  all_goals exact isFirm_of_kind (by simp [h]) (by simp [h])

end firm

def AreFirm (tokens : List Token) : Prop := ∀ t ∈ tokens, t.IsFirm

section yields
variable {n : Nat} {t : Token} {ys zs : List Token}

theorem areFirm_nil : AreFirm [] := by simp [AreFirm]

theorem AreFirm.cons (h : t.IsFirm) (hys : AreFirm ys) : AreFirm (t :: ys) :=
  List.forall_mem_cons.mpr ⟨h, hys⟩

theorem AreFirm.append (hys : AreFirm ys) (hzs : AreFirm zs) : AreFirm (ys ++ zs) :=
  List.forall_mem_append.mpr ⟨hys, hzs⟩

/-- A list between two marks. -/
theorem AreFirm.enclosed {opening closing : Token} (hopening : opening.IsFirm)
    (hys : AreFirm ys) (hclosing : closing.IsFirm) :
    AreFirm (opening :: (ys ++ [closing])) :=
  .cons hopening (.append hys (.cons hclosing areFirm_nil))

theorem Token.isFirm_of_identifier (h : t.kind = .identifier) : t.IsFirm :=
  isFirm_of_kind (by simp [h]) (by simp [h])

theorem Token.Spells.isFirm_delimiter {text : String} (h : t.Spells .delimiter text) : t.IsFirm :=
  h.isFirm (by simp) (by simp)

theorem ExpressionPhrase.Yields.areFirm {phrase : ExpressionPhrase} (h : phrase.Yields n ys) :
    AreFirm ys := by
  induction h with
  | value ht => exact .cons ht.isFirm areFirm_nil
  | call hname hopening _ hclosing ih =>
    exact .cons (Token.isFirm_of_identifier hname)
      (ih.enclosed hopening.isFirm_delimiter hclosing.isFirm_delimiter)
  | list hbrackets _ ih =>
    rcases hbrackets with ⟨hopening, hclosing⟩ | ⟨hopening, hclosing⟩
    all_goals exact ih.enclosed hopening.isFirm_delimiter hclosing.isFirm_delimiter
  | group hopening _ hclosing ih =>
    exact ih.enclosed hopening.isFirm_delimiter hclosing.isFirm_delimiter
  | binary _ hsign _ _ _ ihleft ihright =>
    exact ihleft.append (.cons (hsign.isFirm (by simp) (by simp)) ihright)
  | noItem => exact areFirm_nil
  | lastItem _ ih => exact ih
  | moreItems _ hcomma _ ihitem ihitems =>
    exact ihitem.append (.cons hcomma.isFirm_delimiter ihitems)

theorem IsParameterList.areFirm {ps : List String} (h : IsParameterList ps ys) : AreFirm ys := by
  induction h with
  | none => exact areFirm_nil
  | last hname => exact .cons (Token.isFirm_of_identifier hname) areFirm_nil
  | more hname hcomma _ ih =>
    exact .cons (Token.isFirm_of_identifier hname) (.cons hcomma.isFirm_delimiter ih)

/-- The tokens of a program are firm. -/
theorem StatementPhrase.Yields.areFirm {phrase : StatementPhrase} (h : phrase.Yields n ys) :
    AreFirm ys := by
  induction h with
  | assign hname hsign hvalue =>
    exact .cons (Token.isFirm_of_identifier hname)
      (.cons (hsign.isFirm (by simp) (by simp)) hvalue.areFirm)
  | call hname hopening harguments hclosing =>
    exact .cons (Token.isFirm_of_identifier hname)
      (harguments.areFirm.enclosed hopening.isFirm_delimiter hclosing.isFirm_delimiter)
  | print hword hopening hargument hclosing =>
    exact .cons (hword.isFirm_keyword (by decide))
      (hargument.areFirm.enclosed hopening.isFirm_delimiter hclosing.isFirm_delimiter)
  | returnValue hword hvalue => exact .cons (hword.isFirm_keyword (by decide)) hvalue.areFirm
  | ifThen hword hcondition _ ih =>
    exact .cons (hword.isFirm_keyword (by decide)) (hcondition.areFirm.append ih)
  | ifElse hword hcondition _ hother _ ih ih' =>
    exact .cons (hword.isFirm_keyword (by decide))
      (hcondition.areFirm.append (ih.append (.cons (hother.isFirm_keyword (by decide)) ih')))
  | whileLoop hword hcondition _ ih =>
    exact .cons (hword.isFirm_keyword (by decide)) (hcondition.areFirm.append ih)
  | forLoop hword hname hin hiterable _ ih =>
    exact .cons (hword.isFirm_keyword (by decide)) (.cons (Token.isFirm_of_identifier hname)
      (.cons (hin.isFirm_keyword (by decide)) (hiterable.areFirm.append ih)))
  | define hword hname hopening hparameters hclosing _ ih =>
    exact .cons (hword.isFirm_keyword (by decide)) (.cons (Token.isFirm_of_identifier hname)
      (.cons hopening.isFirm_delimiter
        (hparameters.areFirm.append (.cons hclosing.isFirm_delimiter ih))))
  | body hcolon _ ih => exact .cons hcolon.isFirm_delimiter ih
  | last _ ih => exact ih
  | more _ _ ih ih' => exact ih.append ih'

end yields

/-- Without an error every significant token is firm. -/
theorem areFirm_of_succeeded {limit : Nat} {tokens : List Token} (hi : Token.AreListed tokens)
    (h : (checkSyntax limit tokens).succeeded = true) : AreFirm (significantTokens tokens) := by
  obtain ⟨program, rest, hne, hclean⟩ := checkSyntax_succeeded_iff.mp h
  obtain ⟨-, hend, ⟨-, hnil⟩ | ⟨-, n, ys, hyield, hys, -⟩⟩ :=
    readStatements_sound hi (Nat.zero_le limit) hclean
  · exact absurd hnil hne
  · rw [hend rfl, List.append_nil] at hys
    exact hys ▸ hyield.areFirm

/-! ## Section 2: Tokens that the lexer gives out -/

namespace Lexer

variable {lexer lexer' : Lexer}

/-- An operator or a delimiter is what it is listed as. -/
theorem isListed_of_nextPiece {c : Char} {cs : List Char} {kind : TokenKind} (p : Position)
    (h : (lexer.nextPiece c cs).kind = some kind) :
    (tokenAt p kind (c :: cs.take (lexer.nextPiece c cs).more)).IsListed := by
  have hother (text : List Char) (hkind : kind ≠ .operator ∧ kind ≠ .delimiter) :
      (tokenAt p kind text).IsListed :=
    ⟨fun hoperator => absurd hoperator hkind.1, fun hdelimiter => absurd hdelimiter hkind.2⟩
  have hreads := readsPiece_nextPiece lexer c cs
  generalize lexer.nextPiece c cs = piece at h hreads
  obtain ⟨_, more⟩ := piece
  obtain rfl := h
  -- by what the piece is read as: only two rules give out operators and delimiters, and both look
  -- them up
  cases hreads with
  | openBlock | openString =>
    apply hother
    cases lexer.unclosed <;> simp [UnclosedPolicy.kind]
  | word =>
    apply hother
    unfold Vocabulary.classify
    split <;> simp
  | @operator op hc hword hdigit hop =>
    obtain ⟨hmem, hlexeme⟩ := lexeme_of_longestPrefix? hop
    refine ⟨fun _ => ?_, fun hkind => by cases hkind⟩
    show String.ofList (c :: cs.take (op.length - 1)) ∈ operators
    rw [hlexeme]
    exact hmem
  | single =>
    by_cases hc : isDelimiter c = true
    · have hmem : c ∈ delimiters := List.contains_iff_mem.mp hc
      refine ⟨fun hkind => by simp [tokenAt, hc] at hkind, fun _ => ?_⟩
      exact List.mem_map.mpr ⟨c, hmem, by simp [tokenAt]⟩
    · simp [tokenAt, hc, Token.IsListed]
  | _ => exact hother _ (by simp)

theorem areListed_tokenize (lexer : Lexer) (source : String) :
    Token.AreListed (lexer.tokenize source) := by
  intro t ht
  rw [tokenize, analyze_tokens] at ht
  obtain ⟨p, c, rest, hkind, hplace⟩ := exists_piece ht
  rw [hplace]
  exact isListed_of_nextPiece p hkind

/-- The second lexer is more permissive: it reserves no further words, and it does not take unclosed
    texts for errors unless the first one does so too. -/
structure Relaxes (lexer lexer' : Lexer) : Prop where
  reachable : lexer.vocabulary.IsReachable
  reachable' : lexer'.vocabulary.IsReachable
  keywords : lexer'.vocabulary.keywords ⊆ lexer.vocabulary.keywords
  unclosed : lexer.unclosed = .invalid ∨ lexer'.unclosed = lexer.unclosed

section relaxes
variable {t u : Token} {tokens tokens' : List Token}

/-- The more permissive lexer has the same firm tokens and the same trivia. -/
theorem Relaxes.eq_of_counterpart (h : Relaxes lexer lexer') (hpair : Counterpart lexer lexer' t u)
    (ht : t.IsFirm ∨ t.isTrivia = true) : u = t := by
  obtain ⟨kind, lexeme, line, column, span⟩ := t
  obtain ⟨kind', lexeme', line', column', span'⟩ := u
  obtain ⟨rfl, rfl, rfl, rfl, hkinds⟩ := hpair
  -- each way in which counterparts may differ is one that relaxing does not take, or the token is
  -- not firm
  cases hkinds with
  | same => rfl
  | freed hshape hkeyword hfree =>
    rcases ht with hfirm | htrivia
    · have hmem := h.reachable'.standard_subset (hfirm.mem_standard rfl)
      simp [Vocabulary.isKeyword, hmem] at hfree
    · cases htrivia
  | reserved hshape hfree hkeyword =>
    have hmem := h.keywords (List.contains_iff_mem.mp hkeyword)
    simp [Vocabulary.isKeyword, hmem] at hfree
  | truncated =>
    rcases ht with hfirm | htrivia
    · exact absurd rfl hfirm.kind_ne
    · cases htrivia
  | refused htruncate hinvalid =>
    rcases h.unclosed with hp | hp
    · cases hp.symm.trans htruncate
    · cases hinvalid.symm.trans (hp.trans htruncate)

theorem Relaxes.eq_of_counterparts (h : Relaxes lexer lexer')
    (hpairs : List.Forall₂ (Counterpart lexer lexer') tokens tokens')
    (ht : ∀ t ∈ tokens, t.IsFirm ∨ t.isTrivia = true) : tokens' = tokens := by
  induction hpairs with
  | nil => rfl
  | cons hpair htail ih =>
    rw [List.forall_mem_cons] at ht
    rw [h.eq_of_counterpart hpair ht.1, ih ht.2]

end relaxes

end Lexer

/-- Line ends are not significant. -/
theorem significantTokens_withoutNewlines (tokens : List Token) :
    significantTokens (withoutNewlines tokens) = significantTokens tokens := by
  simp only [significantTokens, withoutNewlines, List.filter_filter]
  apply List.filter_congr
  intro t ht
  cases hkind : t.kind <;> simp [Token.isTrivia, TokenKind.isTrivia, hkind]

namespace Lexer

variable {lexer lexer' : Lexer}

/-- If the tokens of one lexer are checked without an error, a more permissive lexer has the same
    significant tokens. -/
theorem Relaxes.significantTokens_eq {limit : Nat} {source : String} (h : Relaxes lexer lexer')
    (hsucceeded : (checkSyntax limit (lexer.tokenize source)).succeeded = true) :
    significantTokens (lexer'.tokenize source) = significantTokens (lexer.tokenize source) := by
  have hfirm := areFirm_of_succeeded (lexer.areListed_tokenize source) hsucceeded
  rw [← significantTokens_withoutNewlines, ← significantTokens_withoutNewlines (lexer.tokenize _)]
  congr 1
  apply h.eq_of_counterparts (counterparts_tokenize h.reachable h.reachable' source)
  intro t ht
  -- what the grammar needs is firm, and the rest is trivia: options change neither of them
  cases htrivia : t.isTrivia with
  | true => exact .inr rfl
  | false =>
    left
    apply hfirm
    exact List.mem_filter.mpr ⟨List.mem_of_mem_filter ht, by simp [htrivia]⟩

/-- If a check succeeds, it does so with the same tree for a more permissive lexer and a higher
    limit. -/
theorem Relaxes.result_eq {limit limit' : Nat} {source : String} {tree : Node}
    (h : Relaxes lexer lexer') (hle : limit ≤ limit')
    (hresult : (checkSyntax limit (lexer.tokenize source)).result = .ok tree) :
    (checkSyntax limit' (lexer'.tokenize source)).result = .ok tree := by
  obtain ⟨hsucceeded, htree⟩ := SyntaxCheck.result_eq_ok_iff.mp hresult
  -- first the same limit on other tokens, then a higher limit on the same tokens
  have hagree : ChecksAgree limit (lexer.tokenize source) (lexer'.tokenize source) :=
    checksAgree_of_significantTokens_eq (h.significantTokens_eq hsucceeded).symm
      (lexer.linesAscend_tokenize source) (lexer'.linesAscend_tokenize source)
  have hsucceeded' := hagree.succeeded.trans hsucceeded
  have hnone : (checkSyntax limit (lexer'.tokenize source)).diagnostics = [] :=
    List.isEmpty_iff.mp hsucceeded'
  rw [checkSyntax_of_le hle (by simp [hnone])]
  exact SyntaxCheck.result_eq_ok_iff.mpr ⟨hsucceeded', hagree.tree.trans htree⟩

end Lexer

/-! ## Section 3: The main result -/

theorem Analyzer.check_eq_ok_iff {a : Analyzer} {source : String} {tree : Node} :
    a.check source = .ok tree ↔ (a.parse source).result = .ok tree := by
  unfold check
  cases (a.parse source).result with
  | error ds => simp [Except.mapError]
  | ok tree' => simp [Except.mapError]

/-- Relaxing the settings never breaks a program. A source that is parsed without an error is parsed
    with the same tree if fewer words are reserved, if unclosed texts are no longer invalid, and if
    the limit on nesting is higher. Moreover, unless a check reports nesting as too deep, it has
    the same outcome under every higher limit; and no check reports it under a limit that is at
    least the number of significant tokens. -/
theorem relaxing_keeps_outcome :
    (∀ (a a' : Analyzer) (source : String) (tree : Node), a.vocabulary.IsReachable →
        a'.vocabulary.IsReachable → a'.vocabulary.keywords ⊆ a.vocabulary.keywords →
        a.settings.unclosed = .invalid ∨ a'.settings.unclosed = a.settings.unclosed →
        a.settings.nestingLimit ≤ a'.settings.nestingLimit →
        a.check source = .ok tree → a'.check source = .ok tree) ∧
      (∀ (limit limit' : Nat) (tokens : List Token), limit ≤ limit' →
        (∀ d ∈ (checkSyntax limit tokens).diagnostics, d.code ≠ some .nestingTooDeep) →
        checkSyntax limit' tokens = checkSyntax limit tokens) ∧
      ∀ (limit : Nat) (tokens : List Token), (significantTokens tokens).length ≤ limit →
        ∀ d ∈ (checkSyntax limit tokens).diagnostics, d.code ≠ some .nestingTooDeep := by
  refine ⟨?_, fun limit limit' tokens => checkSyntax_of_le, ?_⟩
  · intro a a' source tree hv hv' hkeywords hunclosed hle hchecked
    have hrelaxes : Relaxes a.checkLexer a'.checkLexer := ⟨hv, hv', hkeywords, hunclosed⟩
    rw [Analyzer.check_eq_ok_iff] at hchecked ⊢
    exact hrelaxes.result_eq hle hchecked
  · intro limit tokens hle d hd
    exact code_ne_nestingTooDeep hle hd

/-- The theorem at a call under settings that reserve one more word, and at tokens with an error
    other than nesting. -/
theorem relaxing_keeps_outcome_call :
    let a : Analyzer :=
      { vocabulary := ⟨Vocabulary.standard.keywords ++ ["let"]⟩, settings := { nestingLimit := 1 } }
    let a' : Analyzer := { settings := { unclosed := .truncate, nestingLimit := 3 } }
    let tokens := Lexer.tokenize {} "x = f(1) )\ny = 2"
    (∃ tree, a.check "x = f('a')" = .ok tree ∧ a'.check "x = f('a')" = .ok tree) ∧
      checkSyntax 4 tokens = checkSyntax 1 tokens ∧
      (checkSyntax 1 tokens).diagnostics.length = 1 ∧
      (significantTokens tokens).length ≤ 10 ∧
      ∀ d ∈ (checkSyntax 10 tokens).diagnostics, d.code ≠ some .nestingTooDeep := by
  intro a a' tokens
  obtain ⟨hsettings, hlimits, henough⟩ := relaxing_keeps_outcome
  have hreserve : Vocabulary.standard.reserve ["let"] = .ok a.vocabulary := by decide +kernel
  have hv : a.vocabulary.IsReachable := .reserve .standard hreserve
  have hsucceeded : (a.parse "x = f('a')").succeeded = true := by decide +kernel
  obtain ⟨tree, -, hresult⟩ := SyntaxCheck.succeeded_iff_result.mp hsucceeded
  have hchecked : a.check "x = f('a')" = .ok tree := Analyzer.check_eq_ok_iff.mpr hresult
  have hcodes : ∀ d ∈ (checkSyntax 1 tokens).diagnostics, d.code ≠ some .nestingTooDeep := by
    decide +kernel
  have hcount : (significantTokens tokens).length ≤ 10 := by decide +kernel
  refine ⟨⟨tree, hchecked, ?_⟩, hlimits 1 4 tokens (by decide) hcodes, by decide +kernel, hcount,
    henough 10 tokens hcount⟩
  exact hsettings a a' _ tree hv .standard (List.subset_append_left _ _) (.inl rfl) (by decide)
    hchecked

end ScriptCheck
