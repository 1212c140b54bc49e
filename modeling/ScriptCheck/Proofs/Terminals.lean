import Mathlib.Tactic.SplitIfs
import ScriptCheck.Program.Parser
import ScriptCheck.Proofs.Grammar

/-! # Tokens as Terminals

  The parser asks of a token what could start with it. Here the answers are put
  in the words of the grammar: which kind and which spelling the token has.

  Operators and delimiters are told apart by their kind in the grammar but not by
  the parser. Where both sides have to agree, the tokens are required to be
  spelled as the vocabulary lists them; no spelling is listed for both kinds.
-/

namespace ScriptCheck.Token

/-! ## Section 1: Punctuation -/

theorem AreListed.of_suffix {tokens rest : List Token} (h : AreListed tokens)
    (hs : rest <:+ tokens) : AreListed rest :=
  fun t ht => h t (hs.subset ht)

theorem AreListed.of_upcoming {tokens rest : List Token} {t : Token} (h : AreListed tokens)
    (hu : upcoming tokens = t :: rest) : t.IsListed :=
  h t ((hu ▸ upcoming_suffix tokens : (t :: rest) <:+ tokens).subset List.mem_cons_self)

/-- A mark that is no operator is a delimiter. -/
theorem IsListed.spells_delimiter {t : Token} {text : String} (ht : t.IsListed)
    (htext : text ∉ operators) (h : t.isPunctuation text = true) : t.Spells .delimiter text := by
  simp only [isPunctuation, Bool.and_eq_true, Bool.or_eq_true, beq_iff_eq] at h
  obtain ⟨hkind | hkind, hlexeme⟩ := h
  · exact absurd (hlexeme ▸ ht.1 hkind) htext
  · exact ⟨hkind, hlexeme⟩

/-- A mark that is no delimiter is an operator. -/
theorem IsListed.spells_operator {t : Token} {text : String} (ht : t.IsListed)
    (htext : text ∉ delimiters.map String.singleton) (h : t.isPunctuation text = true) :
    t.Spells .operator text := by
  simp only [isPunctuation, Bool.and_eq_true, Bool.or_eq_true, beq_iff_eq] at h
  obtain ⟨hkind | hkind, hlexeme⟩ := h
  · exact ⟨hkind, hlexeme⟩
  · exact absurd (hlexeme ▸ ht.2 hkind) htext

theorem Spells.isPunctuation_delimiter {t : Token} {text : String}
    (h : t.Spells .delimiter text) : t.isPunctuation text = true := by
  simp [isPunctuation, h.1, h.2]

theorem Spells.isPunctuation_operator {t : Token} {text : String}
    (h : t.Spells .operator text) : t.isPunctuation text = true := by
  simp [isPunctuation, h.1, h.2]

theorem isTrivia_of_isPunctuation {t : Token} {text : String} (h : t.isPunctuation text = true) :
    t.isTrivia = false := by
  simp only [isPunctuation, Bool.and_eq_true, Bool.or_eq_true, beq_iff_eq] at h
  obtain ⟨hkind | hkind, -⟩ := h
  · simp [isTrivia, hkind, TokenKind.isTrivia]
  · simp [isTrivia, hkind, TokenKind.isTrivia]

theorem kind_ne_identifier_of_isPunctuation {t : Token} {text : String}
    (h : t.isPunctuation text = true) : t.kind ≠ .identifier := by
  intro hkind
  simp [isPunctuation, hkind] at h

theorem isKeyword_iff {t : Token} {word : String} :
    t.isKeyword word = true ↔ t.Spells .keyword word := by
  simp [isKeyword, Spells]

/-! ## Section 2: What starts with a token -/

theorem binaryOperator?_eq_some_iff {t : Token} {op : BinaryOperator} :
    t.binaryOperator? = some op ↔ t.Spells .operator op.symbol := by
  unfold binaryOperator?
  constructor
  · intro h
    split at h
    · next hkind => exact ⟨hkind, (BinaryOperator.symbol_of_ofSymbol? h).symm⟩
    · cases h
  · intro ⟨hkind, hlexeme⟩
    rw [if_pos hkind, hlexeme, BinaryOperator.ofSymbol?_symbol]

/-- The tokens with which each sort of operand starts. -/
theorem operandHead?_eq_some_iff {t : Token} {head : OperandHead} :
    t.operandHead? = some head ↔
      match head with
      | .literal => t.kind = .number ∨ t.kind = .string
      | .name => t.kind = .identifier
      | .group => t.Spells .delimiter "("
      | .list close =>
        (t.Spells .delimiter "[" ∧ close = "]") ∨
          (t.Spells .delimiter "\x7b" ∧ close = "\x7d") := by
  obtain ⟨kind, lexeme, -, -, -⟩ := t
  cases kind with
  | delimiter =>
    by_cases h₁ : lexeme = "("
    · subst h₁
      cases head <;> simp [operandHead?, Spells]
    by_cases h₂ : lexeme = "["
    · subst h₂
      cases head <;> simp [operandHead?, Spells, eq_comm]
    by_cases h₃ : lexeme = "\x7b"
    · subst h₃
      cases head <;> simp [operandHead?, Spells, eq_comm]
    · cases head <;> simp [operandHead?, Spells, h₁, h₂, h₃]
  | _ => cases head <;> simp [operandHead?, Spells]

/-- The tokens with which each sort of statement starts. -/
theorem statementHead?_eq_some_iff {t : Token} {head : StatementHead} :
    t.statementHead? = some head ↔
      match head with
      | .name => t.kind = .identifier
      | .ifWord => t.Spells .keyword "if"
      | .whileWord => t.Spells .keyword "while"
      | .forWord => t.Spells .keyword "for"
      | .defWord => t.Spells .keyword "def"
      | .printWord => t.Spells .keyword "print"
      | .returnWord => t.Spells .keyword "return" := by
  obtain ⟨kind, lexeme, -, -, -⟩ := t
  cases kind with
  | keyword =>
    simp only [statementHead?, StatementHead.ofKeyword?]
    split_ifs with h₁ h₂ h₃ h₄ h₅ h₆
    all_goals cases head <;> simp_all [Spells]
  | _ => cases head <;> simp [statementHead?, Spells]

end ScriptCheck.Token
