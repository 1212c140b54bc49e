import ScriptCheck.Program.Diagnosis
import ScriptCheck.Token.Lexer

/-! # Settings

  What a user can choose about an analysis: what becomes of unclosed texts,
  whether line ends are listed, which words are reserved besides those of the
  language, and how deeply constructs may be nested.
-/

namespace ScriptCheck

structure Settings where
  /-- What becomes of a quoted text or block comment without its closing quotes. -/
  unclosed : UnclosedPolicy := .invalid
  /-- Line ends appear in the token listing. -/
  emitNewlines : Bool := false
  /-- Words that are reserved besides those of the language. -/
  extraKeywords : List String := []
  /-- How deeply blocks and expressions may be nested. -/
  nestingLimit : Nat := defaultNestingLimit
  deriving DecidableEq, Repr, Inhabited

def Settings.vocabulary (s : Settings) : Except UnreadableWord Vocabulary :=
  Vocabulary.standard.reserve s.extraKeywords

end ScriptCheck
