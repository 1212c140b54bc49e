import ScriptCheck.Failure
import ScriptCheck.Settings

/-! # Analysis of a Source Text

  An analyzer is made once from settings and then applied to texts. It has two
  sides. The token listing shows line ends if the settings ask for them; the
  syntax check always sees them, as trivia. Both sides use one vocabulary, so a
  word is listed as what the check takes it for.
-/

namespace ScriptCheck

/-- Token listing and syntax check of one text. -/
structure Analysis where
  lexical : LexicalAnalysis
  check : SyntaxCheck

/-- A vocabulary and settings that go with it. -/
structure Analyzer where
  vocabulary : Vocabulary := .standard
  settings : Settings := {}

namespace Analyzer

/-- The analyzer for the settings. It exists unless a word that is to be reserved cannot be read. -/
def ofSettings (settings : Settings) : Except UnreadableWord Analyzer :=
  settings.vocabulary.map fun vocabulary => ⟨vocabulary, settings⟩

/-- The lexer behind the token listing. -/
def lexer (a : Analyzer) : Lexer := ⟨a.vocabulary, a.settings.emitNewlines, a.settings.unclosed⟩

/-- The lexer behind the syntax check. -/
def checkLexer (a : Analyzer) : Lexer := ⟨a.vocabulary, true, a.settings.unclosed⟩

def list (a : Analyzer) (source : String) : LexicalAnalysis := a.lexer.analyze source

def parse (a : Analyzer) (source : String) : SyntaxCheck :=
  checkSyntax a.settings.nestingLimit (a.checkLexer.tokenize source)

/-- The tree of a text without errors. Any error is a failure that keeps the text. -/
def check (a : Analyzer) (source : String) : Except Failure Node :=
  (a.parse source).result.mapError (Failure.rejected · source)

def analyze (a : Analyzer) (source : String) : Analysis := ⟨a.list source, a.parse source⟩

end Analyzer

end ScriptCheck
