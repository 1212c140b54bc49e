import ScriptCheck.Analysis
import ScriptCheck.Tree.Outline

/-! # Reports

  An analysis is shown as plain text in sections: the tokens, their counts, and
  the outcome of the syntax check. Every section ends with a line end, so
  sections can be put one after the other.
-/

namespace ScriptCheck.Report

def indented (texts : List String) : String :=
  String.join (texts.map fun text => s!"  {text}\n")

/-- The token listing: a heading with the number of tokens, and a line for each. -/
def tokens (ts : List Token) : String :=
  s!"Tokens ({ts.length})\n" ++ indented (ts.map Token.render)

/-- The counts: a heading, and a line for each category. -/
def statistics (s : Statistics) : String :=
  "Statistics\n" ++ indented (s.toList.map fun (category, count) => s!"{category.name}: {count}")

/-- The verdict: a heading, and a line for each diagnostic. -/
def verdict (check : SyntaxCheck) : String :=
  if check.succeeded then "Syntax: OK\n"
  else
    s!"Syntax: {check.diagnostics.length} error(s)\n"
      ++ indented (check.diagnostics.map Diagnostic.render)

/-- The verdict and the tree; a tree that errors have left incomplete is announced as partial. -/
def syntaxCheck (check : SyntaxCheck) : String :=
  verdict check ++
    match check.tree with
    | none => ""
    | some tree => if check.succeeded then tree.render else "Partial tree\n" ++ tree.render

def lexical (a : LexicalAnalysis) : String := tokens a.tokens ++ statistics a.statistics

def analysis (a : Analysis) : String := lexical a.lexical ++ syntaxCheck a.check

end ScriptCheck.Report
