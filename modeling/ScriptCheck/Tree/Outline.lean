import ScriptCheck.Tree

/-! # Outlines

  A tree is printed as an outline, one line for each node and each literal.
  A node is its tag, and its children stand one level deeper; two spaces make a
  level. Sequences add no level of their own, and what was not written is not
  shown.
-/

namespace ScriptCheck

structure OutlineLine where
  /-- Depth below the root. -/
  level : Nat
  text : String
  deriving DecidableEq, Repr

def OutlineLine.render (line : OutlineLine) : String :=
  String.ofList (List.replicate (2 * line.level) ' ') ++ line.text ++ "\n"

mutual

def Node.outline (level : Nat) : Node → List OutlineLine
  | .mk kind children => ⟨level, kind.tag⟩ :: Child.outlineAll (level + 1) children

def Child.outline (level : Nat) : Child → List OutlineLine
  | .node n => n.outline level
  | .literal text => [⟨level, text⟩]
  | .sequence items => Child.outlineAll level items
  | .absent => []

def Child.outlineAll (level : Nat) : List Child → List OutlineLine
  | [] => []
  | c :: cs => c.outline level ++ Child.outlineAll level cs

end

def Node.render (n : Node) : String := String.join ((n.outline 0).map OutlineLine.render)

end ScriptCheck
