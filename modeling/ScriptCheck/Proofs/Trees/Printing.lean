import ScriptCheck.Analysis
import ScriptCheck.Proofs.Scanner.Classes
import ScriptCheck.Proofs.Scanner.Options
import ScriptCheck.Proofs.Trees.Headings
import ScriptCheck.Proofs.Trees.Literals

/-! # Printed Trees

  A tree that is printed can be read back, so that different trees never look the
  same. The text falls into lines at its line feeds, the spaces at the start of a
  line give its level, and the lines give the tree.

  This needs something of the literals: none has a line feed, and none begins with
  a space. Neither holds of any tree, but it does of those of a check. Their
  literals are lexemes, and of the lexemes only comments and invalid ones go on
  over lines.
-/

namespace ScriptCheck

open Lexer

/-! ## Section 1: What a tree prints -/

mutual

def Node.subtrees : Node → List Node
  | .mk kind children => .mk kind children :: Child.subtreesOfEach children

def Child.subtrees : Child → List Node
  | .node n => n.subtrees
  | .literal _ => []
  | .sequence items => Child.subtreesOfEach items
  | .absent => []

def Child.subtreesOfEach : List Child → List Node
  | [] => []
  | c :: cs => c.subtrees ++ Child.subtreesOfEach cs

end

/-- The order of the source is an order of the same entries. -/
theorem NodeKind.inSourceOrder_perm {α : Type} (kind : NodeKind) (entries : List α) :
    (kind.inSourceOrder entries).Perm entries := by
  unfold inSourceOrder
  split
  · exact .swap _ _ _
  · exact .refl _

def tagsOf (ns : List Node) : List String := ns.map (·.kind.tag)

theorem append_perm_interchange {α : Type} [DecidableEq α] {as bs cs ds es fs : List α}
    (h : as.Perm (bs ++ cs)) (h' : ds.Perm (es ++ fs)) :
    (as ++ ds).Perm ((bs ++ es) ++ (cs ++ fs)) := by
  rw [List.perm_iff_count] at h h' ⊢
  intro a
  have hcount := h a
  have hcount' := h' a
  simp only [List.count_append] at hcount hcount' ⊢
  omega

mutual

/-- An outline has one line for each node, which is its tag, and one for each literal. -/
theorem Node.texts_perm (level : Nat) :
    (n : Node) →
      ((n.outline level).map (·.text)).Perm
        (tagsOf n.subtrees ++ n.literals.map (·.text))
  | .mk kind children => by
    have hbelow := Child.texts_perm_ofEach (level + 1) kind.literalRole children
    have horder :=
      (kind.inSourceOrder_perm (Child.literalsOfEach kind.literalRole children)).flatten
    rw [Node.outline, Node.subtrees, Node.literals, List.map_cons]
    exact (hbelow.trans ((horder.map _).symm.append_left _)).cons _

theorem Child.texts_perm (level : Nat) (role : LiteralRole) :
    (c : Child) →
      ((c.outline level).map (·.text)).Perm (tagsOf c.subtrees ++ (c.literals role).map (·.text))
  | .node n => by
    rw [Child.outline, Child.subtrees, Child.literals]
    exact n.texts_perm level
  | .literal text => by
    rw [Child.outline, Child.subtrees, Child.literals]
    exact .refl _
  | .sequence items => by
    rw [Child.outline, Child.subtrees, Child.literals]
    exact Child.texts_perm_ofEach level role items
  | .absent => by
    rw [Child.outline, Child.subtrees, Child.literals]
    exact .refl _

theorem Child.texts_perm_ofEach (level : Nat) (role : LiteralRole) :
    (cs : List Child) →
      ((Child.outlineAll level cs).map (·.text)).Perm
        (tagsOf (Child.subtreesOfEach cs) ++ (Child.literalsOfEach role cs).flatten.map (·.text))
  | [] => by
    rw [Child.outlineAll, Child.subtreesOfEach, Child.literalsOfEach]
    exact .refl _
  | c :: cs => by
    have hfirst := c.texts_perm level role
    have hlater := Child.texts_perm_ofEach level role cs
    rw [Child.outlineAll, Child.subtreesOfEach, Child.literalsOfEach, List.flatten_cons,
      List.map_append, List.map_append, tagsOf, List.map_append]
    exact append_perm_interchange hfirst hlater

end

/-! ## Section 2: Lines of text -/

/-- The text can be told apart on a line: it does not end the line, and it does not begin with a
    space, which would count as indentation. -/
def FitsLine (text : String) : Prop := '\n' ∉ text.toList ∧ text.toList.head? ≠ some ' '

def OutlineLine.indented (line : OutlineLine) : List Char :=
  List.replicate (2 * line.level) ' ' ++ line.text.toList

/-- The line that a text shows: two spaces make a level. -/
def OutlineLine.ofText (cs : List Char) : OutlineLine :=
  ⟨(cs.takeWhile (· == ' ')).length / 2, String.ofList (cs.dropWhile (· == ' '))⟩

section lines
variable {line : OutlineLine} {lines : List OutlineLine}

theorem OutlineLine.toList_render (line : OutlineLine) :
    line.render.toList = line.indented ++ ['\n'] := by
  simp [render, indented]

theorem OutlineLine.lineFeed_not_mem_indented (h : FitsLine line.text) : '\n' ∉ line.indented := by
  rw [indented, List.mem_append, not_or]
  refine ⟨?_, h.1⟩
  intro hmem
  exact absurd (List.eq_of_mem_replicate hmem) (by decide)

/-- The lines of a printed outline are its lines. -/
theorem splitLines_render (h : ∀ line ∈ lines, FitsLine line.text) :
    splitLines (String.join (lines.map OutlineLine.render)).toList =
      lines.map fun line => (line.indented, true) := by
  have htext : (String.join (lines.map OutlineLine.render)).toList =
      (lines.map OutlineLine.indented).flatMap (· ++ ['\n']) := by
    simp [String.toList_join, OutlineLine.toList_render, List.flatMap_map]
  have hlines : ∀ cs ∈ lines.map OutlineLine.indented, '\n' ∉ cs := by
    rw [List.forall_mem_map]
    exact fun line hline => OutlineLine.lineFeed_not_mem_indented (h line hline)
  rw [htext, splitLines_flatMap hlines, List.map_map]
  rfl

/-- The spaces in front of a text give its level. -/
theorem OutlineLine.ofText_indented (h : FitsLine line.text) : ofText line.indented = line := by
  have hspaces : ∀ c ∈ List.replicate (2 * line.level) ' ', (c == ' ') = true := by
    intro c hc
    rw [List.eq_of_mem_replicate hc]
    rfl
  have hstop : line.text.toList.takeWhile (· == ' ') = [] ∧
      line.text.toList.dropWhile (· == ' ') = line.text.toList := by
    cases htext : line.text.toList with
    | nil => simp
    | cons c cs =>
      have hc : c ≠ ' ' := by
        rintro rfl
        exact h.2 (by rw [htext]; rfl)
      simp [hc]
  rw [ofText, indented, List.takeWhile_append_of_pos hspaces,
    List.dropWhile_append_of_pos hspaces, hstop.1, hstop.2, String.ofList_toList, List.append_nil,
    List.length_replicate, Nat.mul_div_cancel_left _ (by decide)]

end lines

/-! ## Section 3: Trees from their text -/

/-- The trees that a text shows. -/
def Node.ofRendered (text : String) : List Node :=
  let lines := (splitLines text.toList).map fun line => OutlineLine.ofText line.1
  (Heading.ofLines lines).map Heading.node

section trees
variable {n : Node} {sort : NodeSort}

theorem fitsLine_tag (kind : NodeKind) : FitsLine kind.tag := by
  cases kind <;> exact ⟨by decide, by decide⟩

/-- If the literals of a tree fit on lines, all that it prints does. -/
theorem fitsLine_of_mem_outline (h : ∀ l ∈ n.literals, FitsLine l.text) (level : Nat) :
    ∀ line ∈ n.outline level, FitsLine line.text := by
  intro line hline
  have htext := (n.texts_perm level).mem_iff.mp (List.mem_map_of_mem hline)
  rcases List.mem_append.mp htext with htag | hliteral
  · obtain ⟨m, -, hm⟩ := List.mem_map.mp htag
    rw [← hm]
    exact fitsLine_tag m.kind
  · obtain ⟨l, hl, hline⟩ := List.mem_map.mp hliteral
    rw [← hline]
    exact h l hl

/-- A printed tree can be read back. -/
theorem Node.ofRendered_render (hsort : n.HasSort sort) (h : ∀ l ∈ n.literals, FitsLine l.text) :
    Node.ofRendered n.render = [n] := by
  have hfits := fitsLine_of_mem_outline h 0
  -- text to lines, lines to headings, headings to nodes: each step is undone by its own lemma
  have hlines : (n.outline 0).map (fun line => OutlineLine.ofText line.indented) = n.outline 0 := by
    refine (List.map_congr_left ?_).trans (List.map_id _)
    intro line hline
    exact OutlineLine.ofText_indented (hfits line hline)
  have hheadings : Heading.ofLines (n.outline 0) = [n.heading] := by
    rw [n.outline_eq, ← Heading.linesOfEach_singleton, Heading.ofLines_linesOfEach]
  rw [Node.ofRendered, Node.render, splitLines_render hfits, List.map_map]
  simp only [Function.comp_def, hlines, hheadings, List.map_cons, List.map_nil, hsort.node_heading]

/-- A printed tree has a line for each of its nodes and for each of its literals. -/
theorem Node.length_splitLines_render (h : ∀ l ∈ n.literals, FitsLine l.text) :
    (splitLines n.render.toList).length = n.subtrees.length + n.literals.length := by
  have hlength := (n.texts_perm 0).length_eq
  rw [List.length_map, List.length_append, List.length_map, tagsOf, List.length_map] at hlength
  rw [Node.render, splitLines_render (fitsLine_of_mem_outline h 0), List.length_map, hlength]

end trees

/-! ## Section 4: Trees of checks -/

section checks
variable {t : Token} {l : Literal} {limit : Nat} {tokens : List Token} {tree : Node}

/-- A literal is a lexeme that is neither a comment nor invalid. -/
theorem Literal.ComesFrom.kind_mem (h : l.ComesFrom t) :
    t.kind ∈ [TokenKind.identifier, .operator, .number, .string] := by
  obtain ⟨-, hkind⟩ := h
  cases hrole : l.role with
  | name =>
    rw [hrole] at hkind
    simp [show t.kind = .identifier from hkind]
  | operator =>
    rw [hrole] at hkind
    simp [show t.kind = .operator from hkind]
  | value =>
    rw [hrole] at hkind
    rcases (show t.IsValue from hkind) with hkind | hkind | hkind
    all_goals simp [hkind]

/-- Every literal of the tree of a check comes from one of its tokens. -/
theorem exists_token_of_literal (h : (checkSyntax limit tokens).tree = some tree)
    (hl : l ∈ tree.literals) : ∃ t ∈ tokens, l.ComesFrom t := by
  obtain ⟨-, rfl⟩ := displayTree?_eq_some_iff.mp h
  obtain ⟨used, hused, hsub⟩ := (readStatements_draws limit 0 .program tokens).of_ok _ rfl
  rw [readProgram_statements, Node.literals_program] at hl
  -- literals and the tokens they come from are paired by index
  obtain ⟨i, hi, rfl⟩ := List.mem_iff_getElem.mp hl
  have hi' : i < used.length := hused.length_eq ▸ hi
  have hmem : used[i] ∈ significantTokens tokens :=
    hsub.subset (List.mem_append_left _ (List.getElem_mem hi'))
  exact ⟨used[i], List.mem_of_mem_filter hmem, hused.get hi hi'⟩

/-- The lexemes that become literals fit on lines. -/
theorem fitsLine_of_mem_tokenize {lexer : Lexer} {source : String} (ht : t ∈ lexer.tokenize source)
    (hkind : t.kind ∈ [TokenKind.identifier, .operator, .number, .string]) :
    FitsLine t.lexeme := by
  have hother : t.kind ≠ .newline ∧ t.kind ≠ .comment ∧ t.kind ≠ .invalid := by
    simp only [List.mem_cons, List.not_mem_nil, or_false] at hkind
    rcases hkind with hkind | hkind | hkind | hkind
    all_goals simp [hkind]
  obtain ⟨p, c, rest, more, hreads, hplace⟩ := exists_readsPiece ht
  have htext : t.lexeme.toList = c :: rest.take more := by
    rw [hplace, tokenAt, String.toList_ofList]
  rw [FitsLine, htext]
  refine ⟨hreads.lineFeed_not_mem hother.1 hother.2.1 hother.2.2, ?_⟩
  -- a lexeme that began with a space would begin with a blank, and only line ends do
  intro hhead
  obtain rfl := Option.some.inj hhead
  have hblank : Text.isBlank ' ' = true := by decide
  rw [hreads.not_blank hother.1] at hblank
  cases hblank

/-- The tree of a source prints one text on each line. -/
theorem Analyzer.fitsLine_of_literal {a : Analyzer} {source : String}
    (h : (a.parse source).tree = some tree) : ∀ l ∈ tree.literals, FitsLine l.text := by
  intro l hl
  obtain ⟨t, ht, hcomes⟩ := exists_token_of_literal h hl
  rw [← hcomes.1]
  exact fitsLine_of_mem_tokenize ht hcomes.kind_mem

end checks

/-! ## Section 5: The main result -/

/-- The printed tree determines the tree. Whatever two sources are checked under whatever settings,
    with errors in them or without, their trees are equal if they print the same. And a tree prints
    exactly one line for each of its nodes and for each of its literals. -/
theorem tree_eq_of_render_eq (a a' : Analyzer) (source source' : String) (tree tree' : Node)
    (h : (a.parse source).tree = some tree) (h' : (a'.parse source').tree = some tree') :
    (tree.render = tree'.render → tree = tree') ∧
      (splitLines tree.render.toList).length = tree.subtrees.length + tree.literals.length := by
  have hback := Node.ofRendered_render (hasSort_of_displayTree? h) (Analyzer.fitsLine_of_literal h)
  have hback' :=
    Node.ofRendered_render (hasSort_of_displayTree? h') (Analyzer.fitsLine_of_literal h')
  refine ⟨?_, Node.length_splitLines_render (Analyzer.fitsLine_of_literal h)⟩
  intro hsame
  rw [hsame, hback'] at hback
  exact (List.cons.inj hback).1.symm

/-- The theorem at two sources that print the same, one of them with an error. One line shows a
    parameter that is spelled like the tag of the body below it. -/
theorem tree_eq_of_render_eq_parameter :
    let a : Analyzer := {}
    let a' : Analyzer := { settings := { unclosed := .truncate, nestingLimit := 3 } }
    let source := "def f(BLOCK): x = 'é'\n) 1.5"
    let source' := "def f(BLOCK):\n  x = ('é') # c"
    ∃ tree, (a.parse source).tree = some tree ∧ (a'.parse source').tree = some tree ∧
      tree.render =
        "PROGRAM\n  FUNCTION_DEF\n    f\n    BLOCK\n    BLOCK\n      ASSIGN\n        x\n" ++
          "        VALUE\n          'é'\n" ∧
      (splitLines tree.render.toList).length = tree.subtrees.length + tree.literals.length := by
  intro a a' source source'
  have hprint : (a.parse source).tree.map Node.render = some
      ("PROGRAM\n  FUNCTION_DEF\n    f\n    BLOCK\n    BLOCK\n      ASSIGN\n        x\n" ++
        "        VALUE\n          'é'\n") := by
    decide +kernel
  have hprint' : (a'.parse source').tree.map Node.render =
      (a.parse source).tree.map Node.render := by
    decide +kernel
  rw [hprint] at hprint'
  obtain ⟨tree, h, htext⟩ := Option.map_eq_some_iff.mp hprint
  obtain ⟨tree', h', htext'⟩ := Option.map_eq_some_iff.mp hprint'
  obtain ⟨hsame, hlines⟩ := tree_eq_of_render_eq a a' source source' tree tree' h h'
  obtain rfl := hsame (htext.trans htext'.symm)
  exact ⟨tree, h, h', htext, hlines⟩

end ScriptCheck
