import ScriptCheck.Proofs.Trees.Shape
import ScriptCheck.Tree.Outline

/-! # Reading Trees Back from Outlines

  An outline shows less than the tree has: sequences are not marked, what was not
  written leaves no trace, and a name can be spelled like a tag. It is enough all
  the same. The levels say which lines stand below which, and the tag of a node
  says how many of the lines right below it are texts and where nodes begin.

  Between the lines of an outline and the tree there are *headings*: texts with
  headings below them. Lines are read back as headings by their levels alone, and
  headings as nodes by the layout that belongs to the kind of a node.
-/

namespace ScriptCheck

/-! ## Section 1: Headings -/

/-- A text of an outline with what stands below it. -/
inductive Heading where
  | mk (text : String) (below : List Heading)

namespace Heading

def text : Heading → String
  | mk text _ => text

mutual

def lines (level : Nat) : Heading → List OutlineLine
  | mk text below => ⟨level, text⟩ :: linesOfEach (level + 1) below

def linesOfEach (level : Nat) : List Heading → List OutlineLine
  | [] => []
  | h :: hs => h.lines level ++ linesOfEach level hs

end

end Heading

mutual

/-- What an outline shows of a node. -/
def Node.heading : Node → Heading
  | .mk kind children => .mk kind.tag (Child.headingsOfEach children)

def Child.headings : Child → List Heading
  | .node n => [n.heading]
  | .literal text => [.mk text []]
  | .sequence items => Child.headingsOfEach items
  | .absent => []

def Child.headingsOfEach : List Child → List Heading
  | [] => []
  | c :: cs => c.headings ++ Child.headingsOfEach cs

end

theorem Heading.linesOfEach_append (level : Nat) (hs hs' : List Heading) :
    linesOfEach level (hs ++ hs') = linesOfEach level hs ++ linesOfEach level hs' := by
  induction hs with
  | nil => simp [linesOfEach]
  | cons h hs ih => rw [List.cons_append, linesOfEach, linesOfEach, ih, List.append_assoc]

theorem Heading.linesOfEach_singleton (level : Nat) (h : Heading) :
    linesOfEach level [h] = h.lines level := by
  rw [linesOfEach, linesOfEach, List.append_nil]

mutual

/-- The outline of a node is that of its heading. -/
theorem Node.outline_eq (level : Nat) : (n : Node) → n.outline level = n.heading.lines level
  | .mk kind children => by
    rw [Node.outline, Node.heading, Heading.lines, Child.outlineAll_eq (level + 1) children]

theorem Child.outline_eq (level : Nat) :
    (c : Child) → c.outline level = Heading.linesOfEach level c.headings
  | .node n => by
    rw [Child.outline, Child.headings, Heading.linesOfEach_singleton, n.outline_eq level]
  | .literal text => by
    rw [Child.outline, Child.headings, Heading.linesOfEach_singleton, Heading.lines,
      Heading.linesOfEach]
  | .sequence items => by rw [Child.outline, Child.headings, Child.outlineAll_eq level items]
  | .absent => by rw [Child.outline, Child.headings, Heading.linesOfEach]

theorem Child.outlineAll_eq (level : Nat) :
    (cs : List Child) →
      Child.outlineAll level cs = Heading.linesOfEach level (Child.headingsOfEach cs)
  | [] => by rw [Child.outlineAll, Child.headingsOfEach, Heading.linesOfEach]
  | c :: cs => by
    rw [Child.outlineAll, Child.headingsOfEach, Heading.linesOfEach_append, c.outline_eq level,
      Child.outlineAll_eq level cs]

end

/-! ## Section 2: Headings from lines -/

namespace Heading

/-- The headings that lines show: below a line stand the deeper lines right behind it. -/
def ofLines : List OutlineLine → List Heading
  | [] => []
  | line :: lines =>
    mk line.text (ofLines (lines.takeWhile (line.level < ·.level))) ::
      ofLines (lines.dropWhile (line.level < ·.level))
termination_by lines => lines.length
decreasing_by
  · exact Nat.lt_succ_of_le (List.takeWhile_prefix _).length_le
  · exact Nat.lt_succ_of_le (List.dropWhile_suffix _).length_le

/-- No line of a heading is above it. -/
theorem le_level_of_mem (level : Nat) :
    (hs : List Heading) → ∀ line ∈ linesOfEach level hs, level ≤ line.level
  | [] => by simp [linesOfEach]
  | mk text below :: hs => by
    have hbelow := le_level_of_mem (level + 1) below
    have hlater := le_level_of_mem level hs
    intro line hline
    rw [linesOfEach, lines, List.mem_append, List.mem_cons] at hline
    rcases hline with (rfl | hline) | hline
    · exact Nat.le_refl level
    · exact Nat.le_of_succ_le (hbelow line hline)
    · exact hlater line hline

/-- The lines below a heading end where the next heading begins. -/
theorem takeWhile_below (level : Nat) (below hs : List Heading) :
    (linesOfEach (level + 1) below ++ linesOfEach level hs).takeWhile (level < ·.level) =
      linesOfEach (level + 1) below ∧
    (linesOfEach (level + 1) below ++ linesOfEach level hs).dropWhile (level < ·.level) =
      linesOfEach level hs := by
  have hdeeper : ∀ line ∈ linesOfEach (level + 1) below, decide (level < line.level) = true := by
    intro line hline
    have := le_level_of_mem (level + 1) below line hline
    exact decide_eq_true this
  rw [List.takeWhile_append_of_pos hdeeper, List.dropWhile_append_of_pos hdeeper]
  -- the next heading stands at the level itself, which is no deeper
  cases hs with
  | nil => simp [linesOfEach]
  | cons h hs =>
    obtain ⟨text, below'⟩ := h
    simp [linesOfEach, lines]

/-- The levels of lines say all about the headings that they show. -/
theorem ofLines_linesOfEach (level : Nat) :
    (hs : List Heading) → ofLines (linesOfEach level hs) = hs
  | [] => by rw [linesOfEach, ofLines]
  | mk text below :: hs => by
    -- the deeper lines are those below the first heading, and the others those of the headings
    -- behind it
    obtain ⟨htake, hdrop⟩ := takeWhile_below level below hs
    have hbelow := ofLines_linesOfEach (level + 1) below
    have hlater := ofLines_linesOfEach level hs
    rw [linesOfEach, lines, List.cons_append, ofLines]
    simp only [htake, hdrop, hbelow, hlater]

end Heading

/-! ## Section 3: Nodes from headings -/

def NodeKind.ofTag (tag : String) : NodeKind := (all.find? (·.tag == tag)).getD .program

@[simp] theorem NodeKind.ofTag_tag (kind : NodeKind) : ofTag kind.tag = kind := by
  cases kind <;> rfl

/-- The children of a node, given what stands below it as texts and as nodes. Which of the two an
    entry is depends on the kind of the node and on the place of the entry alone. -/
def NodeKind.arrange (kind : NodeKind) (texts : List String) (nodes : List Node) : List Child :=
  match kind with
  | .program | .block | .list => [.nodes nodes]
  | .whileLoop | .print | .returnValue => nodes.map .node
  | .conditional => nodes.map .node ++ if nodes.length = 2 then [.absent] else []
  | .value => (texts.take 1).map .literal
  | .assign | .forLoop | .binaryOp => (texts.take 1).map .literal ++ (nodes.drop 1).map .node
  | .functionCall => (texts.take 1).map .literal ++ [.nodes (nodes.drop 1)]
  -- the body comes last, and all between it and the name are parameters
  | .functionDef =>
    (texts.take 1).map .literal ++ [.sequence ((texts.drop 1).dropLast.map .literal)] ++
      nodes.getLast?.toList.map .node

mutual

/-- The node that a heading shows. -/
def Heading.node : Heading → Node
  | .mk text below =>
    .mk (.ofTag text)
      ((NodeKind.ofTag text).arrange (below.map Heading.text) (Heading.nodeOfEach below))

def Heading.nodeOfEach : List Heading → List Node
  | [] => []
  | h :: hs => h.node :: Heading.nodeOfEach hs

end

theorem Heading.nodeOfEach_eq_map (hs : List Heading) : nodeOfEach hs = hs.map node := by
  induction hs with
  | nil => rfl
  | cons h hs ih => rw [nodeOfEach, ih, List.map_cons]

section children

@[simp] theorem Child.headingsOfEach_nodes (ns : List Node) :
    Child.headingsOfEach (ns.map .node) = ns.map Node.heading := by
  induction ns with
  | nil => rfl
  | cons n ns ih => rw [List.map_cons, headingsOfEach, headings, ih]; rfl

@[simp] theorem Child.headingsOfEach_literals (texts : List String) :
    Child.headingsOfEach (texts.map .literal) = texts.map (Heading.mk · []) := by
  induction texts with
  | nil => rfl
  | cons text texts ih => rw [List.map_cons, headingsOfEach, headings, ih]; rfl

/-- Nodes are read back one by one. -/
theorem map_node_heading {ns : List Node} (h : ∀ n ∈ ns, n.heading.node = n) :
    (ns.map Node.heading).map Heading.node = ns := by
  rw [List.map_map]
  exact (List.map_congr_left h).trans (List.map_id ns)

/-- A node in its proper shape is read back from what an outline shows of it. -/
theorem Node.HasSort.node_heading {n : Node} {sort : NodeSort} (h : n.HasSort sort) :
    n.heading.node = n := by
  -- texts and nodes below a heading are told apart by the kind, which its tag gives back
  induction h with
  | program _ _ ih | block _ ih | list _ ih =>
    simp [Node.heading, Child.headingsOfEach, Child.headings, Heading.node,
      Heading.nodeOfEach_eq_map, NodeKind.arrange, Child.nodes, map_node_heading ih]
  | call _ ih | callValue _ ih =>
    simp [Node.heading, Child.headingsOfEach, Child.headings, Heading.node,
      Heading.nodeOfEach_eq_map, NodeKind.arrange, Child.nodes, Heading.text, map_node_heading ih]
  | define _ ih =>
    simp [Node.heading, Child.headingsOfEach, Child.headings, Heading.node,
      Heading.nodeOfEach_eq_map, NodeKind.arrange, Heading.text, ih, Function.comp_def,
      List.getLast?_cons]
  | _ =>
    simp_all [Node.heading, Child.headingsOfEach, Child.headings, Heading.node,
      Heading.nodeOfEach, NodeKind.arrange, Heading.text]

end children

end ScriptCheck
