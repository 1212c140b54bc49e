import ScriptCheck.Proofs.Scanner.Listings

/-! # Texts of Whole Lines

  At the start of a line the lexer remembers nothing but an open block comment.
  So a text of whole lines that closes its block comments can be cut off: the
  tokens behind it are those of the text behind it alone, only further down.

  Two facts carry this. Moving the place where a scan starts moves its tokens and
  does nothing else to them. And the lines of two texts put together are the
  lines of the one and the lines of the other, if the first one ends a line.
-/

namespace ScriptCheck

open Lexer

/-! ## Section 1: Moving down -/

/-- The place some lines and bytes further on, in the same column. -/
def Position.moved (lines bytes : Nat) (p : Position) : Position :=
  ⟨p.line + lines, p.column, p.offset + bytes⟩

def Span.moved (bytes : Nat) (s : Span) : Span :=
  ⟨s.start + bytes, s.stop + bytes, Nat.add_le_add_right s.start_le_stop bytes⟩

/-- The token some lines and bytes further on. Kind, lexeme and column stay. -/
def Token.moved (lines bytes : Nat) (t : Token) : Token :=
  { t with line := t.line + lines, span := t.span.moved bytes }

section moving
variable (lines bytes : Nat)

theorem Position.step_moved (p : Position) (c : Char) :
    (p.moved lines bytes).step c = (p.step c).moved lines bytes := by
  unfold Position.step Position.moved
  split
  · simp only [Position.mk.injEq, true_and]
    omega
  · simp only [Position.mk.injEq, true_and]
    omega

theorem Position.after_moved (p : Position) (cs : List Char) :
    (p.moved lines bytes).after cs = (p.after cs).moved lines bytes := by
  induction cs generalizing p with
  | nil => rfl
  | cons c cs ih => rw [after_cons, after_cons, step_moved, ih]

theorem tokenAt_moved (p : Position) (kind : TokenKind) (text : List Char) :
    tokenAt (p.moved lines bytes) kind text = (tokenAt p kind text).moved lines bytes := by
  have hspan (start stop : Nat) :
      Span.between (start + bytes) (stop + bytes) = (Span.between start stop).moved bytes := by
    simp only [Span.between, Span.moved, Span.mk.injEq, true_and]
    omega
  rw [tokenAt, Position.after_moved]
  exact congrArg (Token.mk kind _ _ _) (hspan _ _)

/-- A scan that starts further down finds the same tokens further down. -/
theorem scan_moved (lexer : Lexer) (p : Position) (cs : List Char) :
    lexer.scan (p.moved lines bytes) cs = (lexer.scan p cs).map (Token.moved lines bytes) := by
  -- a piece is cut by its text alone, so the same pieces are found
  induction p, cs using pieceInduction with
  | nil p => rw [scan_nil, scan_nil, List.map_nil]
  | cons p c cs ih =>
    rw [scan, scan, Position.after_moved, ih]
    cases (lexer.nextPiece c cs).kind with
    | none => rfl
    | some kind => exact congrArg (· :: _) (tokenAt_moved lines bytes p kind _)

/-- Counts do not depend on where the tokens stand. -/
theorem Category.total_moved (category : Category) (tokens : List Token) :
    category.total (tokens.map (Token.moved lines bytes)) = category.total tokens := by
  induction tokens with
  | nil => rfl
  | cons t tokens ih =>
    rw [List.map_cons, total_cons, total_cons, ih]
    rfl

end moving

theorem Category.total_append (category : Category) (tokens tokens' : List Token) :
    category.total (tokens ++ tokens') = category.total tokens + category.total tokens' := by
  induction tokens with
  | nil => simp [total]
  | cons t tokens ih => rw [List.cons_append, total_cons, total_cons, ih, Nat.add_assoc]

/-! ## Section 2: Lines put together -/

/-- The text ends with a line feed if it is not empty. -/
def IsWholeLines (cs : List Char) : Prop := ∀ c ∈ cs.getLast?, c = '\n'

section lines
variable {c : Char} {cs : List Char}

theorem IsWholeLines.tail (h : IsWholeLines (c :: cs)) : IsWholeLines cs := by
  intro d hd
  apply h
  rw [Option.mem_def] at hd ⊢
  rw [List.getLast?_cons, hd]
  rfl

/-- A line that has begun goes on up to its line feed. -/
theorem IsWholeLines.ne_nil (h : IsWholeLines (c :: cs)) (hc : c ≠ '\n') : cs ≠ [] := by
  rintro rfl
  exact hc (h c rfl)

theorem splitLines_ne_nil (h : cs ≠ []) : splitLines cs ≠ [] := by
  intro hnil
  have hjoin := (splitLines_spec cs).2
  rw [hnil] at hjoin
  exact h hjoin.symm

/-- Behind whole lines a new line begins. -/
theorem splitLines_append (h : IsWholeLines cs) (ds : List Char) :
    splitLines (cs ++ ds) = splitLines cs ++ splitLines ds := by
  induction cs with
  | nil => rfl
  | cons c cs ih =>
    rw [List.cons_append, splitLines, splitLines, ih h.tail]
    by_cases hc : c = '\n'
    · rw [if_pos hc, if_pos hc]
      rfl
    · rw [if_neg hc, if_neg hc]
      -- the line feed is still to come, so the first line of what follows takes the character
      have hne := splitLines_ne_nil (h.ne_nil hc)
      cases hsplit : splitLines cs with
      | nil => exact absurd hsplit hne
      | cons first rest => rfl

/-- The lines behind others are numbered and placed behind them. -/
theorem placeLines_append (number offset : Nat) (pieces pieces' : List (List Char × Bool)) :
    placeLines number offset (pieces ++ pieces') =
      placeLines number offset pieces ++
        placeLines (number + pieces.length) (offset + byteCount (pieces.flatMap joinLine))
          pieces' := by
  induction pieces generalizing number offset with
  | nil => rfl
  | cons piece pieces ih =>
    obtain ⟨text, terminated⟩ := piece
    -- a line takes the bytes of its text and one more if it is terminated
    have hbytes : byteCount (joinLine (text, terminated)) =
        byteCount text + terminated.toNat := by
      cases terminated with
      | false => rfl
      | true => exact byteCount_append text ['\n']
    have hnumber : number + (pieces.length + 1) = number + 1 + pieces.length := by omega
    have hoffset (rest : Nat) : offset + (byteCount text + terminated.toNat + rest) =
        offset + byteCount text + terminated.toNat + rest := by omega
    rw [List.cons_append, placeLines, placeLines, ih, List.flatMap_cons, byteCount_append,
      hbytes, List.length_cons, hnumber, hoffset, List.cons_append]

/-- Every line feed ends a line. -/
theorem length_splitLines (h : IsWholeLines cs) : (splitLines cs).length = cs.count '\n' := by
  induction cs with
  | nil => rfl
  | cons c cs ih =>
    rw [splitLines]
    by_cases hc : c = '\n'
    · rw [if_pos hc, hc, List.count_cons_self, List.length_cons, ih h.tail]
    · have hne := splitLines_ne_nil (h.ne_nil hc)
      rw [if_neg hc, List.count_cons_of_ne hc, ← ih h.tail]
      cases hsplit : splitLines cs with
      | nil => exact absurd hsplit hne
      | cons first rest => rfl

end lines

/-! ## Section 3: The mode behind some lines -/

/-- The mode in which the lexer is behind some lines. -/
def Lexer.modeAfter (lexer : Lexer) (mode : ScanMode) : List SourceLine → ScanMode
  | [] => mode
  | line :: lines => lexer.modeAfter (lexer.scanLine mode line).2 lines

def ScanMode.isNormal : ScanMode → Bool
  | .normal => true
  | .inBlock _ => false

/-- Scanning the text leaves no block comment open. -/
def Lexer.closesBlocks (lexer : Lexer) (source : String) : Bool :=
  (lexer.modeAfter .normal (sourceLines source.toList)).isNormal

section modes
variable {lexer : Lexer}

theorem ScanMode.eq_normal_of_isNormal {mode : ScanMode} (h : mode.isNormal = true) :
    mode = .normal := by
  cases mode with
  | normal => rfl
  | inBlock block => cases h

/-- Behind lines that leave no block open the lexer starts afresh. -/
theorem scanLines_append {mode : ScanMode} {counts : Statistics} {lines lines' : List SourceLine}
    (h : lexer.modeAfter mode lines = .normal) :
    (lexer.scanLines mode counts (lines ++ lines')).tokens =
      (lexer.scanLines mode counts lines).tokens ++
        (lexer.scanLines .normal (lexer.scanLines mode counts lines).statistics lines').tokens := by
  induction lines generalizing mode counts with
  | nil =>
    obtain rfl : mode = .normal := h
    rfl
  | cons line lines ih =>
    rw [modeAfter] at h
    rw [List.cons_append, scanLines, scanLines]
    simp only [ih h, List.append_assoc]

end modes

/-! ## Section 4: Two texts put together -/

section texts
variable {lexer : Lexer} {a : String}

/-- The place behind whole lines is the start of a line. -/
theorem start_after_wholeLines (h : IsWholeLines a.toList) :
    ⟨1 + (splitLines a.toList).length, 1,
      0 + byteCount ((splitLines a.toList).flatMap joinLine)⟩ =
      Position.start.moved (a.toList.count '\n') a.utf8ByteSize := by
  rw [length_splitLines h, (splitLines_spec a.toList).2, byteCount_toList]
  rfl

/-- The tokens of whole lines, and behind them those of the other text, further down. -/
theorem tokenize_append_eq (h : IsWholeLines a.toList) (hclosed : lexer.closesBlocks a = true)
    (b : String) :
    lexer.tokenize (a ++ b) =
      lexer.tokenize a ++
        (lexer.tokenize b).map (Token.moved (a.toList.count '\n') a.utf8ByteSize) := by
  have hmode : lexer.modeAfter .normal (sourceLines a.toList) = .normal :=
    ScanMode.eq_normal_of_isNormal hclosed
  have hlines : sourceLines (a ++ b).toList =
      sourceLines a.toList ++
        placeLines (1 + (splitLines a.toList).length)
          (0 + byteCount ((splitLines a.toList).flatMap joinLine)) (splitLines b.toList) := by
    rw [String.toList_append, sourceLines, splitLines_append h, placeLines_append]
    rfl
  obtain ⟨hb, hjoin⟩ := splitLines_spec b.toList
  have hnormal : ScanMode.normal.ReachesTo
      (Position.start.moved (a.toList.count '\n') a.utf8ByteSize) := trivial
  have htokens : (lexer.analyze b).tokens = lexer.scan .start b.toList := analyze_tokens lexer b
  -- behind the cut the lexer is in the normal mode, at the start of a line
  rw [tokenize, analyze, hlines, scanLines_append hmode,
    scanLines_tokens hb (fun _ => (start_after_wholeLines h).symm) hnormal, hjoin, Lexer.resume,
    scan_moved, tokenize, tokenize, htokens, analyze]

/-- A text of whole lines that closes its block comments can be scanned by itself. The tokens of
    the text behind it stand as many lines and bytes further down as the first text has, with the
    same kinds, lexemes and columns, and every count is the sum of the two counts. -/
theorem tokenize_append (lexer : Lexer) (a b : String) (ha : a = "" ∨ ∃ front, a = front ++ "\n")
    (hclosed : lexer.closesBlocks a = true) :
    lexer.tokenize (a ++ b) =
        lexer.tokenize a ++
          (lexer.tokenize b).map (Token.moved (a.toList.count '\n') a.utf8ByteSize) ∧
      ∀ category, (lexer.analyze (a ++ b)).statistics.get category =
        (lexer.analyze a).statistics.get category + (lexer.analyze b).statistics.get category := by
  have hlines : IsWholeLines a.toList := by
    rcases ha with rfl | ⟨front, rfl⟩
    · simp [IsWholeLines]
    · simp [IsWholeLines]
  have htokens := tokenize_append_eq hlines hclosed b
  refine ⟨htokens, ?_⟩
  intro category
  rw [get_statistics, get_statistics, get_statistics, htokens, category.total_append,
    category.total_moved]

/-- The theorem at a block comment that is closed in the middle of a line, with wide characters in
    front of the cut and an open block behind it. -/
theorem tokenize_append_block :
    let lexer : Lexer := { emitNewlines := true }
    let a := "'''é\n''' x = 1\n"
    let b := "y # ü\n  \"\"\"z\n"
    (a = "" ∨ ∃ front, a = front ++ "\n") ∧ lexer.closesBlocks a = true ∧
      lexer.closesBlocks b = false ∧
      lexer.tokenize (a ++ b) =
        lexer.tokenize a ++ (lexer.tokenize b).map (Token.moved 2 16) ∧
      (lexer.tokenize b).map (·.line) = [1, 1, 1, 2] ∧
      (lexer.analyze (a ++ b)).statistics.get .comments = 1 + 1 := by
  intro lexer a b
  have ha : a = "" ∨ ∃ front, a = front ++ "\n" := .inr ⟨"'''é\n''' x = 1", rfl⟩
  have hclosed : lexer.closesBlocks a = true := by decide +kernel
  have hfeeds : a.toList.count '\n' = 2 := by decide
  have hbytes : a.utf8ByteSize = 16 := by decide
  obtain ⟨htokens, hcounts⟩ := tokenize_append lexer a b ha hclosed
  rw [hfeeds, hbytes] at htokens
  refine ⟨ha, hclosed, by decide +kernel, htokens, by decide +kernel, ?_⟩
  rw [hcounts]
  decide +kernel

end texts

end ScriptCheck
