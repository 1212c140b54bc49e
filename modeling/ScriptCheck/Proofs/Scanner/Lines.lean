import ScriptCheck.Proofs.Scanner.Pieces

/-! # Scanning Line by Line

  The lexer carries a mode from line to line, the one-pass scanner carries
  nothing. What ties the two is what a mode means: in the normal mode the scan
  goes on as if it began here, inside a block comment it goes on with the search
  for the closing quotes, which the block so far is put in front of.

  The invariant is that an open block reaches to the place where the next line
  starts. It holds where a line ends, and a line that is scanned in a mode gives
  the tokens that the one-pass scanner finds on it and the mode in which the rest
  of the source is scanned.
-/

namespace ScriptCheck

open Lexer

/-! ## Section 1: What a mode means -/

/-- The block that a text from a position on is. -/
def openBlockAt (p : Position) (quote : Char) (text : List Char) : OpenBlock :=
  ⟨quote, String.ofList text, p.line, p.column, .between p.offset (p.after text).offset⟩

@[simp] theorem openBlockAt_quote (p : Position) (quote : Char) (text : List Char) :
    (openBlockAt p quote text).quote = quote := rfl

/-- The block goes on with a text that starts at a position. -/
def OpenBlock.extend (block : OpenBlock) (p : Position) (text : List Char) : OpenBlock :=
  { block with
    text := block.text ++ String.ofList text
    span := block.span.union (.between p.offset (p.after text).offset) }

theorem openBlockAt_extend (p : Position) (quote : Char) (text more : List Char) :
    (openBlockAt p quote text).extend (p.after text) more = openBlockAt p quote (text ++ more) := by
  have hfirst : (p.after text).offset = p.offset + byteCount text := p.after_offset text
  have hboth : (p.after (text ++ more)).offset = (p.after text).offset + byteCount more := by
    rw [Position.after_append, Position.after_offset]
  -- the spans of both parts meet, so that their union is the span of the whole
  simp only [OpenBlock.extend, openBlockAt, Span.union, Span.between, OpenBlock.mk.injEq,
    Span.mk.injEq, String.ofList_append, ← Position.after_append, true_and]
  omega

/-- An open block is the text in front of the position, from some earlier position on. -/
def ScanMode.ReachesTo (mode : ScanMode) (p : Position) : Prop :=
  match mode with
  | .normal => True
  | .inBlock block =>
    block.quote ≠ '\n' ∧ ∃ q text, block = openBlockAt q block.quote text ∧ p = q.after text

/-- Scan a source from a position on, of which the part in front was scanned in another way and left
    this mode. -/
def Lexer.resume (lexer : Lexer) (p : Position) (cs : List Char) : ScanMode → List Token
  | .normal => lexer.scan p cs
  | .inBlock block =>
    match beforeTriple? block.quote cs with
    | some n =>
      let text := cs.take (n + 3)
      (block.extend p text).token .comment :: lexer.scan (p.after text) (cs.drop (n + 3))
    | none => [(block.extend p cs).token (lexer.unclosed.kind .comment)]

/-! ## Section 2: Steps of the one-pass scan -/

section steps
variable {lexer : Lexer} {p : Position} {c : Char} {cs rest : List Char} {kind : TokenKind}

@[simp] theorem scan_nil : lexer.scan p [] = [] := by rw [scan]

/-- A piece that becomes a token. -/
theorem scan_token {more : List Char} (hcs : cs = more ++ rest)
    (h : lexer.nextPiece c cs = ⟨some kind, more.length⟩) :
    lexer.scan p (c :: cs) =
      tokenAt p kind (c :: more) :: lexer.scan (p.after (c :: more)) rest := by
  rw [scan, h, hcs]
  simp

/-- A character that is skipped. -/
theorem scan_skip (h : lexer.nextPiece c cs = ⟨none, 0⟩) :
    lexer.scan p (c :: cs) = lexer.scan (p.after [c]) cs := by
  rw [scan, h]
  simp

theorem scan_blanks (hblank : ∀ b ∈ cs, Text.isBlank b = true) (hline : '\n' ∉ cs) :
    lexer.scan p (cs ++ rest) = lexer.scan (p.after cs) rest := by
  induction cs generalizing p with
  | nil => rfl
  | cons c cs ih =>
    rw [List.mem_cons, not_or] at hline
    obtain ⟨hc, hcs⟩ := List.forall_mem_cons.mp hblank
    have hpiece : lexer.nextPiece c (cs ++ rest) = ⟨none, 0⟩ := by
      rw [nextPiece, if_neg (Ne.symm hline.1), if_pos hc]
    rw [List.cons_append, scan_skip hpiece, ih hcs hline.2]
    rfl

/-- A line feed becomes a token only if line ends are shown. -/
theorem scan_newline :
    lexer.scan p ('\n' :: rest) =
      (if lexer.emitNewlines then [tokenAt p .newline ['\n']] else []) ++
        lexer.scan (p.after ['\n']) rest := by
  rw [scan, nextPiece, if_pos rfl]
  cases lexer.emitNewlines <;> simp

end steps

/-! ## Section 3: Ends of lines -/

section ends
variable {line : SourceLine} {cs rest : List Char} {quote : Char}

theorem SourceLine.withEnd_eq (line : SourceLine) (cs : List Char) :
    line.withEnd cs = cs ++ line.withEnd [] := by
  unfold SourceLine.withEnd
  split <;> simp

theorem SourceLine.append_withEnd (line : SourceLine) (cs ds : List Char) :
    cs ++ line.withEnd ds = line.withEnd (cs ++ ds) := by
  rw [line.withEnd_eq ds, line.withEnd_eq (cs ++ ds), List.append_assoc]

/-- What follows the text of a line in the source. -/
def SourceLine.tail (line : SourceLine) (rest : List Char) : List Char := line.withEnd [] ++ rest

theorem SourceLine.withEnd_append (line : SourceLine) (cs rest : List Char) :
    line.withEnd cs ++ rest = cs ++ line.tail rest := by
  rw [line.withEnd_eq cs, SourceLine.tail, List.append_assoc]

/-- Only at the end of the source a line can lack its line feed. -/
theorem SourceLine.endsLine_tail (h : line.terminated = false → rest = []) :
    EndsLine (line.tail rest) := by
  intro d hd
  unfold SourceLine.tail SourceLine.withEnd at hd
  cases hterminated : line.terminated with
  | false => simp [hterminated, h hterminated] at hd
  | true => simpa [hterminated, eq_comm] using hd

/-- If three quotes do not stand on a line, they stand behind it if anywhere. -/
theorem beforeTriple?_withEnd (hquote : quote ≠ '\n') (hnone : beforeTriple? quote cs = none)
    (hrest : line.terminated = false → rest = []) :
    beforeTriple? quote (line.withEnd cs ++ rest) =
      (beforeTriple? quote rest).map ((line.withEnd cs).length + ·) := by
  -- a line feed is not the quote, so the search passes over it
  have htail : beforeTriple? quote (line.tail rest) =
      (beforeTriple? quote rest).map ((line.withEnd []).length + ·) := by
    unfold SourceLine.tail SourceLine.withEnd
    split
    · rw [List.nil_append, List.singleton_append, beforeTriple?_cons, if_neg]
      · simp [Nat.add_comm]
      · simp [List.isPrefixOf, hquote]
    · simp
  rw [line.withEnd_append, beforeTriple?_append hquote (SourceLine.endsLine_tail hrest), hnone,
    htail, line.withEnd_eq cs]
  cases beforeTriple? quote rest with
  | none => rfl
  | some n => simp [Nat.add_assoc]

end ends

/-! ## Section 4: Open blocks -/

section blocks
variable {lexer : Lexer} {line : SourceLine} {p q : Position} {quote : Char}
  {cs rest text : List Char}

theorem nextPiece_block (hquote : isQuote quote = true) :
    lexer.nextPiece quote (quote :: quote :: cs) =
      match beforeTriple? quote cs with
      | some n => ⟨some .comment, 2 + n + 3⟩
      | none => ⟨some (lexer.unclosed.kind .comment), cs.length + 2⟩ := by
  obtain ⟨hfeed, -, hmark⟩ := ne_of_isQuote hquote
  rw [nextPiece, if_neg hfeed, if_neg (by simp [isBlank_of_isQuote hquote]), if_neg hmark,
    if_pos hquote, if_pos (by simp [List.isPrefixOf])]
  rfl

/-- Three quotes open a block in the source. -/
theorem scan_block (hquote : isQuote quote = true) :
    lexer.scan p (quote :: quote :: quote :: cs) =
      lexer.resume (p.after [quote, quote, quote]) cs
        (.inBlock (openBlockAt p quote [quote, quote, quote])) := by
  simp only [resume, openBlockAt_quote, openBlockAt_extend, ← Position.after_append]
  -- either the block takes all that is left, or it ends behind the closing quotes
  cases hn : beforeTriple? quote cs with
  | none =>
    have hpiece : lexer.nextPiece quote (quote :: quote :: cs) =
        ⟨some (lexer.unclosed.kind .comment), (quote :: quote :: cs).length⟩ := by
      rw [nextPiece_block hquote, hn]
      rfl
    rw [scan_token (List.append_nil _).symm hpiece, scan_nil]
    rfl
  | some n =>
    have hle := le_length_of_beforeTriple? hn
    have hpiece : lexer.nextPiece quote (quote :: quote :: cs) =
        ⟨some .comment, (quote :: quote :: cs.take (n + 3)).length⟩ := by
      rw [nextPiece_block hquote, hn]
      simp only [Piece.mk.injEq, true_and, List.length_cons, List.length_take]
      omega
    have hcs : quote :: quote :: cs = quote :: quote :: cs.take (n + 3) ++ cs.drop (n + 3) := by
      simp
    rw [scan_token hcs hpiece]
    rfl

/-- A line that does not close a block belongs to it as a whole. -/
theorem resume_withEnd (hquote : quote ≠ '\n') (hnone : beforeTriple? quote cs = none)
    (hrest : line.terminated = false → rest = []) :
    lexer.resume (q.after text) (line.withEnd cs ++ rest) (.inBlock (openBlockAt q quote text)) =
      lexer.resume (q.after (text ++ line.withEnd cs)) rest
        (.inBlock (openBlockAt q quote (text ++ line.withEnd cs))) := by
  simp only [resume, openBlockAt_quote, openBlockAt_extend, ← Position.after_append,
    beforeTriple?_withEnd hquote hnone hrest]
  cases hn : beforeTriple? quote rest with
  | none => simp
  | some n =>
    have htake : (line.withEnd cs ++ rest).take ((line.withEnd cs).length + n + 3) =
        line.withEnd cs ++ rest.take (n + 3) := by
      rw [Nat.add_assoc, List.take_length_add_append]
    have hdrop : (line.withEnd cs ++ rest).drop ((line.withEnd cs).length + n + 3) =
        rest.drop (n + 3) := by
      rw [Nat.add_assoc, List.drop_length_add_append]
    simp only [Option.map_some, htake, hdrop, List.append_assoc]

/-- A line that closes a block goes on behind the closing quotes. -/
theorem resume_closing {n : Nat} (hn : beforeTriple? quote cs = some n) (hquote : quote ≠ '\n')
    (hrest : EndsLine rest) :
    lexer.resume (q.after text) (cs ++ rest) (.inBlock (openBlockAt q quote text)) =
      tokenAt q .comment (text ++ cs.take (n + 3)) ::
        lexer.scan ((q.after text).after (cs.take (n + 3))) (cs.drop (n + 3) ++ rest) := by
  have hle := le_length_of_beforeTriple? hn
  simp only [resume, openBlockAt_quote, openBlockAt_extend, beforeTriple?_append hquote hrest, hn,
    Option.some_or, List.take_append_of_le_length hle, List.drop_append_of_le_length hle]
  rfl

end blocks

/-! ## Section 5: Parts of lines -/

section segments
variable {lexer : Lexer} {line : SourceLine} {p : Position} {c : Char} {cs rest : List Char}

/-- The scan of the source behind a part of a line: it goes on at the end of the line, or behind it
    inside a block comment. -/
def Lexer.scanBehind (lexer : Lexer) (line : SourceLine) (p : Position) (cs rest : List Char) :
    ScanMode → List Token
  | .normal => lexer.scan (p.after cs) (line.tail rest)
  | .inBlock block => lexer.resume (p.after (line.withEnd cs)) rest (.inBlock block)

/-- Scanning the part `cs` of a line gives the tokens that the scan of the source finds there, and
    the mode in which that scan goes on. -/
structure ScansSegment (lexer : Lexer) (line : SourceLine) (p : Position) (cs rest : List Char)
    (result : List Token × ScanMode) : Prop where
  scan_eq : lexer.scan p (cs ++ line.tail rest) =
    result.1 ++ lexer.scanBehind line p cs rest result.2
  reaches : result.2.ReachesTo (p.after (line.withEnd cs))

theorem scanBehind_append {text : List Char} (mode : ScanMode) :
    lexer.scanBehind line p (text ++ cs) rest mode =
      lexer.scanBehind line (p.after text) cs rest mode := by
  cases mode with
  | normal => rw [scanBehind, scanBehind, Position.after_append]
  | inBlock block =>
    rw [scanBehind, scanBehind, ← line.append_withEnd, Position.after_append]

/-- A piece in front of a part of a line adds its tokens. -/
theorem ScansSegment.prepend {text : List Char} {tokens : List Token}
    {result : List Token × ScanMode} (h : ScansSegment lexer line (p.after text) cs rest result)
    (hscan : lexer.scan p (text ++ (cs ++ line.tail rest)) =
      tokens ++ lexer.scan (p.after text) (cs ++ line.tail rest)) :
    ScansSegment lexer line p (text ++ cs) rest (tokens ++ result.1, result.2) := by
  constructor
  · rw [List.append_assoc, hscan, h.scan_eq, scanBehind_append, List.append_assoc]
  · rw [← line.append_withEnd, Position.after_append]
    exact h.reaches

/-- A lexeme that becomes a token is found by the scan of the source. -/
theorem scan_lexeme {kind : TokenKind} {lexeme : Lexeme} (hline : '\n' ∉ c :: cs)
    (hrest : line.terminated = false → rest = [])
    (hnext : Lexeme.next lexer.vocabulary lexer.unclosed c cs = lexeme)
    (hcls : lexeme.cls = .token kind) :
    lexer.scan p (lexeme.text ++ (lexeme.rest ++ line.tail rest)) =
      [tokenAt p kind lexeme.text] ++
        lexer.scan (p.after lexeme.text) (lexeme.rest ++ line.tail rest) := by
  subst hnext
  have hpiece := nextPiece_of_token hline (SourceLine.endsLine_tail hrest) hcls
  have happend := Lexeme.next_append lexer.vocabulary lexer.unclosed c cs
  -- a lexeme is not empty, and its first character is that of the part
  cases htext : (Lexeme.next lexer.vocabulary lexer.unclosed c cs).text with
  | nil => exact absurd htext (Lexeme.next_text_ne_nil _ _ _ _)
  | cons d more =>
    rw [htext, List.cons_append, List.cons.injEq] at happend
    obtain ⟨rfl, hcs⟩ := happend
    rw [htext] at hpiece
    rw [List.cons_append, scan_token rfl ?_]
    · rfl
    · rw [← List.append_assoc, hcs]
      exact hpiece

/-- A blank lexeme is skipped by the scan of the source. -/
theorem scan_blankLexeme {lexeme : Lexeme} {later : List Char} (hline : '\n' ∉ c :: cs)
    (hnext : Lexeme.next lexer.vocabulary lexer.unclosed c cs = lexeme)
    (hcls : lexeme.cls = .blank) :
    lexer.scan p (lexeme.text ++ later) = [] ++ lexer.scan (p.after lexeme.text) later := by
  subst hnext
  obtain ⟨hblank, hrun⟩ := next_of_blank hcls
  rw [hrun]
  apply scan_blanks
  · intro b hb
    rcases List.mem_cons.mp hb with rfl | hb
    · exact hblank
    · exact List.mem_takeWhile_imp hb
  · intro hmem
    apply hline
    rcases List.mem_cons.mp hmem with heq | hb
    · exact List.mem_cons.mpr (.inl heq)
    · exact List.mem_cons_of_mem c ((List.takeWhile_prefix _).subset hb)

/-- Behind a piece of a line all three units of the position have advanced by the piece. -/
theorem after_piece {column offset : Nat} {text later : List Char} (hline : '\n' ∉ text ++ later)
    (hstop : line.stop = offset + byteCount (line.withEnd (text ++ later)))
    (hp : p = ⟨line.number, column, offset⟩) :
    '\n' ∉ later ∧ line.stop = offset + byteCount text + byteCount (line.withEnd later) ∧
      p.after text = ⟨line.number, column + text.length, offset + byteCount text⟩ := by
  rw [List.mem_append, not_or] at hline
  refine ⟨hline.2, ?_, ?_⟩
  · rw [hstop, line.withEnd_eq (text ++ later), line.withEnd_eq later]
    simp only [byteCount_append]
    omega
  · rw [p.after_of_not_mem hline.1, hp]

/-- The scan of a part of a line, by induction along its lexemes. -/
theorem scansSegment (hrest : line.terminated = false → rest = []) (column offset : Nat)
    (cs : List Char) :
    ∀ {p : Position}, '\n' ∉ cs → line.stop = offset + byteCount (line.withEnd cs) →
      p = ⟨line.number, column, offset⟩ →
      ScansSegment lexer line p cs rest (lexer.scanSegment line column offset cs) := by
  -- the position is that of the program in all three units: they advance together with each lexeme
  fun_induction Lexer.scanSegment lexer line column offset cs with
  | case1 =>
    intro p _ _ _
    exact ⟨rfl, trivial⟩
  | case2 =>
    -- blank characters, which give no token
    rename_i column offset c cs lexeme stop hcls ih
    intro p hline hstop hp
    have happend : lexeme.text ++ lexeme.rest = c :: cs := Lexeme.next_append ..
    rw [← happend] at hstop
    obtain ⟨hlater, hstop', hplace⟩ := after_piece (happend ▸ hline) hstop hp
    have hall := (ih hlater hstop' hplace).prepend (scan_blankLexeme hline rfl hcls)
    rwa [happend] at hall
  | case3 =>
    -- a lexeme that is a token
    rename_i column offset c cs lexeme stop kind hcls tokens mode hmode ih
    intro p hline hstop hp
    have happend : lexeme.text ++ lexeme.rest = c :: cs := Lexeme.next_append ..
    rw [← happend] at hstop
    obtain ⟨hlater, hstop', hplace⟩ := after_piece (happend ▸ hline) hstop hp
    have hlexeme : tokenAt p kind lexeme.text =
        ⟨kind, String.ofList lexeme.text, line.number, column, .between offset stop⟩ := by
      rw [tokenAt, hplace, hp]
    have hall := (ih hlater hstop' hplace).prepend (scan_lexeme hline hrest rfl hcls)
    rwa [happend, hmode, hlexeme] at hall
  | case4 =>
    -- a block comment that the line leaves open
    rename_i column offset c cs lexeme quote hcls
    intro p hline hstop hp
    obtain ⟨hquote, htext, more, hmore, hnone⟩ := next_of_openBlock hcls
    obtain ⟨hfeed, -⟩ := ne_of_isQuote hquote
    have hlexeme : lexeme.text = c :: cs := htext
    have hblock : openBlockAt p quote (line.withEnd (c :: cs)) =
        ⟨quote, String.ofList (line.withEnd lexeme.text), line.number, column,
          .between offset line.stop⟩ := by
      rw [openBlockAt, Position.after_offset, hlexeme, hstop, hp]
    rw [← hblock]
    refine ⟨?_, hfeed, p, _, rfl, rfl⟩
    -- three quotes open the block, and the rest of the line goes into it
    have hends : line.withEnd (quote :: quote :: quote :: more) =
        [quote, quote, quote] ++ line.withEnd more := by
      rw [line.withEnd_eq, line.withEnd_eq more]
      rfl
    rw [hmore, List.cons_append, List.cons_append, List.cons_append, scan_block hquote,
      ← line.withEnd_append, resume_withEnd hfeed hnone hrest, ← hends]
    rfl

end segments

/-! ## Section 6: Lines -/

section lines
variable {lexer : Lexer} {line : SourceLine} {p : Position} {rest : List Char} {mode : ScanMode}

theorem SourceLine.stop_eq (line : SourceLine) :
    line.stop = line.offset + byteCount (line.withEnd line.text) := by
  unfold SourceLine.stop SourceLine.withEnd
  cases line.terminated with
  | false => simp
  | true =>
    have hfeed : byteCount ['\n'] = 1 := by decide
    simp [byteCount_append, hfeed, Nat.add_assoc]

/-- What a line gives in a mode, before its line feed is looked at. -/
def Lexer.scanText (lexer : Lexer) (mode : ScanMode) (line : SourceLine) : List Token × ScanMode :=
  match mode with
  | .normal => lexer.scanSegment line 1 line.offset line.text
  | .inBlock block => lexer.continueBlock line block

/-- A line without closing quotes goes into the block as a whole. -/
theorem continueBlock_of_none {block : OpenBlock}
    (hnone : beforeTriple? block.quote line.text = none) (hp : p = ⟨line.number, 1, line.offset⟩) :
    lexer.continueBlock line block = ([], .inBlock (block.extend p (line.withEnd line.text))) := by
  rw [continueBlock, throughTriple_eq, hnone, OpenBlock.extend, Position.after_offset, hp,
    line.stop_eq]
  rfl

/-- Behind closing quotes the rest of the line is scanned. -/
theorem continueBlock_of_some {block : OpenBlock} {n : Nat}
    (hn : beforeTriple? block.quote line.text = some n) (hp : p = ⟨line.number, 1, line.offset⟩) :
    lexer.continueBlock line block =
      ((block.extend p (line.text.take (n + 3))).token .comment ::
        (lexer.scanSegment line ((line.text.take (n + 3)).length + 1)
          (line.offset + byteCount (line.text.take (n + 3))) (line.text.drop (n + 3))).1,
        (lexer.scanSegment line ((line.text.take (n + 3)).length + 1)
          (line.offset + byteCount (line.text.take (n + 3))) (line.text.drop (n + 3))).2) := by
  rw [continueBlock, throughTriple_eq, hn, OpenBlock.extend, Position.after_offset, hp]
  rfl

/-- The scan of the source goes on in a mode as the lexer does on the next line. -/
theorem resume_text (hline : '\n' ∉ line.text) (hrest : line.terminated = false → rest = [])
    (hp : p = ⟨line.number, 1, line.offset⟩) (hmode : mode.ReachesTo p) :
    lexer.resume p (line.withEnd line.text ++ rest) mode =
        (lexer.scanText mode line).1 ++
          lexer.scanBehind line p line.text rest (lexer.scanText mode line).2 ∧
      (lexer.scanText mode line).2.ReachesTo (p.after (line.withEnd line.text)) := by
  cases mode with
  | normal =>
    obtain ⟨hscan, hreaches⟩ := scansSegment hrest 1 line.offset line.text hline line.stop_eq hp
    rw [resume, line.withEnd_append]
    exact ⟨hscan, hreaches⟩
  | inBlock block =>
    -- the mode names the position where the block began and the text since then
    obtain ⟨hquote, q, text, hblock, rfl⟩ := hmode
    generalize block.quote = quote at hquote hblock
    subst hblock
    cases hn : beforeTriple? quote line.text with
    | none =>
      -- the block takes the line and stays open
      rw [scanText, continueBlock_of_none hn hp, openBlockAt_extend]
      refine ⟨?_, hquote, q, _, rfl, (q.after_append ..).symm⟩
      rw [scanBehind, resume_withEnd hquote hn hrest, Position.after_append]
      rfl
    | some n =>
      -- the block ends on the line, and the lexer enters the line in the middle
      have hsplit : line.text.take (n + 3) ++ line.text.drop (n + 3) = line.text :=
        List.take_append_drop (n + 3) line.text
      have hstop : line.stop = line.offset +
          byteCount (line.withEnd (line.text.take (n + 3) ++ line.text.drop (n + 3))) := by
        rw [hsplit, line.stop_eq]
      obtain ⟨hlater, hstop', hplace⟩ := after_piece (hsplit.symm ▸ hline) hstop hp
      rw [Nat.add_comm 1] at hplace
      have hsegment : ScansSegment lexer line _ _ rest _ :=
        scansSegment hrest _ _ _ hlater hstop' hplace
      rw [scanText, continueBlock_of_some hn hp, openBlockAt_extend]
      constructor
      · rw [line.withEnd_append, resume_closing hn hquote (SourceLine.endsLine_tail hrest),
          hsegment.scan_eq, ← scanBehind_append, hsplit]
        rfl
      · have hreaches := hsegment.reaches
        rwa [← Position.after_append, line.append_withEnd, hsplit] at hreaches

/-- The line feed behind a line becomes the token that the lexer adds. -/
theorem newlineToken_eq (hline : '\n' ∉ line.text) (hp : p = ⟨line.number, 1, line.offset⟩) :
    newlineToken line = tokenAt (p.after line.text) .newline ['\n'] := by
  have hfeed : Char.utf8Size '\n' = 1 := by decide
  rw [p.after_of_not_mem hline, hp, tokenAt, Position.after_offset, newlineToken,
    Nat.add_comm line.text.length]
  simp [byteCount, hfeed]

/-- Outside of blocks the scan goes on at the line feed. -/
theorem scan_tail (hline : '\n' ∉ line.text) (hrest : line.terminated = false → rest = [])
    (hp : p = ⟨line.number, 1, line.offset⟩) :
    lexer.scan (p.after line.text) (line.tail rest) =
      (if line.terminated && lexer.emitNewlines then [newlineToken line] else []) ++
        lexer.scan (p.after (line.withEnd line.text)) rest := by
  cases hterminated : line.terminated with
  | false =>
    rw [SourceLine.tail, SourceLine.withEnd, hterminated, hrest hterminated]
    simp
  | true =>
    have htail : line.tail rest = '\n' :: rest := by
      simp [SourceLine.tail, SourceLine.withEnd, hterminated]
    have hends : line.withEnd line.text = line.text ++ ['\n'] := by
      simp [SourceLine.withEnd, hterminated]
    rw [htail, scan_newline, hends, Position.after_append, newlineToken_eq hline hp, Bool.true_and]

/-- The lexer adds the token for a line feed outside of blocks. -/
theorem scanLine_eq (lexer : Lexer) (mode : ScanMode) (line : SourceLine) :
    lexer.scanLine mode line =
      ((lexer.scanText mode line).1 ++
        (match (lexer.scanText mode line).2 with
          | .normal => if line.terminated && lexer.emitNewlines then [newlineToken line] else []
          | .inBlock _ => []),
        (lexer.scanText mode line).2) := by
  -- the line feed is looked at after the text, and in the same way in both modes
  have hbody : lexer.scanLine mode line =
      match (lexer.scanText mode line).2 with
      | .normal =>
        if line.terminated && lexer.emitNewlines then
          ((lexer.scanText mode line).1 ++ [newlineToken line], (lexer.scanText mode line).2)
        else lexer.scanText mode line
      | .inBlock _ => lexer.scanText mode line := by
    cases mode <;> rfl
  rw [hbody]
  obtain ⟨tokens, _ | block⟩ := lexer.scanText mode line
  · show (if _ then _ else _) = _
    split
    · rfl
    · rw [List.append_nil]
  · show (tokens, _) = _
    rw [List.append_nil]

/-- What one line adds to the tokens, and the mode in which the next line is scanned. -/
theorem resume_line (hline : '\n' ∉ line.text) (hrest : line.terminated = false → rest = [])
    (hp : p = ⟨line.number, 1, line.offset⟩) (hmode : mode.ReachesTo p) :
    lexer.resume p (line.withEnd line.text ++ rest) mode =
        (lexer.scanLine mode line).1 ++
          lexer.resume (p.after (line.withEnd line.text)) rest (lexer.scanLine mode line).2 ∧
      (lexer.scanLine mode line).2.ReachesTo (p.after (line.withEnd line.text)) := by
  obtain ⟨hresume, hreaches⟩ : _ ∧ (lexer.scanText mode line).2.ReachesTo _ :=
    resume_text hline hrest hp hmode
  rw [scanLine_eq]
  refine ⟨?_, hreaches⟩
  rw [hresume, List.append_assoc]
  cases (lexer.scanText mode line).2 with
  | normal => rw [scanBehind, scan_tail hline hrest hp, resume]
  | inBlock block => rw [scanBehind, List.nil_append]

end lines

/-! ## Section 7: Whole sources -/

section sources
variable {lexer : Lexer}

def joinLine (piece : List Char × Bool) : List Char :=
  if piece.2 then piece.1 ++ ['\n'] else piece.1

/-- No line has a line feed inside, and all but the last have one at the end. -/
def AreLines : List (List Char × Bool) → Prop
  | [] => True
  | (text, terminated) :: rest =>
    '\n' ∉ text ∧ (terminated = false → rest = []) ∧ AreLines rest

/-- A source is cut at its line feeds, and nothing is lost. -/
theorem splitLines_spec (cs : List Char) :
    AreLines (splitLines cs) ∧ (splitLines cs).flatMap joinLine = cs := by
  induction cs with
  | nil => exact ⟨trivial, rfl⟩
  | cons c cs ih =>
    unfold splitLines
    split
    · next hc =>
      subst hc
      exact ⟨⟨by simp, by simp, ih.1⟩, congrArg ('\n' :: ·) ih.2⟩
    · next hc =>
      split
      -- the last line of the source, without a line feed so far
      · next hnil =>
        rw [hnil] at ih
        exact ⟨⟨by simpa using Ne.symm hc, fun _ => rfl, trivial⟩, congrArg (c :: ·) ih.2⟩
      · next text terminated rest hcons =>
        rw [hcons] at ih
        obtain ⟨⟨htext, hlast, hrest⟩, hjoin⟩ := ih
        refine ⟨⟨by simp [Ne.symm hc, htext], hlast, hrest⟩, ?_⟩
        rw [List.flatMap_cons] at hjoin ⊢
        rw [← hjoin]
        cases terminated <;> rfl

/-- A text up to a line feed is a line. -/
theorem splitLines_line {cs : List Char} (h : '\n' ∉ cs) (rest : List Char) :
    splitLines (cs ++ '\n' :: rest) = (cs, true) :: splitLines rest := by
  induction cs with
  | nil => rw [List.nil_append, splitLines, if_pos rfl]
  | cons c cs ih =>
    rw [List.mem_cons, not_or] at h
    rw [List.cons_append, splitLines, if_neg (Ne.symm h.1), ih h.2]

/-- The lines of a text that is written line by line are those lines. -/
theorem splitLines_flatMap {lines : List (List Char)} (h : ∀ cs ∈ lines, '\n' ∉ cs) :
    splitLines (lines.flatMap (· ++ ['\n'])) = lines.map (·, true) := by
  induction lines with
  | nil => rfl
  | cons cs lines ih =>
    obtain ⟨hline, hlines⟩ := List.forall_mem_cons.mp h
    rw [List.flatMap_cons, List.append_assoc, List.singleton_append, splitLines_line hline,
      ih hlines, List.map_cons]

/-- A block that is still open at the end of the source has taken all of it. -/
theorem resume_nil {p : Position} {mode : ScanMode} (hmode : mode.ReachesTo p) :
    lexer.resume p [] mode = lexer.atEnd mode := by
  cases mode with
  | normal => rw [resume, scan_nil, atEnd]
  | inBlock block =>
    -- no closing quotes stand in what is left, which is nothing
    obtain ⟨-, q, text, hblock, rfl⟩ := hmode
    generalize block.quote = quote at hblock
    subst hblock
    rw [resume, atEnd, openBlockAt_extend, List.append_nil]
    rfl

/-- The lexer on the lines of a source, by induction on the lines. -/
theorem scanLines_tokens {number offset : Nat} {mode : ScanMode} {p : Position}
    {counts : Statistics} {pieces : List (List Char × Bool)} (hlines : AreLines pieces)
    (hp : pieces ≠ [] → p = ⟨number, 1, offset⟩) (hmode : mode.ReachesTo p) :
    (lexer.scanLines mode counts (placeLines number offset pieces)).tokens =
      lexer.resume p (pieces.flatMap joinLine) mode := by
  -- mode, position and counts change from line to line; the counts have no part in the tokens
  induction pieces generalizing number offset mode p counts with
  | nil => exact (resume_nil hmode).symm
  | cons piece pieces ih =>
    obtain ⟨text, terminated⟩ := piece
    obtain ⟨htext, hlast, hlater⟩ := hlines
    have hplace : p = ⟨number, 1, offset⟩ := hp (List.cons_ne_nil _ _)
    let line : SourceLine := ⟨text, number, offset, terminated⟩
    have hrest : line.terminated = false → pieces.flatMap joinLine = [] := by
      intro hterminated
      rw [hlast hterminated, List.flatMap_nil]
    obtain ⟨hresume, hreaches⟩ : _ ∧ (lexer.scanLine mode line).2.ReachesTo _ :=
      resume_line htext hrest hplace hmode
    -- the next line starts behind the line feed
    have hnext : pieces ≠ [] → p.after (line.withEnd line.text) =
        ⟨number + 1, 1, offset + byteCount text + terminated.toNat⟩ := by
      intro hne
      cases terminated with
      | false => exact absurd (hlast rfl) hne
      | true =>
        show p.after (text ++ ['\n']) = _
        rw [Position.after_append, p.after_of_not_mem htext, hplace]
        rfl
    have hstep : (lexer.scanLines mode counts
        (placeLines number offset ((text, terminated) :: pieces))).tokens =
        (lexer.scanLine mode line).1 ++
          (lexer.scanLines (lexer.scanLine mode line).2
            ((lexer.scanLine mode line).1.foldl Statistics.record counts)
            (placeLines (number + 1) (offset + byteCount text + terminated.toNat) pieces)).tokens :=
      rfl
    have hjoin : ((text, terminated) :: pieces).flatMap joinLine =
        line.withEnd line.text ++ pieces.flatMap joinLine :=
      List.flatMap_cons
    rw [hstep, ih hlater hnext hreaches, hjoin, hresume]

/-- The lexer and the one-pass scanner agree. -/
theorem analyze_tokens (lexer : Lexer) (source : String) :
    (lexer.analyze source).tokens = lexer.scan .start source.toList := by
  obtain ⟨hlines, hjoin⟩ := splitLines_spec source.toList
  have hstart : ScanMode.normal.ReachesTo .start := trivial
  have hplace : splitLines source.toList ≠ [] → Position.start = ⟨1, 1, 0⟩ := fun _ => rfl
  rw [analyze, sourceLines, scanLines_tokens hlines hplace hstart, hjoin, resume]

/-- Reading line by line gives the tokens of one scan over the undivided source. -/
theorem tokenize_eq_scan (lexer : Lexer) (source : String) :
    lexer.tokenize source = lexer.scan .start source.toList :=
  analyze_tokens lexer source

end sources

end ScriptCheck
