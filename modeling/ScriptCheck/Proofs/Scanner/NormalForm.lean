import ScriptCheck.Proofs.Scanner.Classes
import ScriptCheck.Proofs.Scanner.Options

/-! # One Token on a Line

  A source can be written again with every token on a line of its own. What
  stood between the tokens is lost, and nothing else: the new text has the same
  tokens, kind by kind and lexeme by lexeme.

  A lexeme that was cut out of a source is read again as a whole when a line feed
  follows it, whatever followed it there. A block comment without closing quotes
  would not stop at the line feed, but it is the last token and nothing follows.
-/

namespace ScriptCheck

open Lexer

/-! ## Section 1: A piece by itself -/

section pieces
variable {lexer : Lexer} {c quote : Char} {cs tail : List Char} {kind : TokenKind} {more n : Nat}

/-- A run that stopped stops again at a line feed. -/
theorem takeWhile_take_append {p : Char → Bool} (hp : p '\n' = false) (ht : EndsLine tail) :
    (cs.take (cs.takeWhile p).length ++ tail).takeWhile p = cs.takeWhile p := by
  rw [← List.prefix_iff_eq_take.mp (List.takeWhile_prefix p), takeWhile_append_of_endsLine hp ht,
    List.takeWhile_eq_self_iff]
  intro d hd
  exact List.mem_takeWhile_imp hd

/-- The rest of a line is the rest of it again. -/
theorem restOfLine_take_append (ht : EndsLine tail) :
    restOfLine (cs.take (restOfLine cs).length ++ tail) = restOfLine cs :=
  takeWhile_take_append (by decide) ht

/-- A block comment ends at the same quotes. -/
theorem beforeTriple?_take_append (hquote : quote ≠ '\n') (ht : EndsLine tail)
    (h : beforeTriple? quote cs = some n) :
    beforeTriple? quote (cs.take (n + 3) ++ tail) = some n := by
  rw [beforeTriple?_append hquote ht, beforeTriple?_take h, Option.some_or]

/-- A quoted text ends at the same quote. -/
theorem throughClosing?_take_append (hquote : quote ≠ '\\') (ht : EndsLine tail)
    (h : throughClosing? quote (restOfLine cs) = some n) :
    throughClosing? quote (restOfLine (cs.take n ++ tail)) = some n := by
  have hle := length_le_of_throughClosing? hquote h
  obtain ⟨later, hlater⟩ : restOfLine cs <+: cs := List.takeWhile_prefix _
  -- the text up to the closing quote lies on the line, so that nothing cuts it short
  have htake : cs.take n = (restOfLine cs).take n := by
    rw [← List.take_append_of_le_length hle, hlater]
  have hline : '\n' ∉ (restOfLine cs).take n := by
    intro hmem
    have := List.mem_takeWhile_imp (List.mem_of_mem_take hmem)
    simp at this
  rw [htake, restOfLine_append hline ht]
  simpa using throughClosing?_take h []

/-- Two quotes do not become three. -/
theorem isPrefixOf_take_append (hc : c ≠ '\n') (ht : EndsLine tail)
    (h : [c, c].isPrefixOf cs = false) (n : Nat) :
    [c, c].isPrefixOf (cs.take n ++ tail) = false := by
  have hmem : '\n' ∉ [c, c] := by simpa using Ne.symm hc
  rw [isPrefixOf_append_of_endsLine hmem ht]
  rw [Bool.eq_false_iff, ne_eq, List.isPrefixOf_iff_prefix] at h ⊢
  intro htake
  exact h (htake.trans (List.take_prefix n cs))

/-- An operator is the longest one with which it starts. -/
theorem longestPrefix?_self : ∀ op ∈ operators, longestPrefix? op.toList = some op := by
  decide

theorem longestPrefix?_take_append (ht : EndsLine tail) {op : String}
    (h : longestPrefix? (c :: cs) = some op) :
    longestPrefix? (c :: (cs.take (op.length - 1) ++ tail)) = some op := by
  obtain ⟨hmem, hlexeme⟩ := lexeme_of_longestPrefix? h
  have htext : c :: cs.take (op.length - 1) = op.toList := by
    rw [← String.toList_ofList (l := c :: cs.take (op.length - 1)), hlexeme]
  rw [← List.cons_append, longestPrefix?_append ht, htext, longestPrefix?_self op hmem]

/-- A character that starts no operator starts none by itself. -/
theorem longestPrefix?_singleton_append (ht : EndsLine tail) (h : longestPrefix? (c :: cs) = none) :
    longestPrefix? (c :: tail) = none := by
  rw [← List.singleton_append, longestPrefix?_append ht]
  rw [longestPrefix?, List.argmax_eq_none, List.filter_eq_nil_iff] at h ⊢
  intro op hop hstarts
  apply h op hop
  rw [List.isPrefixOf_iff_prefix] at hstarts ⊢
  exact hstarts.trans (List.prefix_append [c] cs)

/-- What became a token becomes the same token when a line feed follows, or when nothing follows if
    it was the end of the source. -/
theorem Lexer.ReadsPiece.take_append (h : lexer.ReadsPiece c cs ⟨some kind, more⟩)
    (hemit : lexer.emitNewlines = false) (ht : EndsLine tail)
    (hlast : cs.drop more = [] → tail = []) :
    lexer.ReadsPiece c (cs.take more ++ tail) ⟨some kind, more⟩ := by
  -- by classes: each piece stops by itself, at a line feed, or at the end of the source
  cases h with
  | lineEnd hc hemit' =>
    rw [hemit] at hemit'
    cases hemit'
  | lineComment hc =>
    have hpiece : lexer.ReadsPiece c (cs.take (restOfLine cs).length ++ tail) _ := .lineComment hc
    rwa [restOfLine_take_append ht] at hpiece
  | @closedBlock rest n hc hcs hn =>
    subst hcs
    have htake : (c :: c :: rest).take (2 + n + 3) = c :: c :: rest.take (n + 3) := by
      rw [Nat.add_assoc, Nat.add_comm]
      rfl
    rw [htake]
    exact .closedBlock hc rfl (beforeTriple?_take_append (ne_of_isQuote hc).1 ht hn)
  | openBlock hc hcs hn =>
    -- the comment would go on with what follows, but it was the end of the source
    obtain rfl := hlast List.drop_length
    rw [List.take_length, List.append_nil]
    exact .openBlock hc hcs hn
  | closedString hc hsingle hn =>
    obtain ⟨hfeed, hbackslash, -⟩ := ne_of_isQuote hc
    exact .closedString hc (isPrefixOf_take_append hfeed ht hsingle more)
      (throughClosing?_take_append hbackslash ht hn)
  | openString hc hsingle hn =>
    have hrest : restOfLine (cs.take (restOfLine cs).length ++ tail) = restOfLine cs :=
      restOfLine_take_append ht
    have hpiece : lexer.ReadsPiece c (cs.take (restOfLine cs).length ++ tail) _ :=
      .openString hc (isPrefixOf_take_append (ne_of_isQuote hc).1 ht hsingle _) (by rw [hrest, hn])
    rwa [hrest] at hpiece
  | word hc hword =>
    have hpiece : lexer.ReadsPiece c (cs.take (cs.takeWhile continuesWord).length ++ tail) _ :=
      .word hc hword
    rwa [takeWhile_take_append (by decide) ht] at hpiece
  | number hc hword hdigit =>
    have hpiece : lexer.ReadsPiece c (cs.take (cs.takeWhile continuesNumber).length ++ tail) _ :=
      .number hc hword hdigit
    rwa [takeWhile_take_append (by decide) ht] at hpiece
  | operator hc hword hdigit hop =>
    exact .operator hc hword hdigit (longestPrefix?_take_append ht hop)
  | single hc hword hdigit hop =>
    exact .single hc hword hdigit (longestPrefix?_singleton_append ht hop)

end pieces

/-! ## Section 2: Lines of single tokens -/

/-- The lexemes of some tokens, each on a line of its own. -/
def onePerLine (tokens : List Token) : String := "\n".intercalate (tokens.map (·.lexeme))

/-- What a token is, wherever it stands. -/
def Token.content (t : Token) : TokenKind × String := (t.kind, t.lexeme)

/-- The lines behind a token. -/
def linesBehind : List Token → List Char
  | [] => []
  | t :: tokens => '\n' :: (onePerLine (t :: tokens)).toList

theorem onePerLine_cons (t : Token) (tokens : List Token) :
    (onePerLine (t :: tokens)).toList = t.lexeme.toList ++ linesBehind tokens := by
  cases tokens with
  | nil => simp [onePerLine, linesBehind]
  | cons u tokens => simp [onePerLine, linesBehind, String.intercalate_cons_cons]

theorem endsLine_linesBehind (tokens : List Token) : EndsLine (linesBehind tokens) := by
  cases tokens with
  | nil => simp [EndsLine, linesBehind]
  | cons t tokens => simp [EndsLine, linesBehind]

section scans
variable {lexer : Lexer}

/-- The line feed behind a token only leads to the next one. -/
theorem scan_linesBehind (hemit : lexer.emitNewlines = false) (p : Position) (tokens : List Token) :
    lexer.scan p (linesBehind tokens) =
      lexer.scan (match tokens with | [] => p | _ :: _ => p.after ['\n'])
        (onePerLine tokens).toList := by
  cases tokens with
  | nil => simp [linesBehind, onePerLine]
  | cons t tokens =>
    rw [linesBehind, scan_newline, hemit]
    rfl

/-- Tokens that were scanned are scanned again from their lines, by induction along the pieces. -/
theorem scan_onePerLine (hemit : lexer.emitNewlines = false) (p q : Position) (cs : List Char) :
    (lexer.scan q (onePerLine (lexer.scan p cs)).toList).map Token.content =
      (lexer.scan p cs).map Token.content := by
  -- the two scans stand at different places, and only kinds and lexemes are compared
  induction p, cs using pieceInduction generalizing q with
  | nil p => rw [scan_nil]; simp [onePerLine]
  | cons p c cs ih =>
    have hreads := readsPiece_nextPiece lexer c cs
    generalize hpiece : lexer.nextPiece c cs = piece at hreads
    obtain ⟨kind, more⟩ := piece
    cases kind with
    | none =>
      have hscan : lexer.scan p (c :: cs) =
          lexer.scan (p.after (c :: cs.take more)) (cs.drop more) := by rw [scan, hpiece]
      rw [hscan]
      exact ih _ _ q
    | some kind =>
      have hscan : lexer.scan p (c :: cs) = tokenAt p kind (c :: cs.take more) ::
          lexer.scan (p.after (c :: cs.take more)) (cs.drop more) := by rw [scan, hpiece]
      -- only behind the last token nothing is left, and then no line feed is written
      have hlast : cs.drop more = [] →
          linesBehind (lexer.scan (p.after (c :: cs.take more)) (cs.drop more)) = [] := by
        intro hnil
        rw [hnil, scan_nil]
        rfl
      have hagain := (hreads.take_append hemit (endsLine_linesBehind _) hlast).nextPiece_eq
      have hlength : (cs.take more).length = more := List.length_take_of_le hreads.more_le
      have htext : (tokenAt p kind (c :: cs.take more)).lexeme.toList = c :: cs.take more := by
        rw [tokenAt, String.toList_ofList]
      rw [hscan, onePerLine_cons, htext, List.cons_append, scan_token rfl (by rw [hlength, hagain]),
        scan_linesBehind hemit, List.map_cons, List.map_cons, ih]
      rfl

/-- A text with the tokens of a source on a line each has the same tokens: one token on a line is a
    normal form of sources. -/
theorem tokenize_onePerLine (lexer : Lexer) (hemit : lexer.emitNewlines = false) (source : String) :
    (lexer.tokenize (onePerLine (lexer.tokenize source))).map Token.content =
      (lexer.tokenize source).map Token.content := by
  rw [tokenize, tokenize, analyze_tokens, analyze_tokens]
  exact scan_onePerLine hemit .start .start source.toList

/-- The lines show again that the tokens touched, and a comment that is not closed is the last. -/
theorem tokenize_onePerLine_unclosed :
    let lexer : Lexer := { unclosed := .truncate }
    let source := "1.5and 'b\\\n  '''c\nd'''!\"\"\"e # f\n"
    lexer.emitNewlines = false ∧
      onePerLine (lexer.tokenize source) =
        "1.5\nand\n'b\\\n'''c\nd'''\n!\n\"\"\"e # f\n" ∧
      (lexer.tokenize (onePerLine (lexer.tokenize source))).map Token.content =
        (lexer.tokenize source).map Token.content := by
  intro lexer source
  have hemit : lexer.emitNewlines = false := rfl
  exact ⟨hemit, by decide +kernel, tokenize_onePerLine lexer hemit source⟩

end scans

end ScriptCheck
