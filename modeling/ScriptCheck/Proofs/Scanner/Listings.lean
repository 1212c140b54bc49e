import ScriptCheck.Proofs.Scanner.Options

/-! # Listings under Different Options

  The options of a lexer change what they name and nothing else. Line ends are
  added or left out without touching the other tokens; they are the line feeds
  that no other token covers, so that a line feed inside a block comment is never
  one. The other tokens differ in kind only, and each count by what these
  differences in kind are worth.
-/

namespace ScriptCheck

open Lexer

/-! ## Section 1: Line ends -/

/-- The places of the line feeds in a text that starts at a position. -/
def lineFeeds (p : Position) : List Char → List Position
  | [] => []
  | c :: cs => if c = '\n' then p :: lineFeeds (p.step c) cs else lineFeeds (p.step c) cs

theorem lineFeeds_append (p : Position) (cs ds : List Char) :
    lineFeeds p (cs ++ ds) = lineFeeds p cs ++ lineFeeds (p.after cs) ds := by
  induction cs generalizing p with
  | nil => rfl
  | cons c cs ih =>
    rw [List.cons_append, lineFeeds, lineFeeds, ih, Position.after_cons]
    split <;> simp

theorem exists_of_mem_lineFeeds {p q : Position} {cs : List Char} (h : q ∈ lineFeeds p cs) :
    ∃ before after, cs = before ++ '\n' :: after ∧ q = p.after before := by
  induction cs generalizing p with
  | nil => cases h
  | cons c cs ih =>
    have hlater (hq : q ∈ lineFeeds (p.step c) cs) :
        ∃ before after, c :: cs = before ++ '\n' :: after ∧ q = p.after before := by
      obtain ⟨before, after, rfl, rfl⟩ := ih hq
      exact ⟨c :: before, after, rfl, rfl⟩
    rw [lineFeeds] at h
    split at h
    · next hc =>
      subst hc
      rcases List.mem_cons.mp h with rfl | h
      · exact ⟨[], cs, rfl, rfl⟩
      · exact hlater h
    · exact hlater h

instance (s : Span) (offset : Nat) : Decidable (s.Covers offset) :=
  inferInstanceAs (Decidable (_ ∧ _))

/-- The places of the line feeds that none of the tokens covers. -/
def freeLineFeeds (p : Position) (cs : List Char) (tokens : List Token) : List Position :=
  (lineFeeds p cs).filter fun q => ∀ t ∈ tokens, ¬ t.span.Covers q.offset

section free
variable {p : Position} {c : Char} {cs text : List Char} {tokens : List Token}

theorem freeLineFeeds_cons_of_ne (hc : c ≠ '\n') :
    freeLineFeeds p (c :: cs) tokens = freeLineFeeds (p.after [c]) cs tokens := by
  simp [freeLineFeeds, lineFeeds, hc]

/-- A line feed is free if the tokens come behind it. -/
theorem freeLineFeeds_lineFeed (h : ∀ t ∈ tokens, (p.after ['\n']).offset ≤ t.span.start) :
    freeLineFeeds p ('\n' :: cs) tokens = p :: freeLineFeeds (p.after ['\n']) cs tokens := by
  have hfree : ∀ t ∈ tokens, ¬ t.span.Covers p.offset := by
    intro t ht hcovers
    have hbehind := h t ht
    have hsize := '\n'.utf8Size_pos
    rw [Position.after_cons, Position.after_nil, Position.step_offset] at hbehind
    have := hcovers.1
    omega
  rw [freeLineFeeds, lineFeeds, if_pos rfl, List.filter_cons_of_pos (by simpa using hfree)]
  rfl

/-- The line feeds in a token are not free. Those behind it are if the other tokens leave them
    free. -/
theorem freeLineFeeds_token (kind : TokenKind) :
    freeLineFeeds p (text ++ cs) (tokenAt p kind text :: tokens) =
      freeLineFeeds (p.after text) cs tokens := by
  have hstart : (tokenAt p kind text).span.start = p.offset := rfl
  have hstop := Tiles.tokenAt_stop p kind text
  -- the token covers every offset of its text, and none behind it
  have hcovered : (lineFeeds p text).filter
      (fun q => ∀ t ∈ tokenAt p kind text :: tokens, ¬ t.span.Covers q.offset) = [] := by
    rw [List.filter_eq_nil_iff]
    intro q hq hfree
    obtain ⟨before, after, rfl, rfl⟩ := exists_of_mem_lineFeeds hq
    have hpos : 0 < byteCount ('\n' :: after) := byteCount_pos (List.cons_ne_nil '\n' after)
    refine of_decide_eq_true hfree _ List.mem_cons_self ?_
    rw [Span.Covers, hstart, hstop, Position.after_offset, Position.after_offset, byteCount_append]
    omega
  have hbehind (q : Position) (hq : q ∈ lineFeeds (p.after text) cs) :
      ¬ (tokenAt p kind text).span.Covers q.offset := by
    obtain ⟨before, after, -, rfl⟩ := exists_of_mem_lineFeeds hq
    rw [Span.Covers, hstop, Position.after_offset (p.after text)]
    omega
  rw [freeLineFeeds, lineFeeds_append, List.filter_append, hcovered, List.nil_append,
    freeLineFeeds]
  apply List.filter_congr
  intro q hq
  simp [hbehind q hq]

end free

def onlyNewlines (tokens : List Token) : List Token := tokens.filter (·.kind == .newline)

theorem onlyNewlines_cons {t : Token} (h : t.kind ≠ .newline) (tokens : List Token) :
    onlyNewlines (t :: tokens) = onlyNewlines tokens := by
  simp [onlyNewlines, h]

namespace Lexer

variable {lexer : Lexer}

/-- A lexer gives out line ends only if it is asked to. -/
theorem onlyNewlines_scan_of_not_emitted (h : lexer.emitNewlines = false) (p : Position)
    (cs : List Char) : onlyNewlines (lexer.scan p cs) = [] := by
  rw [onlyNewlines, List.filter_eq_nil_iff]
  intro t ht hnewline
  obtain ⟨q, c, rest, hkind, -⟩ := exists_piece ht
  rw [beq_iff_eq.mp hnewline] at hkind
  by_cases hline : c = '\n'
  · subst hline
    simp [nextPiece_lineFeed, h] at hkind
  · exact lexer.kind_ne_newline rest hline hkind

/-- Then they are the line feeds that no other token covers. -/
theorem onlyNewlines_scan (h : lexer.emitNewlines = true) (p : Position) (cs : List Char) :
    onlyNewlines (lexer.scan p cs) =
      (freeLineFeeds p cs (withoutNewlines (lexer.scan p cs))).map (tokenAt · .newline ['\n']) := by
  induction p, cs using pieceInduction with
  | nil p =>
    rw [scan]
    rfl
  | cons p c cs ih =>
    -- a line feed at which the scan stands belongs to no other token, so it is free
    by_cases hline : c = '\n'
    · subst hline
      have hbehind : ∀ t ∈ withoutNewlines (lexer.scan (p.after ['\n']) cs),
          (p.after ['\n']).offset ≤ t.span.start := by
        intro t ht
        exact (tiles_scan lexer _ cs).offset_le_start t (List.mem_of_mem_filter ht)
      have hscan : lexer.scan p ('\n' :: cs) =
          tokenAt p .newline ['\n'] :: lexer.scan (p.after ['\n']) cs := by
        rw [scan, nextPiece_lineFeed, h]
        rfl
      rw [hscan, withoutNewlines_cons_of_newline rfl, freeLineFeeds_lineFeed hbehind,
        List.map_cons]
      exact congrArg _ (ih (p.after ['\n']) 0)
    · cases hkind : (lexer.nextPiece c cs).kind with
      | none =>
        have hskip : lexer.nextPiece c cs = ⟨none, 0⟩ := by
          rw [← hkind, ← (skips_of_nextPiece hkind).2]
        rw [scan_skip hskip, freeLineFeeds_cons_of_ne hline]
        exact ih (p.after [c]) 0
      | some kind =>
        -- the piece may contain line feeds, as a block comment does; it covers them all
        have hne : kind ≠ .newline := by
          rintro rfl
          exact lexer.kind_ne_newline cs hline hkind
        have hsplit : c :: cs = (c :: cs.take (lexer.nextPiece c cs).more) ++
            cs.drop (lexer.nextPiece c cs).more := by simp
        rw [scan]
        simp only [hkind]
        rw [withoutNewlines_cons hne, hsplit, freeLineFeeds_token, onlyNewlines_cons hne]
        exact ih _ _

end Lexer

/-! ## Section 2: Counts -/

/-- What the tokens add to a category together. -/
def Category.total (category : Category) : List Token → Nat
  | [] => 0
  | t :: tokens => category.contribution t + category.total tokens

theorem Category.total_cons (category : Category) (t : Token) (tokens : List Token) :
    category.total (t :: tokens) = category.contribution t + category.total tokens :=
  rfl

/-- Line ends are not counted. -/
theorem Category.total_withoutNewlines (category : Category) (tokens : List Token) :
    category.total (withoutNewlines tokens) = category.total tokens := by
  induction tokens with
  | nil => rfl
  | cons t tokens ih =>
    by_cases ht : t.kind = .newline
    · have hnone : category.contribution t = 0 := by cases category <;> simp [contribution, ht]
      rw [withoutNewlines_cons_of_newline ht, ih, total_cons, hnone, Nat.zero_add]
    · rw [withoutNewlines_cons ht, total_cons, total_cons, ih]

theorem Statistics.get_foldl_record (s : Statistics) (tokens : List Token) (category : Category) :
    (tokens.foldl record s).get category = s.get category + category.total tokens := by
  induction tokens generalizing s with
  | nil => simp [Category.total]
  | cons t tokens ih =>
    rw [List.foldl_cons, ih, get_record, Category.total_cons, Nat.add_assoc]

/-- Counting line by line counts all tokens. -/
theorem Lexer.statistics_scanLines (lexer : Lexer) (mode : ScanMode) (counts : Statistics)
    (lines : List SourceLine) :
    (lexer.scanLines mode counts lines).statistics =
      (lexer.scanLines mode counts lines).tokens.foldl Statistics.record counts := by
  induction lines generalizing mode counts with
  | nil => rfl
  | cons line lines ih =>
    rw [scanLines]
    simp only [ih, List.foldl_append]

/-- A count is what the tokens add to its category. -/
theorem Lexer.get_statistics (lexer : Lexer) (source : String) (category : Category) :
    (lexer.analyze source).statistics.get category = category.total (lexer.tokenize source) := by
  rw [analyze, statistics_scanLines, Statistics.get_foldl_record, Statistics.get_empty,
    Nat.zero_add]
  rfl

/-- The pairs of tokens in the same place whose kinds differ. -/
def kindChanges (tokens tokens' : List Token) : List (Token × Token) :=
  (tokens.zip tokens').filter fun pair => pair.1.kind ≠ pair.2.kind

/-- Totals differ by what the changes of kind are worth. -/
theorem Category.total_add_changes (category : Category) {tokens tokens' : List Token}
    {lexer lexer' : Lexer} (h : List.Forall₂ (Lexer.Counterpart lexer lexer') tokens tokens') :
    category.total tokens + category.total ((kindChanges tokens tokens').map Prod.snd) =
      category.total tokens' + category.total ((kindChanges tokens tokens').map Prod.fst) := by
  induction h with
  | nil => rfl
  | @cons t u tokens tokens' hpair htail ih =>
    rw [total_cons, total_cons]
    -- what a token adds depends on its kind and its characters, and the characters are the same
    by_cases hkind : t.kind = u.kind
    · have hsame : category.contribution u = category.contribution t := by
        simp [contribution, hkind, Token.charCount, hpair.lexeme]
      have hchanges : kindChanges (t :: tokens) (u :: tokens') = kindChanges tokens tokens' := by
        simp [kindChanges, hkind]
      rw [hsame, hchanges]
      omega
    · have hchanges : kindChanges (t :: tokens) (u :: tokens') =
          (t, u) :: kindChanges tokens tokens' := by
        simp [kindChanges, hkind]
      simp only [hchanges, List.map_cons, total_cons]
      omega

/-! ## Section 3: The main result -/

/-- The options of a lexer change what they name. Under any two lexers the tokens of a source, line
    ends apart, agree one by one in text and place, and their kinds differ just at the words that
    one lexer reserves and the other one does not and, where unclosed texts are treated
    differently, at the texts that are not closed. Line ends, where they are given out, are the
    line feeds that no other token covers, in the order of the source like all tokens. The counts
    of the two lexers differ by what the changes of kind are worth. -/
theorem options_change_what_they_name (lexer lexer' : Lexer) (source : String)
    (hv : lexer.vocabulary.IsReachable) (hv' : lexer'.vocabulary.IsReachable) :
    List.Forall₂ (Counterpart lexer lexer') (withoutNewlines (lexer.tokenize source))
        (withoutNewlines (lexer'.tokenize source)) ∧
      onlyNewlines (lexer.tokenize source) =
        (if lexer.emitNewlines then
          (freeLineFeeds .start source.toList (withoutNewlines (lexer.tokenize source))).map
            (tokenAt · .newline ['\n'])
        else []) ∧
      (lexer.tokenize source).Pairwise (fun t u => t.span.stop ≤ u.span.start) ∧
      ∀ category,
        let changes := kindChanges (withoutNewlines (lexer.tokenize source))
          (withoutNewlines (lexer'.tokenize source))
        (lexer.analyze source).statistics.get category + category.total (changes.map Prod.snd) =
          (lexer'.analyze source).statistics.get category +
            category.total (changes.map Prod.fst) := by
  have hscan : lexer.tokenize source = lexer.scan .start source.toList := by
    rw [tokenize, analyze_tokens]
  have hpairs := counterparts_tokenize hv hv' source
  refine ⟨hpairs, ?_, ?_, ?_⟩
  · rw [hscan]
    split
    · next hemit => exact onlyNewlines_scan hemit .start source.toList
    · next hemit =>
      exact onlyNewlines_scan_of_not_emitted (by simpa using hemit) .start source.toList
  · rw [hscan]
    exact (tiles_scan lexer .start source.toList).pairwise
  · intro category changes
    rw [get_statistics, get_statistics, ← category.total_withoutNewlines (lexer.tokenize source),
      ← category.total_withoutNewlines (lexer'.tokenize source)]
    exact category.total_add_changes hpairs

/-- The theorem at a source with a word that only one lexer reserves, a text that is not closed and
    a line feed inside a block comment. -/
theorem options_change_what_they_name_sample :
    let lexer : Lexer := { vocabulary := ⟨Vocabulary.standard.keywords ++ ["let"]⟩ }
    let lexer' : Lexer := { emitNewlines := true, unclosed := .truncate }
    let source := "let x\n'''a\n''' 'b"
    List.Forall₂ (Counterpart lexer lexer') (withoutNewlines (lexer.tokenize source))
        (withoutNewlines (lexer'.tokenize source)) ∧
      kindChanges (withoutNewlines (lexer.tokenize source))
        (withoutNewlines (lexer'.tokenize source)) =
          [(tokenAt ⟨1, 1, 0⟩ .keyword "let".toList, tokenAt ⟨1, 1, 0⟩ .identifier "let".toList),
            (tokenAt ⟨3, 5, 15⟩ .invalid "'b".toList, tokenAt ⟨3, 5, 15⟩ .string "'b".toList)] ∧
      onlyNewlines (lexer'.tokenize source) = [tokenAt ⟨1, 6, 5⟩ .newline ['\n']] := by
  intro lexer lexer' source
  have hreserve : Vocabulary.standard.reserve ["let"] = .ok lexer.vocabulary := by decide +kernel
  have hv : lexer.vocabulary.IsReachable := .reserve .standard hreserve
  exact ⟨(options_change_what_they_name lexer lexer' source hv .standard).1, by decide +kernel,
    by decide +kernel⟩

end ScriptCheck
