import Mathlib.Data.List.TakeWhile
import ScriptCheck.Proofs.Scanner.OnePass

/-! # The Lexemes of a Line are Pieces of the Source

  The lexer cuts a line that it has taken out of the source; the one-pass scanner
  sees everything behind it as well. For all but block comments this makes no
  difference: a line feed belongs to no other lexeme, so what stands behind the
  line is never looked at. A block comment that the line leaves open goes on in
  what follows, and ends where the first three quotes stand there.
-/

namespace ScriptCheck

/-! ## Section 1: Looking no further than the line -/

/-- Nothing, or a line feed and what follows it. -/
def EndsLine (tail : List Char) : Prop := ∀ c ∈ tail.head?, c = '\n'

section lines
variable {cs tail : List Char}

theorem takeWhile_append_of_endsLine {p : Char → Bool} (hp : p '\n' = false)
    (ht : EndsLine tail) : (cs ++ tail).takeWhile p = cs.takeWhile p := by
  induction cs with
  | nil =>
    cases tail with
    | nil => rfl
    | cons d ds =>
      obtain rfl : d = '\n' := ht d rfl
      simp [hp]
  | cons c cs ih => simp only [List.cons_append, List.takeWhile_cons, ih]

theorem restOfLine_append (h : '\n' ∉ cs) (ht : EndsLine tail) : restOfLine (cs ++ tail) = cs := by
  rw [restOfLine, takeWhile_append_of_endsLine (by decide) ht, List.takeWhile_eq_self_iff]
  intro c hc
  simp only [bne_iff_ne]
  intro heq
  exact h (heq ▸ hc)

/-- A text without line feeds starts no later than on the line. -/
theorem isPrefixOf_append_of_endsLine {xs : List Char} (hxs : '\n' ∉ xs) (ht : EndsLine tail) :
    xs.isPrefixOf (cs ++ tail) = xs.isPrefixOf cs := by
  induction xs generalizing cs with
  | nil => rfl
  | cons x xs ih =>
    rw [List.mem_cons, not_or] at hxs
    cases cs with
    | nil =>
      cases tail with
      | nil => rfl
      | cons d ds =>
        obtain rfl : d = '\n' := ht d rfl
        simp [List.isPrefixOf, Ne.symm hxs.1]
    | cons c cs => simp only [List.cons_append, List.isPrefixOf, ih hxs.2]

end lines

/-! ## Section 2: Closing quotes -/

section quotes
variable {quote : Char} {cs tail : List Char}

theorem beforeTriple?_cons (quote c : Char) (cs : List Char) :
    beforeTriple? quote (c :: cs) =
      if [quote, quote, quote].isPrefixOf (c :: cs) then some 0
      else (beforeTriple? quote cs).map (· + 1) := by
  simp only [beforeTriple?, List.tails, List.findIdx?_cons]

/-- The lexer and the scanner find the same closing quotes. -/
theorem throughTriple_eq (quote : Char) (cs : List Char) :
    throughTriple quote cs =
      (beforeTriple? quote cs).map fun n => (cs.take (n + 3), cs.drop (n + 3)) := by
  induction cs with
  | nil => simp [throughTriple, beforeTriple?]
  | cons c cs ih =>
    rw [throughTriple, beforeTriple?_cons]
    -- quotes that stand here end the search on both sides, else both go on by a character
    by_cases hp : [quote, quote, quote].isPrefixOf (c :: cs)
    · rw [if_pos hp, if_pos hp]
      obtain ⟨rest, hrest⟩ := List.isPrefixOf_iff_prefix.mp hp
      simp [← hrest]
    · rw [if_neg hp, if_neg hp, ih]
      cases beforeTriple? quote cs with
      | none => rfl
      | some n => simp

/-- Three quotes stand on the line or behind it. -/
theorem beforeTriple?_append (hquote : quote ≠ '\n') (ht : EndsLine tail) :
    beforeTriple? quote (cs ++ tail) =
      (beforeTriple? quote cs).or ((beforeTriple? quote tail).map (cs.length + ·)) := by
  induction cs with
  | nil => simp [beforeTriple?]
  | cons c cs ih =>
    have hmem : '\n' ∉ [quote, quote, quote] := by simpa using Ne.symm hquote
    -- the tail begins with a line feed, so that no three quotes stand half on the line
    have hsame : [quote, quote, quote].isPrefixOf (c :: (cs ++ tail)) =
        [quote, quote, quote].isPrefixOf (c :: cs) := by
      rw [← List.cons_append, isPrefixOf_append_of_endsLine hmem ht]
    rw [List.cons_append, beforeTriple?_cons, beforeTriple?_cons, hsame, ih]
    split
    · rfl
    · cases beforeTriple? quote cs with
      | some n => rfl
      | none =>
        cases beforeTriple? quote tail with
        | none => rfl
        | some n => simp [Nat.add_right_comm]

/-- Three quotes that stand in a text are part of it. -/
theorem le_length_of_beforeTriple? {n : Nat} (h : beforeTriple? quote cs = some n) :
    n + 3 ≤ cs.length := by
  induction cs generalizing n with
  | nil => simp [beforeTriple?] at h
  | cons c cs ih =>
    rw [beforeTriple?_cons] at h
    split at h
    · next hp =>
      obtain rfl : 0 = n := Option.some.inj h
      simpa using (List.isPrefixOf_iff_prefix.mp hp).length_le
    · obtain ⟨m, hm, rfl⟩ := Option.map_eq_some_iff.mp h
      have := ih hm
      simp only [List.length_cons]
      omega

/-- The lexer and the scanner find the same closing quote; without one the text is all there is. -/
theorem throughQuote_eq (hquote : quote ≠ '\\') (cs : List Char) :
    match throughClosing? quote cs with
    | some n => (throughQuote quote cs).closed = true ∧ (throughQuote quote cs).text.length = n
    | none => (throughQuote quote cs).closed = false ∧ (throughQuote quote cs).text = cs := by
  -- by the cases of the search: end, lone backslash, protected character, quote, anything else
  fun_induction throughQuote quote cs with
  | case1 => simp [throughClosing?]
  | case2 => simp [throughClosing?, Ne.symm hquote]
  | case3 c cs ih =>
    rw [throughClosing?]
    cases h : throughClosing? quote cs with
    | none =>
      rw [h] at ih
      simpa [QuotedTail.push] using ih
    | some n =>
      rw [h] at ih
      simpa [QuotedTail.push] using ih
  | case4 cs hlast hmore =>
    rw [throughClosing?.eq_3 _ _ _ hmore, if_pos rfl]
    exact ⟨rfl, rfl⟩
  | case5 c cs hlast hmore hne ih =>
    rw [throughClosing?.eq_3 _ _ _ hmore, if_neg hne]
    cases h : throughClosing? quote cs with
    | none =>
      rw [h] at ih
      simpa [QuotedTail.push] using ih
    | some n =>
      rw [h] at ih
      simpa [QuotedTail.push] using ih

end quotes

/-! ## Section 3: Operators -/

section operators
variable {text : List Char} {n : Nat} {op : String}

theorem length_of_operatorOfLength? (h : operatorOfLength? text n = some op) : op.length = n := by
  have hop := List.find?_some h
  simp only [Bool.and_eq_true, beq_iff_eq] at hop
  exact hop.1

/-- An operator with which the text starts is found among those of its length. -/
theorem operatorOfLength?_ne_none (hop : op ∈ operators) (hstarts : op.toList <+: text) :
    operatorOfLength? text op.length ≠ none := by
  intro hnone
  have := List.find?_eq_none.mp hnone op hop
  simp [List.isPrefixOf_iff_prefix, hstarts] at this

theorem length_mem_of_mem_operators (h : op ∈ operators) : op.length ∈ [3, 2, 1] := by
  revert op
  decide

/-- No operator with which the text starts is longer than the one that is found. -/
theorem length_le_of_longestOperator? {op' : String} (h : longestOperator? text = some op)
    (hop' : op' ∈ operators) (hstarts : op'.toList <+: text) : op'.length ≤ op.length := by
  have hfound := operatorOfLength?_ne_none hop' hstarts
  have hlength := length_mem_of_mem_operators hop'
  obtain ⟨longer, n, shorter, hsplit, hn, hnone⟩ := List.findSome?_eq_some_iff.mp h
  obtain rfl := length_of_operatorOfLength? hn
  -- a longer one would have been found before
  have hnot : op'.length ∉ longer := fun hmem => hfound (hnone _ hmem)
  have hsorted : ([3, 2, 1] : List Nat).Pairwise (· > ·) := by decide
  rw [hsplit, List.pairwise_append, List.pairwise_cons] at hsorted
  rw [hsplit, List.mem_append, List.mem_cons] at hlength
  rcases hlength with hlonger | hsame | hshorter
  · exact absurd hlonger hnot
  · exact Nat.le_of_eq hsame
  · exact Nat.le_of_lt (hsorted.2.1.1 _ hshorter)

/-- The search from the longest length down finds the longest operator. -/
theorem longestPrefix?_eq (text : List Char) : longestPrefix? text = longestOperator? text := by
  cases h : longestOperator? text with
  | none =>
    -- an operator with which the text starts would have been found at its length
    rw [longestPrefix?, List.argmax_eq_none, List.filter_eq_nil_iff]
    intro op hop hstarts
    have hlength := length_mem_of_mem_operators hop
    have hfound := operatorOfLength?_ne_none hop (List.isPrefixOf_iff_prefix.mp hstarts)
    exact hfound (List.findSome?_eq_none_iff.mp h _ hlength)
  | some op =>
    obtain ⟨hop, hstarts⟩ := longestOperator?_mem h
    have hmem {op' : String} (h' : op' ∈ operators.filter (·.toList.isPrefixOf text)) :
        op' ∈ operators ∧ op'.toList <+: text := by
      simpa [List.isPrefixOf_iff_prefix] using h'
    rw [longestPrefix?, List.argmax_eq_some_iff]
    refine ⟨by simp [hop, List.isPrefixOf_iff_prefix, hstarts], ?_, ?_⟩
    · intro op' h'
      obtain ⟨hop', hstarts'⟩ := hmem h'
      exact length_le_of_longestOperator? h hop' hstarts'
    · -- another one of this length starts the text as well, so it is the same
      intro op' h' hle
      obtain ⟨hop', hstarts'⟩ := hmem h'
      have hlength : op'.toList.length = op.toList.length :=
        Nat.le_antisymm (length_le_of_longestOperator? h hop' hstarts') hle
      have hsame : op'.toList <+: op.toList :=
        List.prefix_of_prefix_length_le hstarts' hstarts (Nat.le_of_eq hlength)
      rw [String.toList_inj.mp (hsame.eq_of_length hlength)]

/-- No operator goes past the end of a line. -/
theorem longestPrefix?_append {cs tail : List Char} (ht : EndsLine tail) :
    longestPrefix? (cs ++ tail) = longestPrefix? cs := by
  have hline : ∀ op ∈ operators, '\n' ∉ op.toList := by decide
  have hsame : operators.filter (·.toList.isPrefixOf (cs ++ tail)) =
      operators.filter (·.toList.isPrefixOf cs) := by
    apply List.filter_congr
    intro op hop
    exact isPrefixOf_append_of_endsLine (hline op hop) ht
  rw [longestPrefix?, longestPrefix?, hsame]

/-- The text of an operator is the operator that was found. -/
theorem lexeme_of_longestPrefix? {c : Char} {cs : List Char} {op : String}
    (h : longestPrefix? (c :: cs) = some op) :
    op ∈ operators ∧ String.ofList (c :: cs.take (op.length - 1)) = op := by
  rw [longestPrefix?_eq] at h
  obtain ⟨hmem, hprefix⟩ := longestOperator?_mem h
  have hpos := length_pos_of_mem_operators hmem
  have htake := List.prefix_iff_eq_take.mp hprefix
  rw [String.length_toList, ← Nat.sub_one_add_one_eq_of_pos hpos, List.take_succ_cons] at htake
  exact ⟨hmem, by rw [← htake, String.ofList_toList]⟩

end operators

/-! ## Section 4: Lexemes and pieces -/

section pieces
variable {lexer : Lexer} {c quote : Char} {cs tail : List Char} {kind : TokenKind}

/-- A quote is none of the other characters with a meaning of their own. -/
theorem ne_of_isQuote (h : isQuote c = true) : c ≠ '\n' ∧ c ≠ '\\' ∧ c ≠ '#' := by
  simp only [isQuote, Bool.or_eq_true, beq_iff_eq] at h
  rcases h with rfl | rfl <;> decide

theorem isBlank_of_isQuote (h : isQuote c = true) : Text.isBlank c = false := by
  simp only [isQuote, Bool.or_eq_true, beq_iff_eq] at h
  rcases h with rfl | rfl <;> decide

/-- A character that starts no other lexeme is a token, if need be an invalid one. -/
theorem exists_kind_of_symbol (c : Char) (cs : List Char) :
    ∃ kind, (Lexeme.symbol c cs).cls = .token kind := by
  unfold Lexeme.symbol
  split
  · exact ⟨_, rfl⟩
  · exact ⟨_, rfl⟩

/-- A block comment is as long as the scanner finds it if the line closes it. -/
theorem block_eq_of_token (hc : c ≠ '\n') (ht : EndsLine tail)
    (h : (Lexeme.block c cs).cls = .token kind) :
    ∃ n, beforeTriple? c (cs ++ tail) = some n ∧ kind = .comment ∧
      (Lexeme.block c cs).text.length = n + 6 := by
  unfold Lexeme.block at h ⊢
  rw [throughTriple_eq] at h ⊢
  rw [beforeTriple?_append hc ht]
  cases hn : beforeTriple? c cs with
  | none => simp [hn] at h
  | some n =>
    have := le_length_of_beforeTriple? hn
    simp only [hn, Option.map_some, LexemeClass.token.injEq] at h ⊢
    refine ⟨n, rfl, h.symm, ?_⟩
    simp only [List.length_cons, List.length_take]
    omega

/-- If the line leaves a block comment open, the comment is all that is left of the line. -/
theorem block_eq_of_openBlock (h : (Lexeme.block c cs).cls = .openBlock quote) :
    quote = c ∧ beforeTriple? c cs = none ∧ (Lexeme.block c cs).text = c :: c :: c :: cs := by
  unfold Lexeme.block at h ⊢
  rw [throughTriple_eq] at h ⊢
  cases hn : beforeTriple? c cs with
  | none =>
    simp only [hn, Option.map_none, LexemeClass.openBlock.injEq] at h ⊢
    exact ⟨h.symm, trivial, trivial⟩
  | some n => simp [hn] at h

/-- A quoted text is as long as the scanner finds it. -/
theorem quoted_eq_of_token {policy : UnclosedPolicy} (hc : c ≠ '\\')
    (h : (Lexeme.quoted policy c cs).cls = .token kind) :
    (match throughClosing? c cs with
      | some n => (⟨some .string, n⟩ : Piece)
      | none => ⟨some (policy.kind .string), cs.length⟩) =
      ⟨some kind, (Lexeme.quoted policy c cs).text.length - 1⟩ := by
  have hends := throughQuote_eq hc cs
  cases hn : throughClosing? c cs with
  | some n =>
    rw [hn] at hends
    simp only [Lexeme.quoted, hends.1, if_true, LexemeClass.token.injEq] at h ⊢
    rw [← h, List.length_cons, hends.2, Nat.add_sub_cancel]
  | none =>
    rw [hn] at hends
    simp only [Lexeme.quoted, hends.1, LexemeClass.token.injEq, Bool.false_eq_true, if_false]
      at h ⊢
    rw [← h, List.length_cons, hends.2, Nat.add_sub_cancel]

/-- An operator is as long as the scanner finds it. -/
theorem symbol_eq_of_token (ht : EndsLine tail) (h : (Lexeme.symbol c cs).cls = .token kind) :
    (match longestPrefix? (c :: (cs ++ tail)) with
      | some op => (⟨some .operator, op.length - 1⟩ : Piece)
      | none => ⟨some (if isDelimiter c then .delimiter else .invalid), 0⟩) =
      ⟨some kind, (Lexeme.symbol c cs).text.length - 1⟩ := by
  rw [← List.cons_append, longestPrefix?_append ht, longestPrefix?_eq]
  unfold Lexeme.symbol at h ⊢
  cases hop : longestOperator? (c :: cs) with
  | none =>
    simp only [hop, LexemeClass.token.injEq] at h ⊢
    rw [← h]
    rfl
  | some op =>
    have hlength := (longestOperator?_mem hop).2.length_le
    rw [String.length_toList] at hlength
    simp only [hop, LexemeClass.token.injEq] at h ⊢
    rw [← h, List.length_take, Nat.min_eq_left hlength]

/-- A lexeme that is a token is the next piece, whatever follows the line. -/
theorem nextPiece_of_token (hline : '\n' ∉ c :: cs) (ht : EndsLine tail)
    (h : (Lexeme.next lexer.vocabulary lexer.unclosed c cs).cls = .token kind) :
    lexer.nextPiece c (cs ++ tail) =
      ⟨some kind, (Lexeme.next lexer.vocabulary lexer.unclosed c cs).text.length - 1⟩ := by
  rw [List.mem_cons, not_or] at hline
  obtain ⟨hc, hcs⟩ := hline
  unfold Lexer.nextPiece
  rw [if_neg (Ne.symm hc)]
  -- both sides ask the same questions in the same order
  revert h
  unfold Lexeme.next
  split
  · intro h
    cases h
  split
  -- a comment takes the rest of the line
  · intro h
    cases h
    rw [restOfLine_append hcs ht]
    rfl
  split
  · next hquote =>
    obtain ⟨hfeed, hbackslash, -⟩ := ne_of_isQuote hquote
    have hpair : '\n' ∉ [c, c] := by simpa using hc
    rw [isPrefixOf_append_of_endsLine hpair ht]
    split
    -- three quotes, which are closed on this line since the lexeme is a token
    · next hp =>
      intro h
      obtain ⟨rest, rfl⟩ := List.isPrefixOf_iff_prefix.mp hp
      obtain ⟨n, hn, rfl, hlength⟩ := block_eq_of_token hfeed ht h
      have hdrop : List.drop 2 ([c, c] ++ rest ++ tail) = rest ++ tail := by simp
      have hn' : beforeTriple? c (rest ++ tail) = some n := hn
      rw [hdrop, hn', hlength]
      simp only [Piece.mk.injEq, true_and]
      omega
    · intro h
      rw [restOfLine_append hcs ht]
      exact quoted_eq_of_token hbackslash h
  split
  · intro h
    cases h
    simp only [Lexeme.word, takeWhile_append_of_endsLine (p := continuesWord) (by decide) ht]
    rfl
  split
  · intro h
    cases h
    simp only [Lexeme.run, takeWhile_append_of_endsLine (p := continuesNumber) (by decide) ht]
    rfl
  · exact symbol_eq_of_token ht

/-- Blank characters are lexemes of their own, and nothing else is skipped. -/
theorem next_of_blank
    (h : (Lexeme.next lexer.vocabulary lexer.unclosed c cs).cls = .blank) :
    Text.isBlank c = true ∧
      Lexeme.next lexer.vocabulary lexer.unclosed c cs = .run .blank c Text.isBlank cs := by
  revert h
  unfold Lexeme.next
  split
  · next hblank =>
    intro _
    exact ⟨hblank, rfl⟩
  split
  · intro h
    cases h
  split
  · split
    -- a block comment is a token or stays open
    · unfold Lexeme.block
      split
      · intro h
        cases h
      · intro h
        cases h
    · intro h
      cases h
  split
  · intro h
    cases h
  split
  · intro h
    cases h
  · intro h
    obtain ⟨kind, hkind⟩ := exists_kind_of_symbol c cs
    rw [hkind] at h
    cases h

/-- A lexeme that opens a block and does not close it is the rest of the line from three quotes
    on. -/
theorem next_of_openBlock
    (h : (Lexeme.next lexer.vocabulary lexer.unclosed c cs).cls = .openBlock quote) :
    isQuote quote = true ∧ (Lexeme.next lexer.vocabulary lexer.unclosed c cs).text = c :: cs ∧
      ∃ more, c :: cs = quote :: quote :: quote :: more ∧ beforeTriple? quote more = none := by
  -- block comments alone leave anything open, so every other branch is at odds with the class
  revert h
  unfold Lexeme.next
  split
  · intro h
    cases h
  split
  · intro h
    cases h
  split
  · next hquote =>
    split
    · next hp =>
      intro h
      obtain ⟨more, rfl⟩ := List.isPrefixOf_iff_prefix.mp hp
      obtain ⟨rfl, hnone, htext⟩ := block_eq_of_openBlock h
      exact ⟨hquote, htext, more, rfl, hnone⟩
    · intro h
      cases h
  split
  · intro h
    cases h
  split
  · intro h
    cases h
  · intro h
    obtain ⟨kind, hkind⟩ := exists_kind_of_symbol c cs
    rw [hkind] at h
    cases h

end pieces

end ScriptCheck
