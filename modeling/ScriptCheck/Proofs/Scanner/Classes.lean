import ScriptCheck.Proofs.Scanner.Pieces

/-! # The Classes of Pieces

  What the next piece of a source can be, class by class: which characters it
  begins with, how long it is and what it becomes. The classes exclude each
  other, so that a piece is settled by its class and the class by the text.

  Whatever holds of all pieces is proved by going through the classes.
-/

namespace ScriptCheck

/-! ## Section 1: Classes -/

/-- A character that neither separates pieces nor opens a comment or a quoted text. -/
structure IsOrdinary (c : Char) : Prop where
  ne_lineFeed : c ≠ '\n'
  not_blank : Text.isBlank c = false
  ne_hash : c ≠ '#'
  not_quote : isQuote c = false

/-- The next piece of a source that goes on with `c :: cs`. -/
inductive Lexer.ReadsPiece (lexer : Lexer) (c : Char) (cs : List Char) : Piece → Prop
  /-- A line feed that becomes a token. -/
  | lineEnd (hc : c = '\n') (hemit : lexer.emitNewlines = true) :
      ReadsPiece lexer c cs ⟨some .newline, 0⟩
  | lineFeed (hc : c = '\n') (hemit : lexer.emitNewlines = false) : ReadsPiece lexer c cs ⟨none, 0⟩
  | blank (hc : c ≠ '\n') (hblank : Text.isBlank c = true) : ReadsPiece lexer c cs ⟨none, 0⟩
  | lineComment (hc : c = '#') : ReadsPiece lexer c cs ⟨some .comment, (restOfLine cs).length⟩
  | closedBlock {more : List Char} {n : Nat} (hc : isQuote c = true) (hcs : cs = c :: c :: more)
      (hn : beforeTriple? c more = some n) : ReadsPiece lexer c cs ⟨some .comment, 2 + n + 3⟩
  /-- A block comment without closing quotes takes the rest of the source. -/
  | openBlock {more : List Char} (hc : isQuote c = true) (hcs : cs = c :: c :: more)
      (hn : beforeTriple? c more = none) :
      ReadsPiece lexer c cs ⟨some (lexer.unclosed.kind .comment), cs.length⟩
  | closedString {n : Nat} (hc : isQuote c = true) (hsingle : [c, c].isPrefixOf cs = false)
      (hn : throughClosing? c (restOfLine cs) = some n) : ReadsPiece lexer c cs ⟨some .string, n⟩
  /-- A quoted text without a closing quote takes the rest of its line. -/
  | openString (hc : isQuote c = true) (hsingle : [c, c].isPrefixOf cs = false)
      (hn : throughClosing? c (restOfLine cs) = none) :
      ReadsPiece lexer c cs ⟨some (lexer.unclosed.kind .string), (restOfLine cs).length⟩
  | word (hc : IsOrdinary c) (hword : beginsWord c = true) :
      ReadsPiece lexer c cs
        ⟨some (lexer.vocabulary.classify (String.ofList (c :: cs.takeWhile continuesWord))),
          (cs.takeWhile continuesWord).length⟩
  | number (hc : IsOrdinary c) (hword : beginsWord c = false) (hdigit : c.isDigit = true) :
      ReadsPiece lexer c cs ⟨some .number, (cs.takeWhile continuesNumber).length⟩
  | operator {op : String} (hc : IsOrdinary c) (hword : beginsWord c = false)
      (hdigit : c.isDigit = false) (hop : longestPrefix? (c :: cs) = some op) :
      ReadsPiece lexer c cs ⟨some .operator, op.length - 1⟩
  /-- A delimiter, or a character of no class. -/
  | single (hc : IsOrdinary c) (hword : beginsWord c = false) (hdigit : c.isDigit = false)
      (hop : longestPrefix? (c :: cs) = none) :
      ReadsPiece lexer c cs ⟨some (if isDelimiter c then .delimiter else .invalid), 0⟩

/-! ## Section 2: Pieces and their classes -/

namespace Lexer

section pieces
variable {lexer : Lexer} {c : Char} {cs : List Char} {piece : Piece}

/-- A closing quote that stands in a text is part of it. -/
theorem length_le_of_throughClosing? {quote : Char} {n : Nat} (hquote : quote ≠ '\\')
    (h : throughClosing? quote cs = some n) : n ≤ cs.length := by
  have hends := throughQuote_eq hquote cs
  rw [h] at hends
  have hlength := congrArg List.length (throughQuote_append quote cs)
  rw [List.length_append, hends.2] at hlength
  omega

/-- Three quotes in a row. -/
theorem exists_of_triple (h : [c, c].isPrefixOf cs = true) : ∃ more, cs = c :: c :: more := by
  obtain ⟨more, rfl⟩ := List.isPrefixOf_iff_prefix.mp h
  exact ⟨more, rfl⟩

/-- The next piece belongs to one of the classes. -/
theorem readsPiece_nextPiece (lexer : Lexer) (c : Char) (cs : List Char) :
    lexer.ReadsPiece c cs (lexer.nextPiece c cs) := by
  -- the questions are asked in the order of the program; what the earlier ones rule out is kept, as
  -- the classes need it to exclude each other
  unfold nextPiece
  by_cases hline : c = '\n'
  · rw [if_pos hline]
    cases hemit : lexer.emitNewlines with
    | true => exact .lineEnd hline hemit
    | false => exact .lineFeed hline hemit
  rw [if_neg hline]
  by_cases hblank : Text.isBlank c = true
  · rw [if_pos hblank]
    exact .blank hline hblank
  rw [if_neg hblank]
  by_cases hhash : c = '#'
  · rw [if_pos hhash]
    exact .lineComment hhash
  rw [if_neg hhash]
  by_cases hquote : isQuote c = true
  · rw [if_pos hquote]
    by_cases htriple : [c, c].isPrefixOf cs = true
    · rw [if_pos htriple]
      obtain ⟨more, rfl⟩ := exists_of_triple htriple
      have hdrop : (c :: c :: more).drop 2 = more := rfl
      rw [hdrop]
      cases hn : beforeTriple? c more with
      | some n => exact .closedBlock hquote rfl hn
      | none => exact .openBlock hquote rfl hn
    · rw [if_neg htriple]
      have hsingle := Bool.eq_false_of_not_eq_true htriple
      cases hn : throughClosing? c (restOfLine cs) with
      | some n => exact .closedString hquote hsingle hn
      | none => exact .openString hquote hsingle hn
  rw [if_neg hquote]
  -- the four questions up to here have all been answered with no
  have hc : IsOrdinary c :=
    ⟨hline, Bool.eq_false_of_not_eq_true hblank, hhash, Bool.eq_false_of_not_eq_true hquote⟩
  by_cases hword : beginsWord c = true
  · rw [if_pos hword]
    exact .word hc hword
  rw [if_neg hword]
  have hnotword := Bool.eq_false_of_not_eq_true hword
  by_cases hdigit : c.isDigit = true
  · rw [if_pos hdigit]
    exact .number hc hnotword hdigit
  rw [if_neg hdigit]
  have hnotdigit := Bool.eq_false_of_not_eq_true hdigit
  cases hop : longestPrefix? (c :: cs) with
  | some op => exact .operator hc hnotword hnotdigit hop
  | none => exact .single hc hnotword hnotdigit hop

/-- A piece of a class is the next one: the classes exclude each other. -/
theorem ReadsPiece.nextPiece_eq (h : lexer.ReadsPiece c cs piece) :
    lexer.nextPiece c cs = piece := by
  have hordinary (hc : IsOrdinary c) :
      c ≠ '\n' ∧ Text.isBlank c ≠ true ∧ c ≠ '#' ∧ isQuote c ≠ true :=
    ⟨hc.ne_lineFeed, by simp [hc.not_blank], hc.ne_hash, by simp [hc.not_quote]⟩
  have hquoted (hc : isQuote c = true) : c ≠ '\n' ∧ Text.isBlank c ≠ true ∧ c ≠ '#' :=
    ⟨(ne_of_isQuote hc).1, by simp [isBlank_of_isQuote hc], (ne_of_isQuote hc).2.2⟩
  -- with these facts every question before that of the class is answered with no
  unfold nextPiece
  cases h with
  | lineEnd hc hemit => simp [hc, hemit]
  | lineFeed hc hemit => simp [hc, hemit]
  | blank hc hblank => simp [hc, hblank]
  | lineComment hc =>
    have hblank : Text.isBlank '#' = false := by decide
    simp [hc, hblank]
  | closedBlock hc hcs hn => simp [hquoted hc, hc, hcs, hn]
  | openBlock hc hcs hn => simp [hquoted hc, hc, hcs, hn]
  | closedString hc hsingle hn => simp [hquoted hc, hc, hsingle, hn]
  | openString hc hsingle hn => simp [hquoted hc, hc, hsingle, hn]
  | word hc hword => simp [hordinary hc, hword]
  | number hc hword hdigit => simp [hordinary hc, hword, hdigit]
  | operator hc hword hdigit hop => simp [hordinary hc, hword, hdigit, hop]
  | single hc hword hdigit hop => simp [hordinary hc, hword, hdigit, hop]

/-- The next piece is the one that the classes describe. -/
theorem nextPiece_eq_iff : lexer.nextPiece c cs = piece ↔ lexer.ReadsPiece c cs piece := by
  constructor
  · rintro rfl
    exact readsPiece_nextPiece lexer c cs
  · exact ReadsPiece.nextPiece_eq

/-- A piece lies within the source. -/
theorem ReadsPiece.more_le (h : lexer.ReadsPiece c cs piece) : piece.more ≤ cs.length := by
  cases h with
  | lineEnd | lineFeed | blank | single => exact Nat.zero_le _
  | lineComment | openString | word | number => exact (List.takeWhile_prefix _).length_le
  | closedBlock hc hcs hn =>
    have := le_length_of_beforeTriple? hn
    simp only [hcs, List.length_cons]
    omega
  | openBlock => exact Nat.le_refl _
  | closedString hc hsingle hn =>
    exact (length_le_of_throughClosing? (ne_of_isQuote hc).2.1 hn).trans
      (List.takeWhile_prefix _).length_le
  | operator hc hword hdigit hop =>
    have hle := (longestOperator?_mem (longestPrefix?_eq _ ▸ hop)).2.length_le
    rw [String.length_toList, List.length_cons] at hle
    show _ - 1 ≤ _
    omega

/-! ## Section 3: Where pieces lie -/

/-- A token other than a line end does not begin with a blank character. -/
theorem ReadsPiece.not_blank {kind : TokenKind} {more : Nat}
    (h : lexer.ReadsPiece c cs ⟨some kind, more⟩) (hkind : kind ≠ .newline) :
    Text.isBlank c = false := by
  cases h with
  | lineEnd => exact absurd rfl hkind
  | lineComment hc =>
    rw [hc]
    decide
  | closedBlock hc | openBlock hc | closedString hc | openString hc => exact isBlank_of_isQuote hc
  | word hc | number hc | operator hc | single hc => exact hc.not_blank

/-- The run of characters of a class ends with the line. -/
theorem lineFeed_not_mem_takeWhile {p : Char → Bool} (hp : p '\n' = false) :
    '\n' ∉ cs.take (cs.takeWhile p).length := by
  rw [← List.prefix_iff_eq_take.mp (List.takeWhile_prefix p)]
  intro hmem
  rw [List.mem_takeWhile_imp hmem] at hp
  cases hp

theorem lineFeed_not_mem_of_mem_operators : ∀ op ∈ operators, '\n' ∉ op.toList := by
  decide

/-- Only comments, and what is invalid, go on from one line to the next. -/
theorem ReadsPiece.lineFeed_not_mem {kind : TokenKind} {more : Nat}
    (h : lexer.ReadsPiece c cs ⟨some kind, more⟩) (hnewline : kind ≠ .newline)
    (hcomment : kind ≠ .comment) (hinvalid : kind ≠ .invalid) : '\n' ∉ c :: cs.take more := by
  have hline : c ≠ '\n' := by
    rintro rfl
    have hblank : Text.isBlank '\n' = true := by decide
    rw [h.not_blank hnewline] at hblank
    cases hblank
  rw [List.mem_cons, not_or]
  refine ⟨Ne.symm hline, ?_⟩
  cases h with
  | lineEnd => exact absurd rfl hnewline
  | lineComment | closedBlock => exact absurd rfl hcomment
  | openBlock =>
    -- such a text is invalid or a comment, as the policy has it, and neither is asked about
    cases hpolicy : lexer.unclosed with
    | invalid => simp [hpolicy, UnclosedPolicy.kind] at hinvalid
    | truncate => simp [hpolicy, UnclosedPolicy.kind] at hcomment
  | closedString hc hsingle hn =>
    -- the text ends on the line, so it is part of what is left of the line
    have hle := length_le_of_throughClosing? (ne_of_isQuote hc).2.1 hn
    have hrest : '\n' ∉ cs.take (restOfLine cs).length := lineFeed_not_mem_takeWhile (by decide)
    intro hmem
    exact hrest (List.take_subset_take_left cs hle hmem)
  | openString => exact lineFeed_not_mem_takeWhile (by decide)
  | word => exact lineFeed_not_mem_takeWhile (by decide)
  | number => exact lineFeed_not_mem_takeWhile (by decide)
  | operator hc hword hdigit hop =>
    -- the piece is an operator of the table, none of which has a line feed
    obtain ⟨hop, hlexeme⟩ := lexeme_of_longestPrefix? hop
    have hfree := lineFeed_not_mem_of_mem_operators _ hop
    rw [← hlexeme, String.toList_ofList] at hfree
    intro hmem
    exact hfree (List.mem_cons_of_mem c hmem)
  | single => simp

end pieces

end Lexer

end ScriptCheck
