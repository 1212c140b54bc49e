import ScriptCheck.Proofs.Scanner.Tiling

/-! # What the Options of a Lexer Change

  Where a piece of the source ends does not depend on the options of the lexer.
  Two lexers therefore go over a source in step, and without line ends their
  tokens agree one by one in text and place. The kinds differ at two sorts of
  tokens only: words that one of the two reserves and texts that are not closed.

  The comparison of two tokens also says that the kinds do differ there. For this
  the reserved words have to have the shape of words; all have that can be
  reserved.
-/

namespace ScriptCheck

/-! ## Section 1: Vocabularies -/

namespace Vocabulary

/-- The vocabularies to which reserving words leads from that of the language. -/
inductive IsReachable : Vocabulary → Prop
  | standard : IsReachable standard
  | reserve {v v' : Vocabulary} {words : List String} (h : IsReachable v)
      (hv : v.reserve words = .ok v') : IsReachable v'

variable {v v' : Vocabulary} {word : String} {words : List String}

/-- Reserving words keeps those that are reserved, and adds words of the right shape. -/
theorem mem_reserve (h : v.reserve words = .ok v') :
    v.keywords ⊆ v'.keywords ∧
      ∀ word ∈ v'.keywords, word ∈ v.keywords ∨ isWordShaped word = true := by
  -- the vocabulary grows with each word, so the induction is for all of them
  induction words generalizing v with
  | nil =>
    obtain rfl := Except.ok.inj h
    exact ⟨List.Subset.refl _, fun _ => .inl⟩
  | cons first rest ih =>
    rw [Vocabulary.reserve] at h
    split at h
    · next hshape =>
      obtain ⟨hkeeps, hadds⟩ := ih h
      unfold insert at hkeeps hadds
      split at hkeeps
      · next hknown =>
        rw [if_pos hknown] at hadds
        exact ⟨hkeeps, hadds⟩
      · next hnew =>
        rw [if_neg hnew] at hadds
        refine ⟨List.Subset.trans (List.subset_append_left _ _) hkeeps, ?_⟩
        intro word hword
        rcases hadds word hword with hold | hshaped
        · rcases List.mem_append.mp hold with hold | hnew
          · exact .inl hold
          · exact .inr (List.mem_singleton.mp hnew ▸ hshape)
        · exact .inr hshaped
    · cases h

/-- Whatever else is reserved, the words of the language are. -/
theorem IsReachable.standard_subset (h : v.IsReachable) :
    Vocabulary.standard.keywords ⊆ v.keywords := by
  induction h with
  | standard => exact List.Subset.refl _
  | reserve h hv ih => exact List.Subset.trans ih (mem_reserve hv).1

theorem isWordShaped_of_mem_standard : ∀ word ∈ standard.keywords, isWordShaped word = true := by
  decide

/-- Only words are ever reserved. -/
theorem IsReachable.isWordShaped (h : v.IsReachable) :
    ∀ word ∈ v.keywords, isWordShaped word = true := by
  induction h with
  | standard => exact isWordShaped_of_mem_standard
  | reserve h hv ih =>
    intro word hword
    exact ((mem_reserve hv).2 word hword).elim (ih word) id

/-- A text that does not begin as a word is not reserved. -/
theorem IsReachable.isKeyword_eq_false (h : v.IsReachable) {c : Char} {cs : List Char}
    (hc : beginsWord c = false) : v.isKeyword (String.ofList (c :: cs)) = false := by
  cases hword : v.isKeyword (String.ofList (c :: cs)) with
  | false => rfl
  | true =>
    have hshape := h.isWordShaped _ (List.contains_iff_mem.mp hword)
    simp [ScriptCheck.isWordShaped, hc] at hshape

end Vocabulary

/-! ## Section 2: Texts that are not closed -/

/-- The kind that a quoted text or a block comment would have if its closing quotes were not
    missing. Other texts have none. -/
def unclosedKind? (lexeme : String) : Option TokenKind :=
  match lexeme.toList with
  | [] => none
  | c :: cs =>
    if !isQuote c then none
    else if [c, c].isPrefixOf cs then
      if (beforeTriple? c (cs.drop 2)).isNone then some .comment else none
    else if (throughClosing? c cs).isNone then some .string else none

section closing
variable {c quote : Char} {cs : List Char} {n : Nat}

/-- The text through the closing quote is closed, whatever follows it. -/
theorem throughClosing?_take (h : throughClosing? quote cs = some n) (tail : List Char) :
    throughClosing? quote ((cs ++ tail).take n) = some n := by
  fun_induction throughClosing? quote cs generalizing n with
  | case1 => cases h
  | case2 d cs ih =>
    -- a backslash and the character that it protects
    obtain ⟨m, hm, rfl⟩ := Option.map_eq_some_iff.mp h
    rw [List.cons_append, List.cons_append, List.take_succ_cons, List.take_succ_cons,
      throughClosing?, ih hm]
    rfl
  | case3 cs hmore =>
    obtain rfl := Option.some.inj h
    simp [throughClosing?]
  | case4 d cs hmore hne ih =>
    obtain ⟨m, hm, rfl⟩ := Option.map_eq_some_iff.mp h
    have hmore' (x : Char) (ds : List Char) (hd : d = '\\') (hds : (cs ++ tail).take m = x :: ds) :
        False := by
      cases cs with
      | nil => simp [throughClosing?] at hm
      | cons x' cs => exact hmore x' cs hd rfl
    rw [List.cons_append, List.take_succ_cons, throughClosing?.eq_3 _ _ _ hmore', if_neg hne,
      ih hm]
    rfl

/-- So is the text through the three closing quotes. -/
theorem beforeTriple?_take (h : beforeTriple? quote cs = some n) :
    beforeTriple? quote (cs.take (n + 3)) = some n := by
  induction cs generalizing n with
  | nil => simp [beforeTriple?] at h
  | cons c cs ih =>
    rw [beforeTriple?_cons] at h
    split at h
    · next hp =>
      obtain rfl := Option.some.inj h
      obtain ⟨rest, hrest⟩ := List.isPrefixOf_iff_prefix.mp hp
      simp [← hrest, beforeTriple?_cons]
    · next hp =>
      obtain ⟨m, hm, rfl⟩ := Option.map_eq_some_iff.mp h
      -- quotes at the start of what was cut off stood at the start of the whole
      have hp' : ¬ [quote, quote, quote].isPrefixOf (c :: cs.take (m + 3)) = true := by
        intro htake
        apply hp
        rw [List.isPrefixOf_iff_prefix] at htake ⊢
        exact htake.trans (List.take_succ_cons ▸ List.take_prefix (m + 3 + 1) (c :: cs))
      rw [Nat.add_right_comm, List.take_succ_cons, beforeTriple?_cons, if_neg hp', ih hm]
      rfl

/-- Only a quote begins a text that has to be closed. -/
theorem unclosedKind?_of_not_isQuote (hc : isQuote c = false) :
    unclosedKind? (String.ofList (c :: cs)) = none := by
  simp [unclosedKind?, hc]

theorem unclosedKind?_of_triple (hc : isQuote c = true) (htriple : [c, c].isPrefixOf cs = true) :
    unclosedKind? (String.ofList (c :: cs)) =
      if (beforeTriple? c (cs.drop 2)).isNone then some .comment else none := by
  simp [unclosedKind?, hc, htriple]

theorem unclosedKind?_of_single (hc : isQuote c = true) (htriple : [c, c].isPrefixOf cs = false) :
    unclosedKind? (String.ofList (c :: cs)) =
      if (throughClosing? c cs).isNone then some .string else none := by
  simp [unclosedKind?, hc, htriple]

end closing

/-! ## Section 3: Pieces under two lexers -/

namespace Lexer

/-- What the kinds of a token are under two lexers. They differ if one lexer reserves a word that
    the other one does not, or if they treat unclosed texts differently and the text is not
    closed. -/
inductive KindsAt (lexer lexer' : Lexer) (lexeme : String) : TokenKind → TokenKind → Prop
  | same {kind : TokenKind}
      (hword : lexer'.vocabulary.isKeyword lexeme = lexer.vocabulary.isKeyword lexeme)
      (hclosed : lexer'.unclosed = lexer.unclosed ∨ unclosedKind? lexeme = none) :
      KindsAt lexer lexer' lexeme kind kind
  | freed (hshape : isWordShaped lexeme = true)
      (h : lexer.vocabulary.isKeyword lexeme = true)
      (h' : lexer'.vocabulary.isKeyword lexeme = false) :
      KindsAt lexer lexer' lexeme .keyword .identifier
  | reserved (hshape : isWordShaped lexeme = true)
      (h : lexer.vocabulary.isKeyword lexeme = false)
      (h' : lexer'.vocabulary.isKeyword lexeme = true) :
      KindsAt lexer lexer' lexeme .identifier .keyword
  | truncated {closed : TokenKind} (h : lexer.unclosed = .invalid)
      (h' : lexer'.unclosed = .truncate) (hclosed : unclosedKind? lexeme = some closed) :
      KindsAt lexer lexer' lexeme .invalid closed
  | refused {closed : TokenKind} (h : lexer.unclosed = .truncate)
      (h' : lexer'.unclosed = .invalid) (hclosed : unclosedKind? lexeme = some closed) :
      KindsAt lexer lexer' lexeme closed .invalid

/-- The next piece of a source under two lexers: it is as long under the one as under the other and
    becomes a token under both or under none. -/
inductive PiecesAlike (lexer lexer' : Lexer) (c : Char) (cs : List Char) : Prop
  | skipped {more : Nat} (h : lexer.nextPiece c cs = ⟨none, more⟩)
      (h' : lexer'.nextPiece c cs = ⟨none, more⟩)
  | token {kind kind' : TokenKind} {more : Nat} (h : lexer.nextPiece c cs = ⟨some kind, more⟩)
      (h' : lexer'.nextPiece c cs = ⟨some kind', more⟩)
      (hkinds : KindsAt lexer lexer' (String.ofList (c :: cs.take more)) kind kind')

section pieces
variable {lexer lexer' : Lexer} {c : Char} {cs text : List Char}

/-- A closed text that does not begin as a word has one kind only. -/
theorem KindsAt.of_closed {kind : TokenKind} (hv : lexer.vocabulary.IsReachable)
    (hv' : lexer'.vocabulary.IsReachable) (hc : beginsWord c = false)
    (hclosed : unclosedKind? (String.ofList (c :: text)) = none) :
    KindsAt lexer lexer' (String.ofList (c :: text)) kind kind :=
  .same (by rw [hv.isKeyword_eq_false hc, hv'.isKeyword_eq_false hc]) (.inr hclosed)

theorem beginsWord_of_isQuote (h : isQuote c = true) : beginsWord c = false := by
  simp only [isQuote, Bool.or_eq_true, beq_iff_eq] at h
  rcases h with rfl | rfl <;> decide

/-- An unclosed text has the kind that each lexer gives to such texts. -/
theorem KindsAt.of_unclosed {closed : TokenKind} (hv : lexer.vocabulary.IsReachable)
    (hv' : lexer'.vocabulary.IsReachable) (hc : isQuote c = true)
    (hclosed : unclosedKind? (String.ofList (c :: text)) = some closed) :
    KindsAt lexer lexer' (String.ofList (c :: text)) (lexer.unclosed.kind closed)
      (lexer'.unclosed.kind closed) := by
  have hword := beginsWord_of_isQuote hc
  have hsame : lexer'.vocabulary.isKeyword (String.ofList (c :: text)) =
      lexer.vocabulary.isKeyword (String.ofList (c :: text)) := by
    rw [hv.isKeyword_eq_false hword, hv'.isKeyword_eq_false hword]
  -- the kinds differ just where the policies do
  cases hp : lexer.unclosed with
  | invalid =>
    cases hp' : lexer'.unclosed with
    | invalid => exact .same hsame (.inl (hp'.trans hp.symm))
    | truncate => exact .truncated hp hp' hclosed
  | truncate =>
    cases hp' : lexer'.unclosed with
    | invalid => exact .refused hp hp' hclosed
    | truncate => exact .same hsame (.inl (hp'.trans hp.symm))

/-- A word has the kind for which each lexer takes it. -/
theorem KindsAt.of_word (hshape : isWordShaped (String.ofList (c :: text)) = true)
    (hc : isQuote c = false) :
    KindsAt lexer lexer' (String.ofList (c :: text))
      (lexer.vocabulary.classify (String.ofList (c :: text)))
      (lexer'.vocabulary.classify (String.ofList (c :: text))) := by
  unfold Vocabulary.classify
  cases h : lexer.vocabulary.isKeyword (String.ofList (c :: text)) with
  | true =>
    cases h' : lexer'.vocabulary.isKeyword (String.ofList (c :: text)) with
    | true => exact .same (h'.trans h.symm) (.inr (unclosedKind?_of_not_isQuote hc))
    | false => exact .freed hshape h h'
  | false =>
    cases h' : lexer'.vocabulary.isKeyword (String.ofList (c :: text)) with
    | true => exact .reserved hshape h h'
    | false => exact .same (h'.trans h.symm) (.inr (unclosedKind?_of_not_isQuote hc))

/-- A closed block comment is closed in itself. -/
theorem unclosedKind?_of_closedBlock {more : List Char} {n : Nat} (hc : isQuote c = true)
    (hn : beforeTriple? c more = some n) :
    unclosedKind? (String.ofList (c :: (c :: c :: more).take (2 + n + 3))) = none := by
  have htake : (c :: c :: more).take (2 + n + 3) = [c, c] ++ more.take (n + 3) := by
    rw [Nat.add_assoc, Nat.add_comm]
    rfl
  rw [htake, unclosedKind?_of_triple hc (by simp)]
  simp [beforeTriple?_take hn]

/-- What stands on one line of a quoted text is closed in itself exactly if it was. -/
theorem unclosedKind?_of_line (hc : isQuote c = true) (hsingle : [c, c].isPrefixOf cs = false)
    (n : Nat) :
    unclosedKind? (String.ofList (c :: cs.take n)) =
      if (throughClosing? c (cs.take n)).isNone then some .string else none := by
  refine unclosedKind?_of_single hc ?_
  rw [Bool.eq_false_iff] at hsingle ⊢
  intro h
  rw [ne_eq, List.isPrefixOf_iff_prefix] at hsingle
  exact hsingle ((List.isPrefixOf_iff_prefix.mp h).trans (List.take_prefix n cs))

/-- The options of a lexer have no part in where the next piece ends. -/
theorem piecesAlike (hv : lexer.vocabulary.IsReachable) (hv' : lexer'.vocabulary.IsReachable)
    (hline : c ≠ '\n') (cs : List Char) : PiecesAlike lexer lexer' c cs := by
  have hreads := readsPiece_nextPiece lexer c cs
  generalize hpiece : lexer.nextPiece c cs = piece at hreads
  -- classes are told apart by the text alone, so the other lexer reads a piece of the same class
  cases hreads with
  | lineEnd hc | lineFeed hc => exact absurd hc hline
  | blank hc hblank => exact .skipped hpiece (ReadsPiece.blank hc hblank).nextPiece_eq
  | lineComment hc =>
    refine .token hpiece (ReadsPiece.lineComment hc).nextPiece_eq (.of_closed hv hv' ?_ ?_)
    · rw [hc]
      decide
    · exact unclosedKind?_of_not_isQuote (by rw [hc]; decide)
  | @closedBlock more n hc hcs hn =>
    refine .token hpiece (ReadsPiece.closedBlock hc hcs hn).nextPiece_eq ?_
    subst hcs
    exact .of_closed hv hv' (beginsWord_of_isQuote hc) (unclosedKind?_of_closedBlock hc hn)
  | openBlock hc hcs hn =>
    refine .token hpiece (ReadsPiece.openBlock hc hcs hn).nextPiece_eq (.of_unclosed hv hv' hc ?_)
    subst hcs
    rw [List.take_length, unclosedKind?_of_triple hc (by simp)]
    simp [hn]
  | @closedString n hc hsingle hn =>
    refine .token hpiece (ReadsPiece.closedString hc hsingle hn).nextPiece_eq
      (.of_closed hv hv' (beginsWord_of_isQuote hc) ?_)
    -- the closing quote was found on the line, and what follows it does not matter
    obtain ⟨tail, htail⟩ : restOfLine cs <+: cs := List.takeWhile_prefix _
    have hclosed := throughClosing?_take hn tail
    rw [htail] at hclosed
    rw [unclosedKind?_of_line hc hsingle, hclosed]
    rfl
  | openString hc hsingle hn =>
    refine .token hpiece (ReadsPiece.openString hc hsingle hn).nextPiece_eq
      (.of_unclosed hv hv' hc ?_)
    have hrest : cs.take (restOfLine cs).length = restOfLine cs :=
      (List.prefix_iff_eq_take.mp (List.takeWhile_prefix _)).symm
    rw [unclosedKind?_of_line hc hsingle, hrest, hn]
    rfl
  | word hc hword =>
    refine .token hpiece (ReadsPiece.word hc hword).nextPiece_eq ?_
    rw [← List.prefix_iff_eq_take.mp (List.takeWhile_prefix continuesWord)]
    -- only for words does the vocabulary have a say
    have hshape : isWordShaped (String.ofList (c :: cs.takeWhile continuesWord)) = true := by
      simp [isWordShaped, hword]
    exact .of_word hshape hc.not_quote
  | number hc hword hdigit =>
    exact .token hpiece (ReadsPiece.number hc hword hdigit).nextPiece_eq
      (.of_closed hv hv' hword (unclosedKind?_of_not_isQuote hc.not_quote))
  | operator hc hword hdigit hop =>
    exact .token hpiece (ReadsPiece.operator hc hword hdigit hop).nextPiece_eq
      (.of_closed hv hv' hword (unclosedKind?_of_not_isQuote hc.not_quote))
  | single hc hword hdigit hop =>
    exact .token hpiece (ReadsPiece.single hc hword hdigit hop).nextPiece_eq
      (.of_closed hv hv' hword (unclosedKind?_of_not_isQuote hc.not_quote))

end pieces

/-! ## Section 4: Scans under two lexers -/

/-- The same text at the same place under two lexers. -/
structure Counterpart (lexer lexer' : Lexer) (t u : Token) : Prop where
  lexeme : u.lexeme = t.lexeme
  line : u.line = t.line
  column : u.column = t.column
  span : u.span = t.span
  kinds : KindsAt lexer lexer' t.lexeme t.kind u.kind

end Lexer

def withoutNewlines (tokens : List Token) : List Token := tokens.filter (·.kind != .newline)

theorem withoutNewlines_cons {t : Token} (h : t.kind ≠ .newline) (tokens : List Token) :
    withoutNewlines (t :: tokens) = t :: withoutNewlines tokens := by
  simp [withoutNewlines, h]

theorem withoutNewlines_cons_of_newline {t : Token} (h : t.kind = .newline)
    (tokens : List Token) : withoutNewlines (t :: tokens) = withoutNewlines tokens := by
  simp [withoutNewlines, h]

namespace Lexer

/-- Only a line feed becomes a line end. -/
theorem kind_ne_newline (lexer : Lexer) {c : Char} (cs : List Char) (hline : c ≠ '\n') :
    (lexer.nextPiece c cs).kind ≠ some .newline := by
  have hreads := readsPiece_nextPiece lexer c cs
  generalize lexer.nextPiece c cs = piece at hreads
  cases hreads with
  | lineEnd hc | lineFeed hc => exact absurd hc hline
  | openBlock | openString => cases lexer.unclosed <;> simp [UnclosedPolicy.kind]
  | word =>
    unfold Vocabulary.classify
    split <;> simp
  | single => split <;> simp
  | _ => simp

variable {lexer lexer' : Lexer}

/-- Every token of a scan is a piece of the source. -/
theorem exists_piece {p : Position} {cs : List Char} {t : Token} (h : t ∈ lexer.scan p cs) :
    ∃ q c rest, (lexer.nextPiece c rest).kind = some t.kind ∧
      t = tokenAt q t.kind (c :: rest.take (lexer.nextPiece c rest).more) := by
  fun_induction Lexer.scan lexer p cs with
  | case1 => cases h
  | case2 =>
    rename_i p c cs piece text later kind hkind ih
    rcases List.mem_cons.mp h with rfl | h
    · exact ⟨p, c, cs, hkind, rfl⟩
    · exact ih h
  | case3 =>
    rename_i ih
    exact ih h

/-- Every token of a source was read as a piece of one of the classes. -/
theorem exists_readsPiece {source : String} {t : Token} (h : t ∈ lexer.tokenize source) :
    ∃ q c rest more, lexer.ReadsPiece c rest ⟨some t.kind, more⟩ ∧
      t = tokenAt q t.kind (c :: rest.take more) := by
  rw [tokenize, analyze_tokens] at h
  obtain ⟨q, c, rest, hkind, hplace⟩ := exists_piece h
  refine ⟨q, c, rest, _, ?_, hplace⟩
  rw [← hkind]
  exact lexer.readsPiece_nextPiece c rest

/-- A line end adds nothing else. -/
theorem withoutNewlines_scan_lineFeed (lexer : Lexer) (p : Position) (cs : List Char) :
    withoutNewlines (lexer.scan p ('\n' :: cs)) =
      withoutNewlines (lexer.scan (p.after ['\n']) cs) := by
  rw [scan, nextPiece_lineFeed]
  cases lexer.emitNewlines with
  | true => exact withoutNewlines_cons_of_newline rfl _
  | false => rfl

/-- A scan goes on with an end piece of what is left, so it is enough to go from all of them to the
    whole. -/
theorem pieceInduction {P : Position → List Char → Prop} (nil : ∀ p, P p [])
    (cons : ∀ p c cs, (∀ q more, P q (cs.drop more)) → P p (c :: cs)) (p : Position)
    (cs : List Char) : P p cs := by
  induction hn : cs.length using Nat.strongRecOn generalizing p cs with
  | ind n ih =>
    cases cs with
    | nil => exact nil p
    | cons c cs =>
      apply cons
      intro q more
      apply ih _ _ q _ rfl
      rw [← hn, List.length_drop, List.length_cons]
      omega

/-- Two lexers go over a text in step, piece by piece. -/
theorem counterparts_scan (hv : lexer.vocabulary.IsReachable)
    (hv' : lexer'.vocabulary.IsReachable) (p : Position) (cs : List Char) :
    List.Forall₂ (Counterpart lexer lexer') (withoutNewlines (lexer.scan p cs))
      (withoutNewlines (lexer'.scan p cs)) := by
  -- what is left behind a piece is the same for both lexers, however their tokens differ
  induction p, cs using pieceInduction with
  | nil p =>
    rw [scan, scan]
    exact .nil
  | cons p c cs ih =>
    by_cases hline : c = '\n'
    · -- a line end may be there for one lexer only, but it does not count here
      subst hline
      rw [withoutNewlines_scan_lineFeed, withoutNewlines_scan_lineFeed]
      exact ih (p.after ['\n']) 0
    · have hne := lexer.kind_ne_newline cs hline
      have hne' := lexer'.kind_ne_newline cs hline
      rw [scan, scan]
      cases piecesAlike hv hv' hline cs with
      | skipped h h' =>
        rw [h, h']
        exact ih _ _
      | token h h' hkinds =>
        rw [h] at hne
        rw [h'] at hne'
        rw [h, h', withoutNewlines_cons (fun hk => hne (congrArg some hk)),
          withoutNewlines_cons (fun hk => hne' (congrArg some hk))]
        exact .cons ⟨rfl, rfl, rfl, rfl, hkinds⟩ (ih _ _)

/-- So do they over a source. -/
theorem counterparts_tokenize (hv : lexer.vocabulary.IsReachable)
    (hv' : lexer'.vocabulary.IsReachable) (source : String) :
    List.Forall₂ (Counterpart lexer lexer') (withoutNewlines (lexer.tokenize source))
      (withoutNewlines (lexer'.tokenize source)) := by
  rw [tokenize, tokenize, analyze_tokens, analyze_tokens]
  exact counterparts_scan hv hv' .start source.toList

end Lexer

end ScriptCheck
