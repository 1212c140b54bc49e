import ScriptCheck.Proofs.Scanner.Options

/-! # Words That Can Be Reserved

  A word can be reserved if it has the shape of a word. The lexer has a rule of
  its own for what it reads as one word, within a choice between many classes of
  lexemes. The two agree: a word can be reserved exactly if the lexer, given the
  word alone, reads one word and nothing else.

  One half needs that no other class comes first, which is a fact about the
  character tables: no character with which a word begins is blank or a quote.
  The other half needs that no other class gives out words.
-/

namespace ScriptCheck

/-! ## Section 1: Characters with which words begin -/

/-- Every code point of the ranges, one by one. -/
def Text.CodePoints.expanded (ranges : CodePoints) : List Nat :=
  ranges.flatMap fun (first, last) => List.range' first (last + 1 - first)

theorem Text.CodePoints.mem_expanded {ranges : CodePoints} {n : Nat}
    (h : ranges.covers n = true) : n ∈ ranges.expanded := by
  obtain ⟨r, hr, hfirst, hlast⟩ := exists_range_of_covers h
  rw [expanded, List.mem_flatMap]
  refine ⟨r, hr, ?_⟩
  rw [List.mem_range'_1]
  omega

/-- White space is not alphabetic, and the underscore is no white space. -/
theorem Text.not_alphabetic_of_mem_blank :
    ∀ n ∈ blankRanges.expanded, alphabeticRanges.covers n = false ∧ n ≠ '_'.toNat := by
  decide +kernel

theorem beginsWord_of_isBlank {c : Char} (h : Text.isBlank c = true) : beginsWord c = false := by
  obtain ⟨halphabetic, hunderscore⟩ :=
    Text.not_alphabetic_of_mem_blank _ (Text.CodePoints.mem_expanded h)
  have hne : c ≠ '_' := fun heq => hunderscore (congrArg Char.toNat heq)
  simp [beginsWord, Text.isAlphabetic, halphabetic, hne]

/-- A character with which a word begins is in no class that comes before words. -/
theorem isOrdinary_of_beginsWord {c : Char} (h : beginsWord c = true) : IsOrdinary c where
  ne_lineFeed := by
    rintro rfl
    revert h
    decide
  not_blank := by
    rw [Bool.eq_false_iff]
    intro hblank
    rw [beginsWord_of_isBlank hblank] at h
    cases h
  ne_hash := by
    rintro rfl
    revert h
    decide
  not_quote := by
    rw [Bool.eq_false_iff]
    intro hquote
    rw [Lexer.beginsWord_of_isQuote hquote] at h
    cases h

/-! ## Section 2: Words of a source -/

def TokenKind.isWord : TokenKind → Bool
  | .identifier | .keyword => true
  | _ => false

theorem Vocabulary.isWord_classify (v : Vocabulary) (word : String) :
    (v.classify word).isWord = true := by
  unfold classify
  split <;> rfl

theorem Vocabulary.classify_eq_keyword_iff {v : Vocabulary} {word : String} :
    v.classify word = .keyword ↔ word ∈ v.keywords := by
  simp [classify, isKeyword]

namespace Lexer

/-- The lexer reads the text as one word and nothing else. -/
def ReadsWord (lexer : Lexer) (word : String) : Prop :=
  ∃ t, lexer.tokenize word = [t] ∧ t.kind.isWord = true ∧ t.lexeme = word

section words
variable {lexer : Lexer} {c : Char} {cs : List Char}

/-- A piece that becomes a word is a text of the shape of a word, and the vocabulary says which. -/
theorem ReadsPiece.word_of_isWord {kind : TokenKind} {more : Nat}
    (h : lexer.ReadsPiece c cs ⟨some kind, more⟩) (hkind : kind.isWord = true) :
    isWordShaped (String.ofList (c :: cs.take more)) = true ∧
      kind = lexer.vocabulary.classify (String.ofList (c :: cs.take more)) := by
  -- an unclosed text is never given out as a word, whatever the policy
  cases h with
  | word hc hword =>
    rw [← List.prefix_iff_eq_take.mp (List.takeWhile_prefix continuesWord)]
    exact ⟨by simp [isWordShaped, hword], rfl⟩
  | openBlock | openString =>
    cases hpolicy : lexer.unclosed <;>
      simp [hpolicy, UnclosedPolicy.kind, TokenKind.isWord] at hkind
  | single => split at hkind <;> cases hkind
  | _ => cases hkind

/-- So is every word of a source. -/
theorem word_of_mem_tokenize {source : String} {t : Token} (ht : t ∈ lexer.tokenize source)
    (hword : t.kind.isWord = true) :
    isWordShaped t.lexeme = true ∧ t.kind = lexer.vocabulary.classify t.lexeme := by
  obtain ⟨p, c, cs, more, hreads, hplace⟩ := exists_readsPiece ht
  have hlexeme : t.lexeme = String.ofList (c :: cs.take more) := congrArg Token.lexeme hplace
  rw [hlexeme]
  exact hreads.word_of_isWord hword

/-- A text of the shape of a word is read as one word. -/
theorem scan_word (hword : beginsWord c = true) (hmore : cs.all continuesWord = true)
    (p : Position) :
    lexer.scan p (c :: cs) =
      [tokenAt p (lexer.vocabulary.classify (String.ofList (c :: cs))) (c :: cs)] := by
  have hall : cs.takeWhile continuesWord = cs :=
    List.takeWhile_eq_self_iff.mpr (List.all_eq_true.mp hmore)
  have hreads : lexer.ReadsPiece c cs _ := .word (isOrdinary_of_beginsWord hword) hword
  have hpiece := hreads.nextPiece_eq
  rw [hall] at hpiece
  rw [scan_token (List.append_nil cs).symm hpiece, scan_nil]

/-- The rule for reserving words is the lexer's rule for reading them. -/
theorem readsWord_iff {word : String} : lexer.ReadsWord word ↔ isWordShaped word = true := by
  constructor
  · rintro ⟨t, htokens, hkind, rfl⟩
    exact (word_of_mem_tokenize (htokens ▸ List.mem_singleton_self t) hkind).1
  · intro hshape
    unfold isWordShaped at hshape
    split at hshape
    · -- a word has at least one character
      cases hshape
    · next first rest hword =>
      rw [Bool.and_eq_true] at hshape
      have htokens := lexer.scan_word hshape.1 hshape.2 .start
      rw [← hword, ← analyze_tokens] at htokens
      exact ⟨_, htokens, Vocabulary.isWord_classify _ _, String.ofList_toList⟩

end words

end Lexer

/-! ## Section 3: Reserving words -/

namespace Vocabulary

/-- The words that are not reserved yet, each where it comes first. -/
def newWords (v : Vocabulary) (words : List String) : List String :=
  (words.filter fun word => !v.isKeyword word).eraseDups

variable {v v' : Vocabulary} {word : String} {words : List String}

theorem newWords_cons_of_isKeyword (h : v.isKeyword word = true) :
    v.newWords (word :: words) = v.newWords words := by
  simp [newWords, h]

theorem newWords_cons_of_not_isKeyword (h : v.isKeyword word = false) :
    v.newWords (word :: words) = word :: (v.insert word).newWords words := by
  -- behind its first place a word counts as reserved, so that it is not new again
  have hinsert (other : String) :
      (v.insert word).isKeyword other = (v.isKeyword other || other == word) := by
    rw [insert, if_neg (by simp [h])]
    simp [isKeyword, Bool.beq_eq_decide_eq]
  simp [newWords, h, hinsert, List.eraseDups_cons, List.filter_filter, Bool.and_comm]

/-- Words of the right shape are reserved, the new ones behind the old ones. -/
theorem reserve_of_shaped (h : ∀ word ∈ words, isWordShaped word = true) :
    v.reserve words = .ok ⟨v.keywords ++ v.newWords words⟩ := by
  induction words generalizing v with
  | nil => simp [reserve, newWords]
  | cons word rest ih =>
    rw [List.forall_mem_cons] at h
    rw [reserve, if_pos h.1, ih h.2]
    -- a word that is reserved already leaves the vocabulary as it is
    cases hknown : v.isKeyword word with
    | true => rw [newWords_cons_of_isKeyword hknown, insert, if_pos hknown]
    | false =>
      rw [newWords_cons_of_not_isKeyword hknown]
      simp [insert, hknown]

/-- The first word without the shape of a word is refused. -/
theorem reserve_eq_error_iff {e : UnreadableWord} :
    v.reserve words = .error e ↔ words.find? (fun word => !isWordShaped word) = some e.word := by
  induction words generalizing v with
  | nil => simp [reserve]
  | cons word rest ih =>
    rw [reserve]
    by_cases hshape : isWordShaped word = true
    · rw [if_pos hshape, ih, List.find?_cons_of_neg (by simp [hshape])]
    · rw [if_neg hshape, List.find?_cons_of_pos (by simp [hshape])]
      cases e
      simp

/-- Words are reserved only if all of them have the right shape. -/
theorem reserve_eq_ok_iff :
    v.reserve words = .ok v' ↔
      (∀ word ∈ words, isWordShaped word = true) ∧ v' = ⟨v.keywords ++ v.newWords words⟩ := by
  constructor
  · intro h
    have hshape : ∀ word ∈ words, isWordShaped word = true := by
      cases hfind : words.find? fun word => !isWordShaped word with
      | none => simpa using hfind
      | some word =>
        rw [reserve_eq_error_iff (e := ⟨word⟩) |>.mpr hfind] at h
        cases h
    rw [reserve_of_shaped hshape] at h
    exact ⟨hshape, (Except.ok.inj h).symm⟩
  · rintro ⟨hshape, rfl⟩
    exact reserve_of_shaped hshape

/-- Words can be reserved in two steps or in one. -/
theorem reserve_append (v : Vocabulary) (words more : List String) :
    v.reserve (words ++ more) = (v.reserve words).bind (·.reserve more) := by
  induction words generalizing v with
  | nil => rfl
  | cons word rest ih =>
    rw [List.cons_append, reserve, reserve]
    split
    · exact ih (v.insert word)
    · rfl

/-- Then what is reserved is what was reserved and the words. -/
theorem mem_keywords_of_reserve (h : v.reserve words = .ok v') :
    word ∈ v'.keywords ↔ word ∈ v.keywords ∨ word ∈ words := by
  obtain ⟨-, rfl⟩ := reserve_eq_ok_iff.mp h
  by_cases hold : word ∈ v.keywords <;> simp [newWords, List.mem_eraseDups, isKeyword, hold]

end Vocabulary

/-! ## Section 4: The main result -/

/-- A list of words can be reserved exactly if a lexer, whatever its options, reads each of them as
    one word, and if not, the first one that it does not read so is refused. Reserved words stand in
    the order in which they were added, each where it came first; adding two lists one after the
    other is adding both at once. A word of a source is a keyword exactly if it was one before or is
    among the words that were added. -/
theorem reserve_eq_ok_iff_readsWord (v : Vocabulary) (words more : List String) (lexer : Lexer) :
    ((∃ v', v.reserve words = .ok v') ↔ ∀ word ∈ words, lexer.ReadsWord word) ∧
      (∀ e, v.reserve words = .error e ↔
        ∃ before after, words = before ++ e.word :: after ∧
          (∀ word ∈ before, lexer.ReadsWord word) ∧ ¬ lexer.ReadsWord e.word) ∧
      v.reserve (words ++ more) = (v.reserve words).bind (·.reserve more) ∧
      ∀ v', v.reserve words = .ok v' →
        v'.keywords = v.keywords ++ v.newWords words ∧
        ∀ lexer' : Lexer, lexer'.vocabulary = v' →
          ∀ source, ∀ t ∈ lexer'.tokenize source, t.kind.isWord = true →
            (t.kind = .keyword ↔ t.lexeme ∈ v.keywords ∨ t.lexeme ∈ words) := by
  -- from here on the shape of words stands for what lexers read
  simp only [Lexer.readsWord_iff]
  refine ⟨?_, ?_, v.reserve_append words more, ?_⟩
  · exact ⟨fun ⟨v', h⟩ => (Vocabulary.reserve_eq_ok_iff.mp h).1,
      fun h => ⟨_, Vocabulary.reserve_of_shaped h⟩⟩
  · intro e
    rw [Vocabulary.reserve_eq_error_iff, List.find?_eq_some_iff_append]
    simp only [Bool.not_eq_true', Bool.not_not, Bool.not_eq_true]
    constructor
    · rintro ⟨hnot, before, after, hwords, hbefore⟩
      exact ⟨before, after, hwords, hbefore, hnot⟩
    · rintro ⟨before, after, hwords, hbefore, hnot⟩
      exact ⟨hnot, before, after, hwords, hbefore⟩
  · intro v' h
    refine ⟨congrArg Vocabulary.keywords (Vocabulary.reserve_eq_ok_iff.mp h).2, ?_⟩
    rintro lexer' rfl source t ht hword
    rw [(Lexer.word_of_mem_tokenize ht hword).2, Vocabulary.classify_eq_keyword_iff]
    exact Vocabulary.mem_keywords_of_reserve h

end ScriptCheck
