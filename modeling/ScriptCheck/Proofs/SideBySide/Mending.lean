import ScriptCheck.Proofs.SideBySide.Programs

/-! # Malformed Numbers Change Nothing Else

  A malformed number is reported and read as a value all the same. With a well
  formed number in its place there is one problem less, and every other problem
  is found at the same token.
-/

namespace ScriptCheck

/-! ## Section 1: Mended tokens -/

namespace Token

/-- The token, with a well-formed number in place of a malformed one. -/
def mended (t : Token) : Token := if t.isMalformedNumber then { t with lexeme := "0" } else t

variable (t : Token)

theorem mended_of_wellFormed {t : Token} (h : t.isMalformedNumber = false) : t.mended = t := by
  simp [mended, h]

@[simp] theorem mended_kind : t.mended.kind = t.kind := by
  unfold mended
  split <;> rfl

@[simp] theorem mended_line : t.mended.line = t.line := by
  unfold mended
  split <;> rfl

/-- Only numbers are mended. -/
theorem mended_lexeme {t : Token} (h : t.kind ≠ .number) : t.mended.lexeme = t.lexeme := by
  rw [mended_of_wellFormed (by simp [isMalformedNumber, h])]

@[simp] theorem mended_isTrivia : t.mended.isTrivia = t.isTrivia := by simp [isTrivia]

@[simp] theorem mended_isMalformedNumber : t.mended.isMalformedNumber = false := by
  by_cases h : t.isMalformedNumber = true
  · rw [mended, if_pos h]
    simp [isMalformedNumber]
  · rw [Bool.not_eq_true] at h
    rw [mended_of_wellFormed h, h]

@[simp] theorem mended_isStatementKeyword : t.mended.isStatementKeyword = t.isStatementKeyword := by
  by_cases h : t.kind = .number
  · rw [isStatementKeyword, isStatementKeyword, mended_kind, h]
    rfl
  · simp [isStatementKeyword, mended_lexeme h]

theorem IsListed.mended {t : Token} (h : t.IsListed) : t.mended.IsListed := by
  constructor
  · intro hkind
    rw [mended_kind] at hkind
    rw [mended_lexeme (by simp [hkind])]
    exact h.1 hkind
  · intro hkind
    rw [mended_kind] at hkind
    rw [mended_lexeme (by simp [hkind])]
    exact h.2 hkind

end Token

section mended
variable (tokens : List Token)

@[simp] theorem upcoming_map_mended :
    upcoming (tokens.map Token.mended) = (upcoming tokens).map Token.mended := by
  simp [upcoming, List.dropWhile_map, Function.comp_def]

@[simp] theorem significantTokens_map_mended :
    significantTokens (tokens.map Token.mended) = (significantTokens tokens).map Token.mended := by
  simp [significantTokens, List.filter_map, Function.comp_def]

/-- Reading goes on at the same place. -/
@[simp] theorem resume_map_mended (ahead : List Token) :
    resume (ahead.map Token.mended) (tokens.map Token.mended) =
      (resume ahead tokens).map Token.mended := by
  cases ahead with
  | nil => rfl
  | cons fault rest => simp [resume, List.dropWhile_map, Function.comp_def]

end mended

/-! ## Section 2: Runs on tokens and on mended ones -/

/-- The second run has the mended tokens. -/
def Comparison.ofMending (limit : Nat) : Comparison where
  limit := limit
  limit' := limit
  Exact := False
  KeepsPace := True
  Same t t' := t' = t.mended
  Near _ xs ys := ys = xs.map Token.mended
  Past _ := False

theorem Comparison.lawful_ofMending (limit : Nat) : (ofMending limit).Lawful where
  kind_eq h := by rw [h, Token.mended_kind]
  lexeme_eq h ht := by rw [h, Token.mended_lexeme (ht.resolve_right id)]
  wellFormed h _ := by rw [h, Token.mended_isMalformedNumber]
  limit_lt_iff _ := Iff.rfl
  shallower h := h
  past_of_suffix h _ := h
  next := by
    intro d xs ys h
    subst h
    cases hu : upcoming xs with
    | nil => exact .ended hu (by simp [hu]) rfl id
    | cons t rest => exact .token hu (by rw [upcoming_map_mended, hu]; rfl) rfl rfl rfl id
  resume := by
    intro d xs ys rest rest' t t' _ h hu hu' _
    -- mending changes neither lines nor reserved words, and these are all that the search looks at
    subst h
    rw [upcoming_map_mended, hu] at hu'
    rw [← hu']
    exact .inl (resume_map_mended xs (t :: rest))
  resume_tail := by
    intro d xs ys rest rest' t t' _ h hu hu' _ _
    subst h
    rw [upcoming_map_mended, hu] at hu'
    rw [← hu', ← List.map_tail]
    exact .inl (resume_map_mended xs.tail (t :: rest))
  noLastComma _ _ _ _ _ := id

/-- The first blocked statement is the first problem that the second run reports. -/
theorem Comparison.Reports.find?_isBlocked_mended {limit : Nat} {ps ps' : List Problem}
    (h : (ofMending limit).Reports ps ps') :
    (ps.find? Problem.isBlocked = none ∧ ps' = []) ∨
      ∃ p obstacle start later, ps.find? Problem.isBlocked = some p ∧
        ps' = .blocked obstacle start (p.ahead.map Token.mended) :: later := by
  induction h with
  | nil => exact .inl ⟨rfl, rfl⟩
  | @blocked obstacle start start' ahead ahead' ps ps' _ hfaces _ _ =>
    obtain ⟨d, rfl⟩ := hfaces.near
    exact .inr ⟨.blocked obstacle start ahead, obstacle, start', ps', rfl, rfl⟩
  | number hexact => exact hexact.elim
  | skipped _ _ ih => exact ih

/-- Of mended tokens the first problem is the first one of the tokens themselves that is not about a
    malformed number. -/
theorem find?_isBlocked_mended (limit : Nat) (tokens : List Token) :
    let problems := (readStatements limit 0 .program tokens).problems
    let problems' := (readStatements limit 0 .program (tokens.map Token.mended)).problems
    (problems.find? Problem.isBlocked = none ∧ problems' = []) ∨
      ∃ p obstacle start later, problems.find? Problem.isBlocked = some p ∧
        problems' = .blocked obstacle start (p.ahead.map Token.mended) :: later := by
  have hlawful := Comparison.lawful_ofMending limit
  have hnear : (Comparison.ofMending limit).Near 0 tokens (tokens.map Token.mended) := rfl
  obtain ⟨-, hreports⟩ :=
    (Comparison.sideBySide_readStatements hlawful .program hnear).stays trivial fun _ => id
  exact Comparison.Reports.find?_isBlocked_mended hreports

end ScriptCheck
