import ScriptCheck.Proofs.Readings

/-! # Guarded Readings

  Reading a yield can go wrong in one way only: an operand or a body is nested
  too deeply. A *guarded* reading comes with the exact condition under which this
  does not happen. Under the condition it is clean; otherwise nesting is the
  first thing that is found wrong, although a reading that deals with obstacles
  may go on and report more.

  Conditions are combined as readings are: two readings in a row are guarded by
  both conditions. So the guard of a construct is found by following the reader
  of the construct, and success and failure are proved in one go.
-/

namespace ScriptCheck

namespace Reading

variable {α β : Type} {input : List Token} {P Q : Prop}

/-! ## Section 1: Nesting as the first obstacle -/

/-- Nesting is the first thing that was found wrong: either no problem was reported before it
    became the obstacle, or it was reported as the first problem. -/
def TooDeep (r : Reading α input) : Prop :=
  (r.outcome = .error .tooDeep ∧ r.problems = []) ∨
    ∃ start ahead problems, r.problems = .blocked .tooDeep start ahead :: problems

theorem tooDeep_fail : (fail .tooDeep input : Reading α input).TooDeep := .inl ⟨rfl, rfl⟩

theorem TooDeep.seenFrom {later : List Token} {r : Reading α later} (h : r.TooDeep)
    (hs : later <:+ input) : (seenFrom hs r).TooDeep := h

theorem TooDeep.map {r : Reading α input} (h : r.TooDeep) (f : α → β) : (r.map f).TooDeep := by
  rcases h with ⟨ho, hp⟩ | hp
  · exact .inl ⟨by simp [Reading.map, ho, Except.map], hp⟩
  · exact .inr hp

/-- What comes after the first obstacle makes no difference. -/
theorem TooDeep.andThen {r : Reading α input} (h : r.TooDeep)
    (f : α → (rest : List Token) → rest.length ≤ input.length → Reading β rest) :
    (r.andThen f).TooDeep := by
  obtain ⟨outcome, rest, problems, suffix⟩ := r
  cases outcome with
  | error obstacle =>
    rcases h with ⟨ho, hp⟩ | hp
    · obtain rfl : obstacle = .tooDeep := Except.error.inj ho
      exact .inl ⟨rfl, hp⟩
    · exact .inr hp
  -- there was no obstacle yet, so nesting is the first of the problems that were reported
  | ok a =>
    rcases h with ⟨ho, _⟩ | ⟨start, ahead, problems', hp⟩
    · cases ho
    · obtain rfl : problems = _ := hp
      exact .inr ⟨start, ahead, _, List.cons_append⟩

/-- After a clean reading the next one decides. -/
theorem Clean.andThen_tooDeep {r : Reading α input} {a : α} {mid : List Token}
    {f : α → (rest : List Token) → rest.length ≤ input.length → Reading β rest}
    (h : r.Clean a mid) (hf : (f a mid h.suffix.length_le).TooDeep) : (r.andThen f).TooDeep := by
  obtain ⟨hs, rfl⟩ := h.exists_eq
  exact hf

/-! ## Section 2: Guarded readings -/

/-- The reading gives `a` and leaves `following` if `P` holds; otherwise nesting is the first thing
    that is found wrong. -/
structure Guarded (r : Reading α input) (P : Prop) (a : α) (following : List Token) : Prop where
  clean : P → ∃ rest, r.Clean a rest ∧ significantTokens rest = following
  tooDeep : ¬ P → r.TooDeep

variable {a : α} {b : β} {following mid : List Token}

/-- A reading that is always clean. -/
theorem Clean.guarded {r : Reading α input} {rest : List Token} (h : r.Clean a rest)
    (hrest : significantTokens rest = following) : r.Guarded True a following where
  clean _ := ⟨rest, h, hrest⟩
  tooDeep hfalse := absurd trivial hfalse

theorem Guarded.congr {r : Reading α input} (h : r.Guarded P a following) (hiff : P ↔ Q) :
    r.Guarded Q a following :=
  propext hiff ▸ h

theorem Guarded.seenFrom {later : List Token} {r : Reading α later} (h : r.Guarded P a following)
    (hs : later <:+ input) : (Reading.seenFrom hs r).Guarded P a following where
  clean hP := by
    obtain ⟨rest, hclean, hrest⟩ := h.clean hP
    exact ⟨rest, clean_seenFrom_iff.mpr hclean, hrest⟩
  tooDeep hP := (h.tooDeep hP).seenFrom hs

theorem Guarded.map {r : Reading α input} (h : r.Guarded P a following) (f : α → β) :
    (r.map f).Guarded P (f a) following where
  clean hP := by
    obtain ⟨rest, hclean, hrest⟩ := h.clean hP
    exact ⟨rest, clean_map_iff.mpr ⟨a, hclean, rfl⟩, hrest⟩
  tooDeep hP := (h.tooDeep hP).map f

/-- Two readings in a row are guarded by both conditions. -/
theorem Guarded.andThen {r : Reading α input}
    {f : α → (rest : List Token) → rest.length ≤ input.length → Reading β rest}
    (h : r.Guarded P a mid)
    (hf : ∀ rest hle, significantTokens rest = mid → (f a rest hle).Guarded Q b following) :
    (r.andThen f).Guarded (P ∧ Q) b following := by
  by_cases hP : P
  -- the first reading is clean, so the second one decides
  · obtain ⟨rest, hclean, hrest⟩ := h.clean hP
    have hnext := hf rest hclean.suffix.length_le hrest
    constructor
    · intro ⟨_, hQ⟩
      obtain ⟨rest', hclean', hrest'⟩ := hnext.clean hQ
      exact ⟨rest', clean_andThen_iff.mpr ⟨a, rest, _, hclean, hclean'⟩, hrest'⟩
    · intro hboth
      have hQ : ¬ Q := fun hQ => hboth ⟨hP, hQ⟩
      exact hclean.andThen_tooDeep (hnext.tooDeep hQ)
  -- the first reading is too deep, and so is the whole
  · constructor
    · intro hboth
      exact absurd hboth.1 hP
    · intro _
      exact (h.tooDeep hP).andThen f

end Reading

/-- A demanded token that comes next is read. -/
theorem guarded_demand {wanted : Token → Bool} {what : Expectation} {input following : List Token}
    {t : Token} (hinput : significantTokens input = t :: following) (ht : wanted t = true) :
    (demand wanted what input).Guarded True t following := by
  obtain ⟨rest, hu, hrest⟩ := exists_upcoming hinput
  exact (clean_demand_iff.mpr ⟨hu, ht⟩).guarded hrest

/-! ## Section 3: Guarded passages -/

namespace Passage

variable {input following : List Token} {P Q : Prop} {ss : List Statement}

/-- Nesting is the first problem of the passage. -/
def TooDeep (p : Passage input) : Prop :=
  ∃ start ahead problems, p.problems = .blocked .tooDeep start ahead :: problems

/-- The passage gives the statements and leaves `following` if `P` holds; otherwise nesting is its
    first problem. -/
structure Guarded (p : Passage input) (P : Prop) (ss : List Statement) (following : List Token) :
    Prop where
  clean : P → ∃ rest, p.Clean ss rest ∧ significantTokens rest = following
  tooDeep : ¬ P → p.TooDeep

theorem Guarded.congr {p : Passage input} (h : p.Guarded P ss following) (hiff : P ↔ Q) :
    p.Guarded Q ss following :=
  propext hiff ▸ h

theorem Guarded.toReading {p : Passage input} (h : p.Guarded P ss following) :
    p.toReading.Guarded P ss following where
  clean hP := by
    obtain ⟨rest, hclean, hrest⟩ := h.clean hP
    exact ⟨rest, clean_toReading_iff.mpr hclean, hrest⟩
  tooDeep hP := .inr (h.tooDeep hP)

theorem Guarded.precededBy {later : List Token} {p : Passage later} (h : p.Guarded P ss following)
    (hs : later <:+ input) : (Passage.precededBy hs [] [] p).Guarded P ss following where
  clean hP := by
    obtain ⟨rest, hclean, hrest⟩ := h.clean hP
    exact ⟨rest, clean_precededBy_iff.mpr ⟨rfl, ss, hclean, rfl⟩, hrest⟩
  tooDeep hP := h.tooDeep hP

end Passage

/-- An obstacle in a statement is reported before the statements after it are read. -/
theorem Reading.TooDeep.continueWith {input : List Token} {r : Reading Statement input}
    (h : r.TooDeep) (start : Token)
    (more : (left : List Token) → left.length ≤ input.length → Passage left) :
    (r.continueWith start more).TooDeep := by
  obtain ⟨outcome, rest, problems, suffix⟩ := r
  cases outcome with
  | error obstacle =>
    rcases h with ⟨ho, hp⟩ | ⟨start', ahead, problems', hp⟩
    -- the obstacle itself becomes the first problem
    · obtain rfl : obstacle = .tooDeep := Except.error.inj ho
      obtain rfl : problems = [] := hp
      exact ⟨some start, _, _, rfl⟩
    · obtain rfl : problems = _ := hp
      exact ⟨start', ahead, _, rfl⟩
  -- the statement was read in spite of the problem, which stays the first one
  | ok s =>
    rcases h with ⟨ho, _⟩ | ⟨start', ahead, problems', hp⟩
    · cases ho
    · obtain rfl : problems = _ := hp
      exact ⟨start', ahead, _, rfl⟩

/-- After a statement that was read cleanly the others decide. -/
theorem Reading.Clean.continueWith_tooDeep {input mid : List Token} {r : Reading Statement input}
    {s : Statement} {start : Token}
    {more : (left : List Token) → left.length ≤ input.length → Passage left}
    (h : r.Clean s mid) (hmore : (more mid h.suffix.length_le).TooDeep) :
    (r.continueWith start more).TooDeep := by
  obtain ⟨hs, rfl⟩ := h.exists_eq
  exact hmore

/-- A list of statements is guarded by the conditions of its first statement and of the others. -/
theorem Reading.Guarded.continueWith {input mid following : List Token} {P Q : Prop}
    {r : Reading Statement input} {s : Statement} {ss : List Statement} {start : Token}
    {more : (left : List Token) → left.length ≤ input.length → Passage left}
    (h : r.Guarded P s mid)
    (hmore : ∀ left hle, significantTokens left = mid → (more left hle).Guarded Q ss following) :
    (r.continueWith start more).Guarded (P ∧ Q) (s :: ss) following := by
  -- as for two readings in a row, only that an obstacle does not end the list
  by_cases hP : P
  · obtain ⟨rest, hclean, hrest⟩ := h.clean hP
    have hnext := hmore rest hclean.suffix.length_le hrest
    constructor
    · intro ⟨_, hQ⟩
      obtain ⟨rest', hclean', hrest'⟩ := hnext.clean hQ
      exact ⟨rest', clean_continueWith_iff.mpr ⟨s, rest, _, hclean, ss, hclean', rfl⟩, hrest'⟩
    · intro hboth
      have hQ : ¬ Q := fun hQ => hboth ⟨hP, hQ⟩
      exact hclean.continueWith_tooDeep (hnext.tooDeep hQ)
  · constructor
    · intro hboth
      exact absurd hboth.1 hP
    · intro _
      exact (h.tooDeep hP).continueWith start more

end ScriptCheck
