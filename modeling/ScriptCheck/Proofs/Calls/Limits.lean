import ScriptCheck.Proofs.Calls.Origins
import ScriptCheck.Proofs.Recovery.Checks

/-! # Raising the Limit

  The limit on nesting is used for one thing only, to give up on operands and
  bodies that are too deep, and that is never passed over in silence. So if nothing
  was found to be too deep, a higher limit makes no difference.

  A level of nesting takes a significant token. A limit as high as their number is
  out of reach.
-/

namespace ScriptCheck

/-! ## Section 1: Readings under two limits -/

/-- Something was found to be too deep: it is the obstacle, or it was reported. -/
def Reading.HitsLimit {α : Type} {input : List Token} (r : Reading α input) : Prop :=
  r.outcome = .error .tooDeep ∨ ∃ start ahead, .blocked .tooDeep start ahead ∈ r.problems

/-- If nothing was too deep the second reading is the same. -/
def Reading.Stays {α : Type} {input : List Token} (r r' : Reading α input) : Prop :=
  r.HitsLimit ∨ r' = r

/-- A passage is known by its reading. -/
theorem Passage.toReading_injective {input : List Token} {p p' : Passage input}
    (h : p'.toReading = p.toReading) : p' = p := by
  obtain ⟨ss, rest, ps, suffix⟩ := p
  obtain ⟨ss', rest', ps', suffix'⟩ := p'
  cases h
  rfl

namespace Reading

section closure
variable {α β : Type} {input later : List Token}

theorem HitsLimit.andThen {r : Reading α input} (h : r.HitsLimit)
    (f : α → (rest : List Token) → rest.length ≤ input.length → Reading β rest) :
    (r.andThen f).HitsLimit := by
  obtain ⟨outcome, rest, problems, suffix⟩ := r
  rcases h with ho | ⟨start, ahead, hp⟩
  · obtain rfl : outcome = _ := ho
    exact .inl rfl
  · -- a problem that was reported stays reported, however the reading goes on
    cases outcome with
    | error obstacle => exact .inr ⟨start, ahead, hp⟩
    | ok a => exact .inr ⟨start, ahead, List.mem_append_left _ hp⟩

theorem Stays.map {r r' : Reading α input} (h : r.Stays r') (f : α → β) :
    (r.map f).Stays (r'.map f) := by
  rcases h with (ho | hp) | rfl
  · exact .inl (.inl (by simp [Reading.map, ho, Except.map]))
  · exact .inl (.inr hp)
  · exact .inr rfl

theorem Stays.andThen {r r' : Reading α input}
    {f f' : α → (rest : List Token) → rest.length ≤ input.length → Reading β rest}
    (h : r.Stays r')
    (hf : ∀ a rest (hs : rest <:+ input), r.Reads a rest →
      (f a rest hs.length_le).Stays (f' a rest hs.length_le)) :
    (r.andThen f).Stays (r'.andThen f') := by
  rcases h with hhits | rfl
  · exact .inl (hhits.andThen f)
  -- the first readings are one and the same, so the second ones start at the same place
  obtain ⟨outcome, rest, problems, suffix⟩ := r'
  cases outcome with
  | error obstacle => exact .inr rfl
  | ok a =>
    rcases hf a rest suffix ⟨rfl, rfl⟩ with (ho | ⟨start, ahead, hp⟩) | heq
    · exact .inl (.inl ho)
    · exact .inl (.inr ⟨start, ahead, List.mem_append_right _ hp⟩)
    · right
      simp only [Reading.andThen, heq]

theorem Stays.precededBy {p p' : Passage later} {ss : List Statement} {ps : List Problem}
    (h : p.toReading.Stays p'.toReading) (hs : later <:+ input) :
    (p.precededBy hs ss ps).toReading.Stays (p'.precededBy hs ss ps).toReading := by
  rcases h with (ho | ⟨start, ahead, hp⟩) | heq
  · cases ho
  · exact .inl (.inr ⟨start, ahead, List.mem_append_right _ hp⟩)
  · exact .inr (by rw [Passage.toReading_injective heq])

/-- An obstacle is dealt with, but it is reported. -/
theorem Stays.continueWith {r r' : Reading Statement input} {start : Token}
    {more more' : (left : List Token) → left.length ≤ input.length → Passage left}
    (h : r.Stays r')
    (hok : ∀ s left (hs : left <:+ input), r.Reads s left →
      (more left hs.length_le).toReading.Stays (more' left hs.length_le).toReading)
    (herror : ∀ obstacle left (hs : resume (upcoming left) left <:+ input),
      r.outcome = .error obstacle → r.rest = left →
      (more _ hs.length_le).toReading.Stays (more' _ hs.length_le).toReading) :
    (r.continueWith start more).toReading.Stays (r'.continueWith start more').toReading := by
  obtain ⟨outcome, rest, problems, suffix⟩ := r
  rcases h with hhits | rfl
  · -- if the limit was the obstacle, it is reported now; if it was reported, it stays so
    left
    right
    cases outcome with
    | ok s =>
      rcases hhits with ho | ⟨start, ahead, hp⟩
      · cases ho
      · exact ⟨start, ahead, List.mem_append_left _ hp⟩
    | error obstacle =>
      rcases hhits with ho | ⟨start', ahead, hp⟩
      · obtain rfl : obstacle = .tooDeep := Except.error.inj ho
        exact ⟨some start, upcoming rest,
          List.mem_append_left _ (List.mem_append_right _ (List.mem_singleton_self _))⟩
      · exact ⟨start', ahead, List.mem_append_left _ (List.mem_append_left _ hp)⟩
  · cases outcome with
    | ok s => exact (hok s rest suffix ⟨rfl, rfl⟩).precededBy suffix
    | error obstacle =>
      have hs := (resume_suffix (upcoming rest) rest).trans suffix
      exact (herror obstacle rest hs rfl rfl).precededBy hs

end closure

end Reading

theorem Call.inherited_stays (limit limit' : Nat) :
    Call.Inherited limit limit' fun _ _ _ r r' => r.Stays r' where
  settled _ _ := .inr rfl
  exceeded _ _ _ := .inl (.inl rfl)
  called _ h := h
  seenFrom _ h := by
    rcases h with hhits | rfl
    · exact .inl hhits
    · exact .inr rfl
  map f h := h.map f
  andThen h hf := h.andThen hf
  precededBy hs _ h := h.precededBy hs
  continueWith h _ hok herror := h.continueWith hok herror

/-! ## Section 2: Checks under two limits -/

section checks
variable {limit limit' : Nat} {tokens : List Token}

/-- Only a problem about nesting is reported with its code. -/
theorem Problem.exists_of_nestingTooDeep {p : Problem}
    (h : (p.diagnose limit tokens).code = some .nestingTooDeep) :
    ∃ start ahead, p = .blocked .tooDeep start ahead := by
  cases p with
  | malformedNumber number after => cases h
  | blocked obstacle start ahead =>
    rw [Problem.diagnose_code, Option.some.injEq] at h
    cases obstacle with
    | tooDeep => exact ⟨start, ahead, rfl⟩
    | expected what =>
      -- any other obstacle is reported by what the token at fault is
      cases ahead with
      | nil => cases h
      | cons t rest =>
        simp only [Obstacle.code, List.head?_cons, Token.faultCode] at h
        split at h
        · split at h <;> cases h
        · cases h

/-- If no nesting is reported as too deep, a higher limit gives the same reading. -/
theorem readProgram_of_le (hle : limit ≤ limit')
    (h : ∀ start ahead, .blocked .tooDeep start ahead ∉ (readProgram limit tokens).problems) :
    readProgram limit' tokens = readProgram limit tokens := by
  have hstays := (Call.inherited_stays limit limit').read hle (.ofProgram tokens)
  have hsame : readStatements limit' 0 .program tokens =
      readStatements limit 0 .program tokens := by
    rcases hstays with (ho | ⟨start, ahead, hp⟩) | heq
    · cases ho
    · -- it is reported, and a program with problems reports all of those of its statements
      refine absurd ?_ (h start ahead)
      have hne : (readStatements limit 0 .program tokens).problems ≠ [] := List.ne_nil_of_mem hp
      rw [readProgram, if_neg (by simp [hne])]
      exact hp
    · exact Passage.toReading_injective heq
  rw [readProgram, readProgram, hsame]

/-- If no nesting is reported as too deep, a check under a higher limit has the same outcome. -/
theorem checkSyntax_of_le (hle : limit ≤ limit')
    (h : ∀ d ∈ (checkSyntax limit tokens).diagnostics, d.code ≠ some .nestingTooDeep) :
    checkSyntax limit' tokens = checkSyntax limit tokens := by
  have hcode (p : Problem) (hp : p ∈ (readProgram limit tokens).problems) :
      (p.diagnose limit tokens).code ≠ some .nestingTooDeep :=
    h _ (List.mem_map_of_mem hp)
  have hsame : readProgram limit' tokens = readProgram limit tokens := by
    apply readProgram_of_le hle
    intro start ahead hp
    exact hcode _ hp (Problem.diagnose_code limit tokens .tooDeep start ahead)
  -- the problems are the same, and no diagnostic but those of nesting shows the limit
  simp only [checkSyntax, hsame]
  congr 1
  apply List.map_congr_left
  intro p hp
  exact Problem.diagnose_of_ne limit' (hcode p hp)

/-- Levels are opened by significant tokens, so under a limit as high as their number none is too
    deep. -/
theorem code_ne_nestingTooDeep (hle : (significantTokens tokens).length ≤ limit) {d : Diagnostic}
    (hd : d ∈ (checkSyntax limit tokens).diagnostics) : d.code ≠ some .nestingTooDeep := by
  intro hcode
  obtain ⟨p, hp, rfl⟩ := List.mem_map.mp hd
  obtain ⟨start, ahead, rfl⟩ := Problem.exists_of_nestingTooDeep hcode
  obtain ⟨c, hreaches, hdepth, -⟩ := Call.exists_exceeds_of_tooDeep hp
  -- the call at fault is deeper than there are tokens to open levels with
  have hbound := hreaches.depth_add_le
  have hzero : (Call.ofProgram tokens).depth = 0 := rfl
  have hinput : (Call.ofProgram tokens).input = tokens := rfl
  rw [hzero, hinput] at hbound
  omega

end checks

end ScriptCheck
