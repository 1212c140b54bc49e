import ScriptCheck.Proofs.Calls.Inheritance

/-! # Where Problems Come From

  Every problem that comes of a call was reported by a call that it leads to, and
  where nesting is the obstacle one of these calls exceeds the limit. Therefore a
  problem about nesting has a witness, the call whose depth was too large, and
  the depth of a call is something that the input pays for.
-/

namespace ScriptCheck

namespace Call

/-! ## Section 1: Readings in the course of a call -/

/-- What went wrong in the reading went wrong in calls that this call leads to. -/
structure Explains (limit : Nat) (c : Call) {α : Type} {input : List Token}
    (r : Reading α input) : Prop where
  tooDeep : r.outcome = .error .tooDeep →
    ∃ c', Reaches limit c c' ∧ c'.ExceedsLimit limit ∧ c'.input = r.rest
  problems : ∀ p ∈ r.problems, ∃ c', Reaches limit c c' ∧ c'.Finds limit p

section closure
variable {limit : Nat} {c c' : Call} {α β : Type} {input : List Token}

/-- A call explains what the calls that it makes explain. -/
theorem Explains.called {r : Reading α input} (h : c'.Explains limit r)
    (hmakes : Makes limit c c') : c.Explains limit r where
  tooDeep ho := by
    obtain ⟨c'', hreaches, hexceeds⟩ := h.tooDeep ho
    exact ⟨c'', .head hmakes hreaches, hexceeds⟩
  problems p hp := by
    obtain ⟨c'', hreaches, hfinds⟩ := h.problems p hp
    exact ⟨c'', .head hmakes hreaches, hfinds⟩

theorem Explains.map {r : Reading α input} (h : c.Explains limit r) (f : α → β) :
    c.Explains limit (r.map f) where
  tooDeep ho := by
    apply h.tooDeep
    cases hr : r.outcome with
    | error obstacle => simpa [Reading.map, hr, Except.map] using ho
    | ok a => simp [Reading.map, hr, Except.map] at ho
  problems := h.problems

theorem Explains.andThen {r : Reading α input}
    {f : α → (rest : List Token) → rest.length ≤ input.length → Reading β rest}
    (h : c.Explains limit r)
    (hf : ∀ a rest (hs : rest <:+ input), r.Reads a rest →
      c.Explains limit (f a rest hs.length_le)) : c.Explains limit (r.andThen f) := by
  obtain ⟨outcome, rest, problems, suffix⟩ := r
  cases outcome with
  | error obstacle =>
    constructor
    · intro ho
      exact h.tooDeep (Except.error.inj ho ▸ rfl)
    · exact h.problems
  | ok a =>
    -- the obstacle, if any, is that of the second reading; problems come from both
    have hnext := hf a rest suffix ⟨rfl, rfl⟩
    constructor
    · exact hnext.tooDeep
    · intro p hp
      rcases List.mem_append.mp hp with hp | hp
      · exact h.problems p hp
      · exact hnext.problems p hp

theorem Explains.precededBy {later : List Token} {ss : List Statement} {ps : List Problem}
    {p : Passage later} (h : c.Explains limit p.toReading) (hs : later <:+ input)
    (hps : ∀ x ∈ ps, ∃ c', Reaches limit c c' ∧ c'.Finds limit x) :
    c.Explains limit (p.precededBy hs ss ps).toReading where
  tooDeep ho := by cases ho
  problems x hx := by
    rcases List.mem_append.mp hx with hx | hx
    · exact hps x hx
    · exact h.problems x hx

/-- The obstacle is reported by the call that deals with it. -/
theorem Explains.continueWith {r : Reading Statement input} {start : Token}
    {more : (left : List Token) → left.length ≤ input.length → Passage left}
    (h : c.Explains limit r)
    (hfinds : ∀ obstacle, r.outcome = .error obstacle →
      c.Finds limit (.blocked obstacle (some start) (upcoming r.rest)))
    (hok : ∀ s left (hs : left <:+ input), r.Reads s left →
      c.Explains limit (more left hs.length_le).toReading)
    (herror : ∀ obstacle left (hs : resume (upcoming left) left <:+ input),
      r.outcome = .error obstacle → r.rest = left →
      c.Explains limit (more _ hs.length_le).toReading) :
    c.Explains limit (r.continueWith start more).toReading := by
  obtain ⟨outcome, rest, problems, suffix⟩ := r
  cases outcome with
  | error obstacle =>
    -- the list reads on, and the obstacle is the last of the problems before it does
    have hs := (resume_suffix (upcoming rest) rest).trans suffix
    apply (herror obstacle rest hs rfl rfl).precededBy hs
    intro x hx
    rcases List.mem_append.mp hx with hx | hx
    · exact h.problems x hx
    · exact List.mem_singleton.mp hx ▸ ⟨c, .refl, hfinds obstacle rfl⟩
  | ok s => exact (hok s rest suffix ⟨rfl, rfl⟩).precededBy suffix h.problems

end closure

/-! ## Section 2: Every call explains its reading -/

theorem inherited_explains (limit : Nat) :
    Inherited limit limit fun c _ _ r _ => c.Explains limit r where
  settled hproblems h :=
    ⟨fun ho => absurd ho h, fun p hp => ⟨_, .refl, hproblems p hp⟩⟩
  exceeded hc hinput _ := ⟨fun _ => ⟨_, .refl, hc, hinput⟩, by simp [Reading.fail]⟩
  called hmakes h := h.called hmakes
  seenFrom _ h := ⟨h.tooDeep, h.problems⟩
  map f h := h.map f
  andThen h hf := h.andThen hf
  precededBy hs hps h := h.precededBy hs fun x hx => ⟨_, .refl, hps x hx⟩
  continueWith h hfinds hok herror := h.continueWith hfinds hok herror

theorem explains (limit : Nat) (c : Call) : c.Explains limit (c.read limit) :=
  (inherited_explains limit).read (Nat.le_refl limit) c

/-! ## Section 3: Problems of programs -/

section programs
variable {limit : Nat} {c : Call} {tokens ahead : List Token} {start : Option Token}

/-- A problem about nesting is found where a call exceeds the limit. -/
theorem Finds.exists_exceeds (h : c.Finds limit (.blocked .tooDeep start ahead)) :
    ∃ c', Reaches limit c c' ∧ c'.ExceedsLimit limit ∧ upcoming c'.input = ahead := by
  cases h with
  | interrupted hu ht hfirst =>
    obtain ⟨c', hreaches, hexceeds, hinput⟩ := (explains limit (.statement ..)).tooDeep hfirst
    exact ⟨c', .head (.firstStatement hu ht) hreaches, hexceeds, congrArg upcoming hinput⟩

/-- A program with nothing to read is a problem of its own. Every other one was found by a call. -/
theorem exists_finds {p : Problem} (h : p ∈ (readProgram limit tokens).problems) :
    (significantTokens tokens = [] ∧ p = .blocked (.expected .statement) none []) ∨
      ∃ c, Reaches limit (ofProgram tokens) c ∧ c.Finds limit p := by
  cases hu : upcoming tokens with
  | nil =>
    -- nothing to read: it is the program itself that reports this
    left
    refine ⟨significantTokens_of_upcoming_nil hu, ?_⟩
    rw [readProgram, readStatements_of_nil hu] at h
    exact List.mem_singleton.mp h
  | cons t rest =>
    rw [readProgram_problems_of_cons hu] at h
    exact .inr ((explains limit (ofProgram tokens)).problems p h)

/-- A program is found to be nested too deeply only where a call exceeds the limit. -/
theorem exists_exceeds_of_tooDeep
    (h : .blocked .tooDeep start ahead ∈ (readProgram limit tokens).problems) :
    ∃ c, Reaches limit (ofProgram tokens) c ∧ limit < c.depth ∧ upcoming c.input = ahead := by
  rcases exists_finds h with ⟨-, hp⟩ | ⟨c, hreaches, hfinds⟩
  · cases hp
  · obtain ⟨c', hreaches', hexceeds, hahead⟩ := hfinds.exists_exceeds
    exact ⟨c', hreaches.trans hreaches', hexceeds.lt_depth, hahead⟩

end programs

end Call

end ScriptCheck
