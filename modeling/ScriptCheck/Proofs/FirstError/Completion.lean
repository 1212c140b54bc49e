import ScriptCheck.Proofs.Completeness.Expressions
import ScriptCheck.Proofs.Order.Programs

/-! # Stuck Readings and Completions

  A reading is *stuck* at some tokens if the first thing that it finds wrong is
  found in front of them. What was read up to there is then the beginning of
  something right: it can be completed. The tokens that complete it are always
  the same few, since anything that is missing can be a name, a mark or the
  simplest of all statements.

  A reading that is put together from others is stuck where one of its parts is,
  and the parts in front of that one are clean. So a completion is built from
  the inside out: the clean parts stand in front of it, and what the whole still
  needs is added behind it.
-/

namespace ScriptCheck

/-! ## Section 1: Stuck readings -/

namespace Reading

variable {α β : Type} {input ahead : List Token}

/-- The first thing that was found wrong was found in front of the tokens `ahead`. -/
def StuckAt (r : Reading α input) (ahead : List Token) : Prop :=
  (r.problems = [] ∧ upcoming r.rest = ahead ∧ ∃ obstacle, r.outcome = .error obstacle) ∨
    ∃ obstacle start problems, r.problems = .blocked obstacle start ahead :: problems

@[simp] theorem not_stuckAt_done {a : α} : ¬ (done a input).StuckAt ahead := by
  rintro (⟨-, -, _, h⟩ | ⟨_, _, _, h⟩)
  · cases h
  · cases h

/-- Where nothing could be read, everything is still there. -/
theorem significantTokens_of_stuckAt_fail {obstacle : Obstacle}
    (h : (fail obstacle input : Reading α input).StuckAt ahead) :
    significantTokens ahead = significantTokens input := by
  rcases h with ⟨-, h, -⟩ | ⟨_, _, _, h⟩
  · exact h ▸ significantTokens_upcoming input
  · cases h

@[simp] theorem stuckAt_seenFrom_iff {later : List Token} {hs : later <:+ input}
    {r : Reading α later} : (seenFrom hs r).StuckAt ahead ↔ r.StuckAt ahead :=
  Iff.rfl

@[simp] theorem stuckAt_map_iff {f : α → β} {r : Reading α input} :
    (r.map f).StuckAt ahead ↔ r.StuckAt ahead := by
  obtain ⟨outcome, rest, problems, suffix⟩ := r
  cases outcome with
  | error obstacle =>
    constructor
    · exact Or.imp_left fun ⟨hp, hu, _⟩ => ⟨hp, hu, obstacle, rfl⟩
    · exact Or.imp_left fun ⟨hp, hu, _⟩ => ⟨hp, hu, obstacle, rfl⟩
  | ok a =>
    constructor
    · rintro (⟨-, -, _, h⟩ | h)
      · cases h
      · exact .inr h
    · rintro (⟨-, -, _, h⟩ | h)
      · cases h
      · exact .inr h

/-- Two readings in a row are stuck where the first one is, or else the first one is clean. -/
theorem StuckAt.of_andThen {r : Reading α input}
    {f : α → (mid : List Token) → mid.length ≤ input.length → Reading β mid}
    (h : (r.andThen f).StuckAt ahead) :
    r.StuckAt ahead ∨ ∃ a mid, ∃ hle : mid.length ≤ input.length,
      r.Clean a mid ∧ (f a mid hle).StuckAt ahead := by
  obtain ⟨outcome, mid, problems, suffix⟩ := r
  cases outcome with
  -- the first reading ended at an obstacle, so the second one was not made
  | error obstacle =>
    left
    rcases h with ⟨hp, hu, -⟩ | h
    · exact .inl ⟨hp, hu, obstacle, rfl⟩
    · exact .inr h
  | ok a =>
    cases problems with
    -- nothing went wrong in the first reading: it is the second one that is stuck
    | nil => exact .inr ⟨a, mid, suffix.length_le, ⟨rfl, rfl, rfl⟩, h⟩
    | cons p ps =>
      rcases h with ⟨hp, -, -⟩ | ⟨obstacle, start, problems, hp⟩
      · cases hp
      · obtain ⟨rfl, -⟩ := List.cons.inj hp
        exact .inl (.inr ⟨obstacle, start, ps, rfl⟩)

end Reading

/-- A demanded token that did not come leaves everything that was there. -/
theorem significantTokens_of_stuckAt_demand {wanted : Token → Bool} {what : Expectation}
    {input ahead : List Token} (h : (demand wanted what input).StuckAt ahead) :
    significantTokens ahead = significantTokens input := by
  cases hu : upcoming input with
  | nil =>
    rw [demand_of_nil hu] at h
    rcases h with ⟨-, rfl, -⟩ | ⟨_, _, _, h⟩
    · exact (significantTokens_of_upcoming_nil hu).symm
    · cases h
  | cons t rest =>
    rw [demand_of_cons hu] at h
    split at h
    · rcases h with ⟨-, -, _, h⟩ | ⟨_, _, _, h⟩
      · cases h
      · cases h
    · rcases h with ⟨-, hahead, -⟩ | ⟨_, _, _, h⟩
      · have hahead : upcoming (t :: rest) = ahead := hahead
        rw [← hahead, significantTokens_upcoming, ← hu, significantTokens_upcoming]
      · cases h

/-- Behind a demanded token a reading is stuck where what follows is, unless the token did not
    come. -/
theorem Reading.StuckAt.of_demand {β : Type} {wanted : Token → Bool} {what : Expectation}
    {input ahead : List Token}
    {f : Token → (rest : List Token) → rest.length ≤ input.length → Reading β rest}
    (h : ((demand wanted what input).andThen f).StuckAt ahead) :
    significantTokens ahead = significantTokens input ∨
      ∃ t rest, ∃ hle : rest.length ≤ input.length, upcoming input = t :: rest ∧ wanted t = true ∧
        (f t rest hle).StuckAt ahead := by
  rcases h.of_andThen with h | ⟨t, rest, hle, hclean, h⟩
  · exact .inl (significantTokens_of_stuckAt_demand h)
  · obtain ⟨hu, ht⟩ := clean_demand_iff.mp hclean
    exact .inr ⟨t, rest, hle, hu, ht, h⟩

theorem Reading.StuckAt.of_demandPunctuation {β : Type} {text : String} {input ahead : List Token}
    {f : Token → (rest : List Token) → rest.length ≤ input.length → Reading β rest}
    (h : ((demandPunctuation text input).andThen f).StuckAt ahead) (hi : Token.AreListed input)
    (htext : text ∉ operators) :
    significantTokens ahead = significantTokens input ∨
      ∃ t rest, ∃ hle : rest.length ≤ input.length, rest <:+ input ∧ t.Spells .delimiter text ∧
        significantTokens input = t :: significantTokens rest ∧ (f t rest hle).StuckAt ahead := by
  rcases h.of_demand with hsame | ⟨t, rest, hle, hu, ht, h⟩
  · exact .inl hsame
  · exact .inr ⟨t, rest, hle, suffix_of_upcoming hu, (hi.of_upcoming hu).spells_delimiter htext ht,
      significantTokens_of_upcoming_cons hu, h⟩

/-- A value is read without getting stuck. -/
@[simp] theorem not_stuckAt_readValue {t : Token} {input ahead : List Token} :
    ¬ (readValue t input).StuckAt ahead := by
  rintro (⟨-, -, _, h⟩ | ⟨_, _, _, h⟩)
  · cases h
  · simp only [readValue] at h
    split at h
    · cases h
    · cases h

/-- A list of statements is stuck where its first statement is, or else that one is clean. -/
theorem Reading.StuckAt.of_continueWith {input ahead : List Token} {r : Reading Statement input}
    {start : Token} {more : (left : List Token) → left.length ≤ input.length → Passage left}
    (h : (r.continueWith start more).toReading.StuckAt ahead) :
    r.StuckAt ahead ∨ ∃ s mid, ∃ hle : mid.length ≤ input.length,
      r.Clean s mid ∧ (more mid hle).toReading.StuckAt ahead := by
  cases hr : r.outcome with
  | ok s =>
    rw [continueWith_of_ok hr] at h
    exact h.of_andThen.imp_right fun ⟨s, mid, hle, hclean, hmore⟩ =>
      ⟨s, mid, hle, hclean, stuckAt_map_iff.mp hmore⟩
  | error obstacle =>
    left
    obtain ⟨outcome, mid, problems, suffix⟩ := r
    obtain rfl : outcome = .error obstacle := hr
    rcases h with ⟨-, -, _, h⟩ | ⟨obstacle', start', problems', hp⟩
    · cases h
    · -- the obstacle is reported behind the problems of the statement, so it is first if there are
      -- none
      cases problems with
      | nil =>
        obtain ⟨hp, -⟩ := List.cons.inj hp
        exact .inl ⟨rfl, (Problem.blocked.inj hp).2.2, obstacle, rfl⟩
      | cons p ps =>
        obtain ⟨rfl, -⟩ := List.cons.inj hp
        exact .inr ⟨obstacle', start', ps, rfl⟩

/-! ## Section 2: Tokens that complete -/

/-- A token that was never part of a source. -/
def filler (kind : TokenKind) (text : String) : Token := ⟨kind, text, 1, 1, .emptyAt 0⟩

theorem filler_spells (kind : TokenKind) (text : String) : (filler kind text).Spells kind text :=
  ⟨rfl, rfl⟩

/-- The tokens are significant and spelled as the vocabulary lists them, and numbers are well
    formed. -/
def AreFillers (zs : List Token) : Prop :=
  ∀ t ∈ zs, t.isTrivia = false ∧ t.IsListed ∧ t.isMalformedNumber = false

instance (zs : List Token) : Decidable (AreFillers zs) :=
  inferInstanceAs (Decidable (∀ t ∈ zs, _ ∧ _ ∧ _))

theorem AreFillers.append {zs zs' : List Token} (h : AreFillers zs) (h' : AreFillers zs') :
    AreFillers (zs ++ zs') :=
  List.forall_mem_append.mpr ⟨h, h'⟩

def fillerStatement : List Token :=
  [filler .identifier "x", filler .operator "=", filler .identifier "x"]

def fillerBody : List Token := filler .delimiter ":" :: fillerStatement

/-! ## Section 3: Completions -/

/-- What the tokens have in front of `following` is the beginning of something with the property
    `P`. -/
def CompletesTo (P : List Token → Prop) (tokens following : List Token) : Prop :=
  ∃ ys zs, tokens = ys ++ following ∧ AreFillers zs ∧ P (ys ++ zs)

namespace CompletesTo

variable {P Q : List Token → Prop} {tokens whole following : List Token}

/-- Where nothing has been read yet, fillers are all there is. -/
theorem of_fillers {zs : List Token} (hsame : following = tokens) (hzs : AreFillers zs) (h : P zs) :
    CompletesTo P tokens following :=
  ⟨[], zs, hsame.symm, hzs, h⟩

/-- A completion in a frame: what was read before stands in front, and what is still needed comes
    behind. -/
theorem frame (h : CompletesTo P tokens following) (front back : List Token)
    (hback : AreFillers back) (hwhole : whole = front ++ tokens)
    (hPQ : ∀ ws, P ws → Q (front ++ (ws ++ back))) : CompletesTo Q whole following := by
  obtain ⟨ys, zs, rfl, hzs, hP⟩ := h
  refine ⟨front ++ ys, zs ++ back, ?_, hzs.append hback, ?_⟩
  · rw [hwhole, List.append_assoc]
  · simpa using hPQ _ hP

/-- A completion behind what was read before. -/
theorem behind (h : CompletesTo P tokens following) (front : List Token)
    (hwhole : whole = front ++ tokens) (hPQ : ∀ ws, P ws → Q (front ++ ws)) :
    CompletesTo Q whole following := by
  apply h.frame front [] (by decide) hwhole
  intro ws hP
  rw [List.append_nil]
  exact hPQ ws hP

theorem mono (h : CompletesTo P tokens following) (hPQ : ∀ ws, P ws → Q ws) :
    CompletesTo Q tokens following :=
  h.behind [] rfl hPQ

end CompletesTo

end ScriptCheck
