import ScriptCheck.Proofs.Readings
import ScriptCheck.Proofs.Terminals

/-! # Exchanging What Follows

  What a clean reading gives depends on the tokens that it consumed and, a little,
  on the one behind them: that one must not go on with the phrase. So what follows
  can be exchanged for anything that does not go on with the phrase either. The
  reading is then clean as before and stops at the same place.

  The inputs are written as a common beginning with either end behind it. The
  readers are followed through the beginning. Where it is used up they look at the
  ends, and then they stop, or else they would take something from the end, which
  the clean reading is known not to do.
-/

namespace ScriptCheck

/-! ## Section 1: Ends that look alike -/

/-- No expression goes on at these ends, and the same marks stand there, if any. -/
structure LookAlike (ending ending' : List Token) : Prop where
  noOperator : ∀ t ∈ (upcoming ending).head?, t.binaryOperator? = none
  noOperator' : ∀ t ∈ (upcoming ending').head?, t.binaryOperator? = none
  nextIs_eq (text : String) : nextIs text ending' = nextIs text ending

/-- Nothing was taken from the end. -/
def Untouched (ending rest : List Token) : Prop := upcoming ending = [] ∨ ending <:+ rest

section ends
variable {ending ending' rest mid later zs : List Token} {t : Token}

theorem Untouched.of_suffix (h : Untouched ending rest) (hs : rest <:+ mid) :
    Untouched ending mid :=
  h.imp_right fun hsuffix => hsuffix.trans hs

/-- What is left when a token was taken from the end no longer contains the end. -/
theorem not_untouched (hu : upcoming ending = t :: later) (hs : rest <:+ later) :
    ¬ Untouched ending rest := by
  rintro (hnil | hsuffix)
  · rw [hu] at hnil
    exact List.cons_ne_nil t later hnil
  · have hlt := length_lt_of_upcoming hu
    have hle := (hsuffix.trans hs).length_le
    omega

/-- A mark is looked for in the beginning or at ends that look alike. -/
theorem LookAlike.nextIs_append (h : LookAlike ending ending') (text : String)
    (zs : List Token) : nextIs text (zs ++ ending') = nextIs text (zs ++ ending) := by
  cases hz : upcoming zs with
  | nil =>
    have heq := h.nextIs_eq text
    unfold nextIs at heq ⊢
    rwa [upcoming_append_of_nil hz, upcoming_append_of_nil hz]
  | cons t zs' =>
    unfold nextIs
    rw [upcoming_append hz, upcoming_append hz]

theorem length_le_of_append_suffix {ys : List Token} (hs : ys ++ ending <:+ zs ++ ending) :
    ys.length ≤ zs.length := by
  have := hs.length_le
  simp only [List.length_append] at this
  omega

end ends

/-! ## Section 2: Readings with exchanged ends -/

namespace Reading

variable {α β : Type} {ending ending' xs ys zs : List Token}

/-- If the first reading is clean and takes nothing from the end, then so is the second one, which
    stops at the same place in front of the other end. -/
structure Exchanges (ending ending' : List Token) (r : Reading α xs) (r' : Reading α ys) :
    Prop where
  of_clean {a : α} {rest : List Token} (h : r.Clean a rest) (hrest : Untouched ending rest) :
    ∃ zs, rest = zs ++ ending ∧ r'.Clean a (zs ++ ending')

theorem exchanges_done (a : α) :
    (done a (zs ++ ending)).Exchanges ending ending' (done a (zs ++ ending')) := by
  constructor
  intro b rest h _
  obtain ⟨rfl, rfl⟩ := clean_done_iff.mp h
  exact ⟨zs, rfl, clean_done_iff.mpr ⟨rfl, rfl⟩⟩

theorem exchanges_fail (obstacle : Obstacle) (r' : Reading α ys) :
    (fail obstacle xs).Exchanges ending ending' r' :=
  ⟨fun h _ => absurd h not_clean_fail⟩

/-- A reading that has taken a token from the end is out of the question. -/
theorem exchanges_of_upcoming {t : Token} {later : List Token} (hu : upcoming ending = t :: later)
    (hs : later <:+ xs) (r : Reading α later) (r' : Reading α ys) :
    (seenFrom hs r).Exchanges ending ending' r' := by
  constructor
  intro a rest h hrest
  exact absurd hrest (not_untouched hu (clean_seenFrom_iff.mp h).suffix)

theorem Exchanges.seenFrom {later later' : List Token} {r : Reading α later}
    {r' : Reading α later'} (h : r.Exchanges ending ending' r') (hs : later <:+ xs)
    (hs' : later' <:+ ys) :
    (Reading.seenFrom hs r).Exchanges ending ending' (Reading.seenFrom hs' r') := by
  constructor
  intro a rest hclean hrest
  obtain ⟨zs, hzs, hclean'⟩ := h.of_clean (clean_seenFrom_iff.mp hclean) hrest
  exact ⟨zs, hzs, clean_seenFrom_iff.mpr hclean'⟩

theorem Exchanges.map {r : Reading α xs} {r' : Reading α ys}
    (h : r.Exchanges ending ending' r') (f : α → β) :
    (r.map f).Exchanges ending ending' (r'.map f) := by
  constructor
  intro b rest hclean hrest
  obtain ⟨a, hclean, hab⟩ := clean_map_iff.mp hclean
  obtain ⟨zs, hzs, hclean'⟩ := h.of_clean hclean hrest
  exact ⟨zs, hzs, clean_map_iff.mpr ⟨a, hclean', hab⟩⟩

/-- The second of two readings begins with what the first one has left of the beginning. -/
theorem Exchanges.andThen {r : Reading α xs} {r' : Reading α ys}
    {f : α → (rest : List Token) → rest.length ≤ xs.length → Reading β rest}
    {f' : α → (rest : List Token) → rest.length ≤ ys.length → Reading β rest}
    (h : r.Exchanges ending ending' r')
    (hf : ∀ a zs hle hle', zs ++ ending <:+ xs →
      (f a (zs ++ ending) hle).Exchanges ending ending' (f' a (zs ++ ending') hle')) :
    (r.andThen f).Exchanges ending ending' (r'.andThen f') := by
  constructor
  intro b rest hclean hrest
  obtain ⟨a, mid, hle, hfirst, hsecond⟩ := clean_andThen_iff.mp hclean
  obtain ⟨zs, rfl, hfirst'⟩ := h.of_clean hfirst (hrest.of_suffix hsecond.suffix)
  have hle' := hfirst'.suffix.length_le
  obtain ⟨zs', hzs', hsecond'⟩ := (hf a zs hle hle' hfirst.suffix).of_clean hsecond hrest
  exact ⟨zs', hzs', clean_andThen_iff.mpr ⟨a, _, hle', hfirst', hsecond'⟩⟩

theorem exchanges_demand (wanted : Token → Bool) (what : Expectation) (zs : List Token) :
    (demand wanted what (zs ++ ending)).Exchanges ending ending'
      (demand wanted what (zs ++ ending')) := by
  constructor
  intro t rest hclean hrest
  obtain ⟨hu, ht⟩ := clean_demand_iff.mp hclean
  cases hz : upcoming zs with
  | nil =>
    -- the beginning is used up, so the token that was read would be one of the end
    rw [upcoming_append_of_nil hz] at hu
    exact absurd hrest (not_untouched hu List.suffix_rfl)
  | cons u zs' =>
    rw [upcoming_append hz] at hu
    obtain ⟨rfl, rfl⟩ := List.cons.inj hu
    exact ⟨zs', rfl, clean_demand_iff.mpr ⟨upcoming_append hz ending', ht⟩⟩

end Reading

/-! ## Section 3: Expressions -/

section lookahead
variable {limit depth least : Nat} {e : Expression} {input : List Token}

theorem readOperations_of_noOperator
    (h : ∀ t ∈ (upcoming input).head?, t.binaryOperator? = none) :
    readOperations limit depth least e input = .done e input := by
  cases hu : upcoming input with
  | nil => exact readOperations_of_nil hu
  | cons t rest => rw [readOperations_of_cons hu, h t (by simp [hu])]

theorem furtherItems_of_not_comma (h : nextIs "," input = false) :
    furtherItems limit depth e input = .done [e] input := by
  unfold nextIs at h
  cases hu : upcoming input with
  | nil => exact furtherItems_of_nil hu
  | cons t rest =>
    rw [hu] at h
    rw [furtherItems_of_cons hu, if_neg (by simp [h])]

theorem exists_of_nextIs {text : String} (h : nextIs text input = true) :
    ∃ t rest, upcoming input = t :: rest ∧ t.isPunctuation text = true := by
  unfold nextIs at h
  cases hu : upcoming input with
  | nil => simp [hu] at h
  | cons t rest => exact ⟨t, rest, rfl, by simpa [hu] using h⟩

end lookahead

section expressions
variable {ending ending' : List Token}

/-- A value that is a single token has been taken before the end is looked at. -/
theorem exchanges_readValue (t : Token) (zs : List Token) :
    (readValue t (zs ++ ending)).Exchanges ending ending' (readValue t (zs ++ ending')) := by
  constructor
  intro e rest h _
  obtain ⟨hnumber, he, rfl⟩ := clean_readValue_iff.mp h
  exact ⟨zs, rfl, clean_readValue_iff.mpr ⟨hnumber, he, rfl⟩⟩

mutual

theorem exchanges_readOperations (hends : LookAlike ending ending') (limit depth least : Nat)
    (left : Expression) (zs : List Token) :
    (readOperations limit depth least left (zs ++ ending)).Exchanges ending ending'
      (readOperations limit depth least left (zs ++ ending')) := by
  cases hz : upcoming zs with
  | nil =>
    -- the ends are looked at, and neither goes on with an operator
    rw [readOperations_of_noOperator (by simpa [upcoming_append_of_nil hz] using hends.noOperator),
      readOperations_of_noOperator (by simpa [upcoming_append_of_nil hz] using hends.noOperator')]
    exact Reading.exchanges_done left
  | cons t zs' =>
    have := length_lt_of_upcoming hz
    rw [readOperations_of_cons (upcoming_append hz ending),
      readOperations_of_cons (upcoming_append hz ending')]
    split
    · exact Reading.exchanges_done left
    · next op hop =>
      split
      · exact Reading.exchanges_done left
      · apply Reading.Exchanges.seenFrom
        apply (exchanges_readExpression hends limit (depth + 1) (op.precedence + 1) zs').andThen
        intro right ys _ _ hs
        have := length_le_of_append_suffix hs
        exact exchanges_readOperations hends limit depth least (.binary op left right) ys
termination_by 5 * zs.length

theorem exchanges_readOperand (hends : LookAlike ending ending') (limit depth : Nat)
    (zs : List Token) :
    (readOperand limit depth (zs ++ ending)).Exchanges ending ending'
      (readOperand limit depth (zs ++ ending')) := by
  by_cases hd : depth ≤ limit
  · cases hz : upcoming zs with
    | nil =>
      -- an operand would begin in the end
      cases hu : upcoming ending with
      | nil =>
        rw [readOperand_of_nil hd (by rw [upcoming_append_of_nil hz, hu])]
        exact Reading.exchanges_fail _ _
      | cons t later =>
        have hu' : upcoming (zs ++ ending) = t :: later := by rw [upcoming_append_of_nil hz, hu]
        rw [readOperand_of_cons hd hu']
        split
        · exact Reading.exchanges_fail _ _
        · exact Reading.exchanges_of_upcoming hu _ _ _
    | cons t zs' =>
      have := length_lt_of_upcoming hz
      rw [readOperand_of_cons hd (upcoming_append hz ending),
        readOperand_of_cons hd (upcoming_append hz ending')]
      cases hhead : t.operandHead? with
      | none => exact Reading.exchanges_fail _ _
      | some head =>
        apply Reading.Exchanges.seenFrom
        cases head with
        | literal => exact exchanges_readValue t zs'
        | name =>
          -- a call or a value: at the ends the same mark is found or missed
          simp only [hends.nextIs_append]
          split
          · apply (Reading.exchanges_demand _ _ zs').andThen
            intro opening ys _ _ hs
            have := length_le_of_append_suffix hs
            exact (exchanges_readItems hends limit (depth + 1) ")" ys).map _
          · exact exchanges_readValue t zs'
        | group =>
          apply (exchanges_readExpression hends limit (depth + 1) 0 zs').andThen
          intro inner ys _ _ _
          exact (Reading.exchanges_demand _ _ ys).map _
        | list close => exact (exchanges_readItems hends limit (depth + 1) close zs').map _
  · have hlimit : limit < depth := by omega
    rw [readOperand, if_pos hlimit]
    exact Reading.exchanges_fail _ _
termination_by 5 * zs.length + 1

theorem exchanges_readExpression (hends : LookAlike ending ending') (limit depth least : Nat)
    (zs : List Token) :
    (readExpression limit depth least (zs ++ ending)).Exchanges ending ending'
      (readExpression limit depth least (zs ++ ending')) := by
  rw [readExpression, readExpression]
  apply (exchanges_readOperand hends limit depth zs).andThen
  intro left ys _ _ hs
  have := length_le_of_append_suffix hs
  exact exchanges_readOperations hends limit depth least left ys
termination_by 5 * zs.length + 2

theorem exchanges_readSeparated (hends : LookAlike ending ending') (limit depth : Nat)
    (zs : List Token) :
    (readSeparated limit depth (zs ++ ending)).Exchanges ending ending'
      (readSeparated limit depth (zs ++ ending')) := by
  rw [readSeparated_eq, readSeparated_eq]
  apply (exchanges_readExpression hends limit depth 0 zs).andThen
  intro e ys _ _ hs
  have := length_le_of_append_suffix hs
  cases hz : upcoming ys with
  | nil =>
    cases hcomma : nextIs "," ending with
    | true =>
      -- an item would be read from the end
      obtain ⟨t, later, hu, ht⟩ := exists_of_nextIs hcomma
      have hu' : upcoming (ys ++ ending) = t :: later := by rw [upcoming_append_of_nil hz, hu]
      rw [furtherItems_of_cons hu', if_pos ht]
      exact Reading.exchanges_of_upcoming hu _ _ _
    | false =>
      have hcomma' : nextIs "," (ys ++ ending) = false := by
        unfold nextIs at hcomma ⊢
        rwa [upcoming_append_of_nil hz]
      rw [furtherItems_of_not_comma hcomma',
        furtherItems_of_not_comma (by rw [hends.nextIs_append, hcomma'])]
      exact Reading.exchanges_done [e]
  | cons t ys' =>
    have := length_lt_of_upcoming hz
    rw [furtherItems_of_cons (upcoming_append hz ending),
      furtherItems_of_cons (upcoming_append hz ending')]
    split
    · exact ((exchanges_readSeparated hends limit depth ys').map _).seenFrom _ _
    · exact Reading.exchanges_done [e]
termination_by 5 * zs.length + 3

theorem exchanges_readItems (hends : LookAlike ending ending') (limit depth : Nat)
    (close : String) (zs : List Token) :
    (readItems limit depth close (zs ++ ending)).Exchanges ending ending'
      (readItems limit depth close (zs ++ ending')) := by
  unfold readItems
  rw [hends.nextIs_append]
  split
  · exact (Reading.exchanges_demand _ _ zs).map _
  · apply (exchanges_readSeparated hends limit depth zs).andThen
    intro es ys _ _ _
    exact (Reading.exchanges_demand _ _ ys).map _
termination_by 5 * zs.length + 4

end

end expressions

/-! ## Section 4: Simple statements -/

/-- A statement that starts so has a body. -/
def StatementHead.hasBody : StatementHead → Bool
  | .ifWord | .whileWord | .forWord | .defWord => true
  | .name | .printWord | .returnWord => false

/-- The head of a statement tells whether it is simple. -/
theorem gives_isSimple_readStatement (limit depth : Nat) (head : StatementHead) (lexeme : String)
    (input : List Token) :
    (readStatement limit depth head lexeme input).Gives fun s _ =>
      s.isSimple = !head.hasBody := by
  -- the parts may be anything: only the constructor that is applied to them at last counts
  cases head with
  | name =>
    rw [readStatement]
    unfold readNamed
    split
    · apply (Reading.gives_any _).andThen
      intro _ _ _ _
      exact (Reading.gives_any _).map fun _ _ _ => rfl
    · split
      · apply (Reading.gives_any _).andThen
        intro _ _ _ _
        exact (Reading.gives_any _).map fun _ _ _ => rfl
      · exact Reading.gives_fail _
  | printWord =>
    rw [readStatement]
    apply (Reading.gives_any _).andThen
    intro _ _ _ _
    apply (Reading.gives_any _).andThen
    intro _ _ _ _
    exact (Reading.gives_any _).map fun _ _ _ => rfl
  | returnWord =>
    rw [readStatement]
    exact (Reading.gives_any _).map fun _ _ _ => rfl
  | ifWord =>
    rw [readStatement_if]
    apply (Reading.gives_any _).andThen
    intro _ _ _ _
    apply (Reading.gives_any _).andThen
    intro _ _ _ _
    exact gives_readElse rfl fun _ _ _ => (Reading.gives_any _).imp fun _ _ _ => rfl
  | whileWord =>
    rw [readStatement]
    apply (Reading.gives_any _).andThen
    intro _ _ _ _
    exact (Reading.gives_any _).map fun _ _ _ => rfl
  | forWord =>
    rw [readStatement]
    iterate 3
      apply (Reading.gives_any _).andThen
      intro _ _ _ _
    exact (Reading.gives_any _).map fun _ _ _ => rfl
  | defWord =>
    rw [readStatement]
    iterate 4
      apply (Reading.gives_any _).andThen
      intro _ _ _ _
    exact (Reading.gives_any _).map fun _ _ _ => rfl

section statements
variable {ending ending' : List Token}

theorem exchanges_readNamed (hends : LookAlike ending ending') (limit depth : Nat)
    (name : String) (zs : List Token) :
    (readNamed limit depth name (zs ++ ending)).Exchanges ending ending'
      (readNamed limit depth name (zs ++ ending')) := by
  unfold readNamed
  simp only [hends.nextIs_append]
  split
  · apply (Reading.exchanges_demand _ _ zs).andThen
    intro equals ys _ _ _
    exact (exchanges_readExpression hends limit depth 0 ys).map _
  · split
    · apply (Reading.exchanges_demand _ _ zs).andThen
      intro opening ys _ _ _
      exact (exchanges_readItems hends limit (depth + 1) ")" ys).map _
    · exact Reading.exchanges_fail _ _

theorem exchanges_readPrint (hends : LookAlike ending ending') (limit depth : Nat)
    (zs : List Token) :
    (readPrint limit depth (zs ++ ending)).Exchanges ending ending'
      (readPrint limit depth (zs ++ ending')) := by
  apply (Reading.exchanges_demand _ _ zs).andThen
  intro opening ys _ _ _
  apply (exchanges_readExpression hends limit (depth + 1) 0 ys).andThen
  intro argument ys' _ _ _
  exact (Reading.exchanges_demand _ _ ys').map _

/-- A simple statement does not depend on what follows it. -/
theorem exchanges_readStatement (hends : LookAlike ending ending') (limit depth : Nat)
    {head : StatementHead} (hhead : head.hasBody = false) (lexeme : String) (zs : List Token) :
    (readStatement limit depth head lexeme (zs ++ ending)).Exchanges ending ending'
      (readStatement limit depth head lexeme (zs ++ ending')) := by
  -- a statement with a body is left out: the body goes on for as long as statements follow
  cases head with
  | name =>
    rw [readStatement, readStatement]
    exact exchanges_readNamed hends limit depth lexeme zs
  | printWord =>
    rw [readStatement, readStatement]
    exact exchanges_readPrint hends limit depth zs
  | returnWord =>
    rw [readStatement, readStatement]
    exact (exchanges_readExpression hends limit depth 0 zs).map _
  | ifWord | whileWord | forWord | defWord => cases hhead

end statements

end ScriptCheck
