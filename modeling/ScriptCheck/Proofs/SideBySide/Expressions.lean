import ScriptCheck.Proofs.SideBySide.Comparison
import ScriptCheck.Proofs.Terminals

/-! # Expressions Side by Side

  The readers of expressions run side by side on inputs that correspond. The
  five readers call each other, so the five statements are proved together,
  along the measure on which the readers recurse in the first run.
-/

namespace ScriptCheck

/-! ## Section 1: Problems of expressions lie in their input -/

section within
variable (limit depth least : Nat) (input : List Token)

@[simp] theorem within_readOperations (left : Expression) :
    (readOperations limit depth least left input).Within :=
  (readOperations_forward limit depth least left input).within

@[simp] theorem within_readOperand : (readOperand limit depth input).Within :=
  (readOperand_forward limit depth input).within

@[simp] theorem within_readExpression : (readExpression limit depth least input).Within :=
  (readExpression_forward limit depth least input).within

@[simp] theorem within_readSeparated : (readSeparated limit depth input).Within :=
  (readSeparated_forward limit depth input).within

@[simp] theorem within_readItems (close : String) : (readItems limit depth close input).Within :=
  (readItems_forward limit depth close input).within

@[simp] theorem within_furtherItems (e : Expression) :
    (furtherItems limit depth e input).Within := by
  cases hu : upcoming input with
  | nil => simp [furtherItems_of_nil hu]
  | cons t rest =>
    rw [furtherItems_of_cons hu]
    split
    · simp [Reading.Within.seenFrom]
    · simp

@[simp] theorem within_demandPunctuation (text : String) :
    (demandPunctuation text input).Within :=
  Reading.within_demand _ _

/-- A name is no number, so it is read without a problem. -/
theorem within_named {t : Token} (ht : t.operandHead? = some .name) :
    (if nextIs "(" input then
      (demandPunctuation "(" input).andThen fun _ rest _ =>
        (readItems limit (depth + 1) ")" rest).map (.call t.lexeme)
    else readValue t input).Within := by
  split
  · simp
  · have hkind := Token.operandHead?_eq_some_iff.mp ht
    simp [Reading.Within, readValue, Token.isMalformedNumber, hkind]

end within

namespace Comparison

variable {c : Comparison} {d : Nat} {xs ys : List Token}

/-! ## Section 2: Single tokens -/

theorem nextIs_eq_of_next (text : String) (hc : c.Lawful) (h : c.Near d xs ys) :
    nextIs text ys = nextIs text xs ∨ c.Past xs := by
  rcases hc.next h with ⟨hu, hu', -, -⟩ | @⟨t, t', rest, rest', hu, hu', hsame, -, -, -⟩ | ⟨hpast⟩
  · simp [nextIs, hu, hu']
  · simp [nextIs, hu, hu', hc.isPunctuation_eq hsame]
  · exact .inr hpast

theorem sideBySide_demandPunctuation {text : String} (hc : c.Lawful) (h : c.Near d xs ys) :
    c.SideBySide d c.Same (demandPunctuation text xs) (demandPunctuation text ys) :=
  sideBySide_demand hc h fun _ _ hsame => hc.isPunctuation_eq hsame text

/-- A malformed number is read as a value in both runs, whether or not it is reported. -/
theorem sideBySide_readValue {t t' : Token} {rest rest' : List Token} (hc : c.Lawful)
    (hsame : c.Same t t') (hhere : c.Near d (t :: rest) (t' :: rest'))
    (hnear : c.Near (d + 1) rest rest') (hpast : ¬ c.Past (t :: rest)) :
    c.SideBySide d c.Agree (readValue t rest) (readValue t' rest') := by
  refine .inStep (.ok ((hc.agree_lexeme hsame).map _)) (hc.shallower hnear) ?_
  -- in a comparison that is not exact the second run has no malformed numbers to report
  by_cases hexact : c.Exact
  · have heq : t'.isMalformedNumber = t.isMalformedNumber := by
      simp [Token.isMalformedNumber, hc.kind_eq hsame, hc.lexeme_eq hsame (.inr hexact)]
    simp only [readValue, heq]
    split
    · exact .number hexact hsame (faces_cons hsame hhere hpast) .nil
    · exact .nil
  · simp only [readValue, hc.wellFormed hsame hexact]
    split
    · exact .skipped hexact .nil
    · exact .nil

/-! ## Section 3: The five readers -/

mutual

theorem sideBySide_readOperations {d : Nat} {xs ys : List Token} {left left' : Expression}
    (hc : c.Lawful) (least : Nat) (h : c.Near d xs ys) (hleft : c.Agree left left') :
    c.SideBySide d c.Agree (readOperations c.limit d least left xs)
      (readOperations c.limit' d least left' ys) := by
  rcases hc.next h with ⟨hu, hu', -, -⟩ |
    @⟨t, t', rest, rest', hu, hu', hsame, -, hnear, -⟩ | ⟨hpast⟩
  · rw [readOperations_of_nil hu, readOperations_of_nil hu']
    exact sideBySide_done hleft h
  · have := length_lt_of_upcoming hu
    -- the same operator on both sides, so both take it or both leave it
    rw [readOperations_of_cons hu, readOperations_of_cons hu', hc.binaryOperator?_eq hsame]
    cases t.binaryOperator? with
    | none => exact sideBySide_done hleft h
    | some op =>
      simp only
      split
      · exact sideBySide_done hleft h
      · apply SideBySide.seenFrom
        apply ((sideBySide_readExpression hc _ hnear).shallower hc).andThen hc
        · simp
        · intro right right' rest₁ rest₁' hle hle' hright hnear₁
          exact sideBySide_readOperations hc least hnear₁ (hleft.map₂ hright _)
  · exact sideBySide_of_past hc hpast (by simp)
termination_by 5 * xs.length

theorem sideBySide_readOperand {d : Nat} {xs ys : List Token} (hc : c.Lawful)
    (h : c.Near d xs ys) :
    c.SideBySide d c.Agree (readOperand c.limit d xs) (readOperand c.limit' d ys) := by
  -- the guards agree at corresponding places, although the limits may differ
  by_cases hd : d ≤ c.limit
  · have hd' : d ≤ c.limit' := by
      have := hc.limit_lt_iff h
      omega
    rcases hc.next h with ⟨hu, hu', -, -⟩ |
      @⟨t, t', rest, rest', hu, hu', hsame, hhere, hnear, hpast⟩ | ⟨hpast⟩
    · rw [readOperand_of_nil hd hu, readOperand_of_nil hd' hu']
      exact sideBySide_fail _ h
    · have := length_lt_of_upcoming hu
      rw [readOperand_of_cons hd hu, readOperand_of_cons hd' hu', hc.operandHead?_eq hsame]
      cases hhead : t.operandHead? with
      | none => exact sideBySide_fail _ h
      | some head =>
        apply SideBySide.seenFrom
        cases head with
        | literal => exact sideBySide_readValue hc hsame hhere hnear hpast
        | name =>
          -- one token further on the inputs may no longer correspond; then this reading is past
          -- already
          rcases nextIs_eq_of_next "(" hc hnear with heq | hpast₁
          · simp only [heq]
            split
            · apply sideBySide_demand_andThen hc (hc.shallower hnear)
              · exact fun _ _ hsame => hc.isPunctuation_eq hsame "("
              · simp
              · intro _ _ rest₁ rest₁' hle _ _ _ _ hnear₁
                apply ((sideBySide_readItems hc ")" hnear₁).shallower hc).map
                exact fun _ _ hes => (hc.agree_lexeme hsame).map₂ hes _
            · exact sideBySide_readValue hc hsame hhere hnear hpast
          · exact sideBySide_of_past hc hpast₁ (within_named _ _ _ hhead)
        | group =>
          apply ((sideBySide_readExpression hc 0 hnear).shallower hc).andThen hc
          · simp
          · intro inner inner' rest₁ rest₁' _ _ hinner hnear₁
            exact (sideBySide_demandPunctuation hc hnear₁).map fun _ _ _ => hinner
        | list close =>
          exact ((sideBySide_readItems hc close hnear).shallower hc).map fun _ _ hes => hes.map _
    · exact sideBySide_of_past hc hpast (by simp)
  · have hlimit : c.limit < d := by omega
    rw [readOperand, if_pos hlimit, readOperand, if_pos ((hc.limit_lt_iff h).mp hlimit)]
    exact sideBySide_fail _ h
termination_by 5 * xs.length + 1

theorem sideBySide_readExpression {d : Nat} {xs ys : List Token} (hc : c.Lawful) (least : Nat)
    (h : c.Near d xs ys) :
    c.SideBySide d c.Agree (readExpression c.limit d least xs)
      (readExpression c.limit' d least ys) := by
  rw [readExpression, readExpression]
  apply (sideBySide_readOperand hc h).andThen hc
  · simp
  · intro left left' rest rest' hle hle' hleft hnear
    exact sideBySide_readOperations hc least hnear hleft
termination_by 5 * xs.length + 2

theorem sideBySide_readSeparated {d : Nat} {xs ys : List Token} (hc : c.Lawful)
    (h : c.Near d xs ys) :
    c.SideBySide d c.Agree (readSeparated c.limit d xs) (readSeparated c.limit' d ys) := by
  rw [readSeparated_eq, readSeparated_eq]
  apply (sideBySide_readExpression hc 0 h).andThen hc
  · simp
  · intro e e' rest rest' hle hle' he hnear
    have hlast : c.Agree [e] [e'] := he.map fun e => [e]
    rcases hc.next hnear with ⟨hu, hu', -, -⟩ |
      @⟨t, t', rest₁, rest₁', hu, hu', hsame, -, hnear₁, -⟩ | ⟨hpast⟩
    · rw [furtherItems_of_nil hu, furtherItems_of_nil hu']
      exact sideBySide_done hlast hnear
    · have := length_lt_of_upcoming hu
      rw [furtherItems_of_cons hu, furtherItems_of_cons hu', hc.isPunctuation_eq hsame]
      split
      · apply SideBySide.seenFrom
        apply (sideBySide_readSeparated hc (hc.shallower hnear₁)).map
        intro es es' hes
        exact he.map₂ hes _
      · exact sideBySide_done hlast hnear
    · exact sideBySide_of_past hc hpast (by simp)
termination_by 5 * xs.length + 3

theorem sideBySide_readItems {d : Nat} {xs ys : List Token} (hc : c.Lawful) (close : String)
    (h : c.Near d xs ys) :
    c.SideBySide d c.Agree (readItems c.limit d close xs) (readItems c.limit' d close ys) := by
  rcases nextIs_eq_of_next close hc h with heq | hpast
  · unfold readItems
    rw [heq]
    split
    · exact (sideBySide_demandPunctuation hc h).map fun _ _ _ => agree_refl _
    · apply (sideBySide_readSeparated hc h).andThen hc
      · simp
      · intro items items' rest rest' _ _ hitems hnear
        exact (sideBySide_demandPunctuation hc hnear).map fun _ _ _ => hitems
  · exact sideBySide_of_past hc hpast (by simp)
termination_by 5 * xs.length + 4

end

end Comparison

end ScriptCheck
