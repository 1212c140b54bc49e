import ScriptCheck.Text.Escaped

/-! # Escaped Text Can Be Told Apart

  A character can be shown in up to three ways: by a short escape, by its code
  point, or as itself. Which of them it is depends on the place, since the first
  character of a text is shown under a rule of its own. The text can be told from
  what is shown all the same, for no way to show a character is the beginning of
  a way to show another one. And where the text ends can be told as well, since
  what is shown holds no bare quote.

  Nothing that is shown ends a line, by whatever convention lines are counted.
-/

namespace ScriptCheck.Text

/-! ## Section 1: Up to a delimiter -/

/-- Two texts that are followed by a delimiter which they do not hold can be told apart. -/
theorem append_delimiter_inj {α : Type} {a : α} {as bs xs ys : List α} (h : a ∉ as) (h' : a ∉ bs) :
    as ++ a :: xs = bs ++ a :: ys ↔ as = bs ∧ xs = ys := by
  constructor
  · intro heq
    induction as generalizing bs with
    | nil =>
      cases bs with
      | nil => exact ⟨rfl, (List.cons.inj heq).2⟩
      | cons b bs => exact absurd (List.mem_cons.mpr (.inl (List.cons.inj heq).1)) h'
    | cons c cs ih =>
      rw [List.mem_cons, not_or] at h
      cases bs with
      | nil => exact absurd (List.cons.inj heq).1.symm h.1
      | cons b bs =>
        rw [List.mem_cons, not_or] at h'
        obtain ⟨rfl, htail⟩ := List.cons.inj heq
        obtain ⟨rfl, hrest⟩ := ih h.2 h'.2 htail
        exact ⟨rfl, hrest⟩
  · rintro ⟨rfl, rfl⟩
    rfl

/-! ## Section 2: Digits -/

section digits
variable {b m n : Nat} {c : Char}

theorem digitChar_inj (hm : m < 16) (hn : n < 16) : m.digitChar = n.digitChar ↔ m = n := by
  have hall : ∀ m < 16, ∀ n < 16, m.digitChar = n.digitChar ↔ m = n := by decide
  exact hall m hm n hn

/-- The digits of a number in any base up to sixteen are letters and decimal digits. -/
theorem isAlphanum_of_mem_toDigits (hb : 1 < b) (hb' : b ≤ 16) (h : c ∈ Nat.toDigits b n) :
    c.isAlphanum := by
  have hdigit : ∀ d < 16, d.digitChar.isAlphanum := by decide
  induction n using Nat.base_induction b hb with
  | single d hd =>
    rw [Nat.toDigits_of_lt_base hd, List.mem_singleton] at h
    rw [h]
    exact hdigit d (by omega)
  | digit n d hd hn ih =>
    rw [← Nat.toDigits_append_toDigits hb hn hd, List.mem_append, Nat.toDigits_of_lt_base hd,
      List.mem_singleton] at h
    rcases h with h | rfl
    · exact ih h
    · exact hdigit d (by omega)

/-- The digits tell whether there is only one of them. -/
theorem lt_base_iff_of_toDigits_eq (hb : 1 < b) (h : Nat.toDigits b m = Nat.toDigits b n) :
    m < b ↔ n < b := by
  have hone (k : Nat) : k < b ↔ (Nat.toDigits b k).length ≤ 1 := by
    rw [Nat.length_toDigits_le_iff hb Nat.one_pos, Nat.pow_one]
  rw [hone, h, ← hone]

/-- The digits of a number give the number. -/
theorem toDigits_inj (hb : 1 < b) (hb' : b ≤ 16) : Nat.toDigits b m = Nat.toDigits b n ↔ m = n := by
  refine ⟨?_, congrArg _⟩
  intro h
  induction m using Nat.strongRecOn generalizing n with
  | ind m ih =>
    have hlt := lt_base_iff_of_toDigits_eq hb h
    rcases Nat.lt_or_ge m b with hm | hm
    · have hn := hlt.mp hm
      rw [Nat.toDigits_of_lt_base hm, Nat.toDigits_of_lt_base hn, List.singleton_inj] at h
      exact (digitChar_inj (by omega) (by omega)).mp h
    · have hn : b ≤ n := by omega
      rw [Nat.toDigits_of_base_le hb hm, Nat.toDigits_of_base_le hb hn] at h
      -- the last digits are the remainders, and those before them stand for the quotients
      obtain ⟨hinit, hlast⟩ := List.append_inj' h rfl
      have hquotient : m / b = n / b := ih _ (Nat.div_lt_self (by omega) hb) hinit
      have hbound (k : Nat) : k % b < 16 := Nat.lt_of_lt_of_le (Nat.mod_lt k (by omega)) hb'
      have hremainder : m % b = n % b :=
        (digitChar_inj (hbound m) (hbound n)).mp (List.singleton_inj.mp hlast)
      rw [← Nat.div_add_mod m b, hquotient, hremainder, Nat.div_add_mod]

end digits

/-! ## Section 3: Line breaks -/

/-- The characters at which a line may end, by any convention: line feed, vertical tab, form feed,
    carriage return, next line, line separator and paragraph separator. -/
def lineBreaks : List Char := ['\n', '\x0b', '\x0c', '\r', '\u0085', '\u2028', '\u2029']

def isLineBreak (c : Char) : Bool := lineBreaks.contains c

/-- No line ends within the text. -/
def StaysOnLine (cs : List Char) : Prop := ∀ c ∈ cs, isLineBreak c = false

instance (cs : List Char) : Decidable (StaysOnLine cs) :=
  decidable_of_iff (cs.all (!isLineBreak ·) = true) (by simp [StaysOnLine])

section breaks
variable {c : Char} {cs ds : List Char}

theorem staysOnLine_append : StaysOnLine (cs ++ ds) ↔ StaysOnLine cs ∧ StaysOnLine ds :=
  List.forall_mem_append

theorem staysOnLine_cons : StaysOnLine (c :: cs) ↔ isLineBreak c = false ∧ StaysOnLine cs :=
  List.forall_mem_cons

theorem StaysOnLine.lineFeed_not_mem (h : StaysOnLine cs) : '\n' ∉ cs := fun hmem =>
  absurd (h _ hmem) (by decide)

theorem StaysOnLine.filter_eq_nil (h : StaysOnLine cs) : cs.filter isLineBreak = [] := by
  rw [List.filter_eq_nil_iff]
  intro c hc
  rw [h c hc]
  exact Bool.false_ne_true

/-- What has a property that no line break has contains no line break. -/
theorem StaysOnLine.of_forall {p : Char → Bool} (hbreaks : lineBreaks.all (!p ·) = true)
    (h : ∀ c ∈ cs, p c = true) : StaysOnLine cs := by
  intro c hc
  rw [Bool.eq_false_iff]
  intro hbreak
  have hp := List.all_eq_true.mp hbreaks c (List.contains_iff_mem.mp hbreak)
  rw [h c hc] at hp
  cases hp

theorem staysOnLine_of_isAlphanum (h : ∀ c ∈ cs, c.isAlphanum = true) : StaysOnLine cs :=
  .of_forall (by decide) h

/-- A character at which a line may end leaves no mark. -/
theorem staysOnLine_of_not_isUnprintable (h : ∀ c ∈ cs, isUnprintable c = false) : StaysOnLine cs :=
  .of_forall (p := (!isUnprintable ·)) (by decide +kernel) (by simpa using h)

theorem staysOnLine_toDigits {b : Nat} (hb : 1 < b) (hb' : b ≤ 16) (n : Nat) :
    StaysOnLine (Nat.toDigits b n) :=
  staysOnLine_of_isAlphanum fun _ => isAlphanum_of_mem_toDigits hb hb'

end breaks

/-! ## Section 4: One character -/

/-- The short escapes, each with the letter behind the backslash. -/
def shortEscapes : List (Char × Char) :=
  [('\x00', '0'), ('\t', 't'), ('\r', 'r'), ('\n', 'n'), ('\x27', '\x27'), ('\x22', '\x22'),
    ('\\', '\\')]

theorem shortEscape_eq_some_iff {c letter : Char} :
    shortEscape c = some letter ↔ (c, letter) ∈ shortEscapes := by
  unfold shortEscape
  split <;> simp_all [shortEscapes, eq_comm]

/-- The ways to show a character. A character without a glyph is not shown as itself. -/
inductive ShownChar (c : Char) : List Char → Prop where
  | short {letter : Char} (h : shortEscape c = some letter) : ShownChar c ['\\', letter]
  | codePoint : ShownChar c (codePointEscape c)
  | itself (h : shortEscape c = none) (hprints : isUnprintable c = false) : ShownChar c [c]

section characters
variable {c d : Char} {w v xs ys : List Char}

/-- Whatever else is hidden, a character is shown in one of the ways. -/
theorem shownChar_escapeChar {hidden : Char → Bool} (h : isUnprintable c = true → hidden c = true) :
    ShownChar c (escapeChar hidden c) := by
  unfold escapeChar
  split
  · next letter hshort => exact .short hshort
  · next hshort =>
    split
    · exact .codePoint
    · next hhidden => exact .itself hshort (by simpa using mt h hhidden)

/-- The letter of a short escape gives the character. -/
theorem shortEscape_inj {letter : Char} (h : shortEscape c = some letter)
    (h' : shortEscape d = some letter) : c = d := by
  have hall : ∀ p ∈ shortEscapes, ∀ q ∈ shortEscapes, p.2 = q.2 → p.1 = q.1 := by decide
  exact hall _ (shortEscape_eq_some_iff.mp h) _ (shortEscape_eq_some_iff.mp h') rfl

/-- No short escape looks like the beginning of a code point. -/
theorem shortEscape_ne_some_u : shortEscape c ≠ some 'u' := by
  have hall : ∀ p ∈ shortEscapes, p.2 ≠ 'u' := by decide
  intro h
  exact hall _ (shortEscape_eq_some_iff.mp h) rfl

/-- A code point gives the character, and its closing brace tells where it ends. -/
theorem codePointEscape_append_inj :
    codePointEscape c ++ xs = codePointEscape d ++ ys ↔ c = d ∧ xs = ys := by
  -- digits are letters or decimal digits, so the brace is none of them
  have hbrace (e : Char) : '\x7d' ∉ Nat.toDigits 16 e.toNat := by
    intro hmem
    exact absurd (isAlphanum_of_mem_toDigits (by decide) (by decide) hmem) (by decide)
  simp only [codePointEscape, List.cons_append, List.append_assoc, List.nil_append,
    List.cons.injEq, true_and, append_delimiter_inj (hbrace c) (hbrace d),
    toDigits_inj (b := 16) (by decide) (by decide), Char.toNat_inj]

/-- A character that is shown as itself does not look like the beginning of an escape. -/
theorem ne_backslash_of_shortEscape (h : shortEscape c = none) : c ≠ '\\' := by
  rintro rfl
  cases h

/-- No way to show a character is the beginning of a way to show another one. -/
theorem ShownChar.append_inj (h : ShownChar c w) (h' : ShownChar d v) (heq : w ++ xs = v ++ ys) :
    c = d ∧ xs = ys := by
  -- ways of one sort are told apart by what they carry, ways of two sorts by their first or second
  -- character
  cases h with
  | short hc =>
    cases h' with
    | short hd =>
      simp only [List.cons_append, List.nil_append, List.cons.injEq, true_and] at heq
      obtain ⟨rfl, hrest⟩ := heq
      exact ⟨shortEscape_inj hc hd, hrest⟩
    | codePoint =>
      simp only [codePointEscape, List.cons_append, List.cons.injEq] at heq
      obtain ⟨-, rfl, -⟩ := heq
      exact absurd hc shortEscape_ne_some_u
    | itself hd hprints => exact absurd (List.cons.inj heq).1.symm (ne_backslash_of_shortEscape hd)
  | codePoint =>
    cases h' with
    | short hd =>
      simp only [codePointEscape, List.cons_append, List.cons.injEq] at heq
      obtain ⟨-, rfl, -⟩ := heq
      exact absurd hd shortEscape_ne_some_u
    | codePoint => exact codePointEscape_append_inj.mp heq
    | itself hd hprints => exact absurd (List.cons.inj heq).1.symm (ne_backslash_of_shortEscape hd)
  | itself hc hprints =>
    cases h' with
    | short hd => exact absurd (List.cons.inj heq).1 (ne_backslash_of_shortEscape hc)
    | codePoint => exact absurd (List.cons.inj heq).1 (ne_backslash_of_shortEscape hc)
    | itself hd hprints' => exact List.cons.inj heq

/-- What is shown of a character does not begin with a quote. -/
theorem ShownChar.ne_quote (h : ShownChar c w) : w ++ xs ≠ '\x27' :: ys := by
  intro heq
  cases h with
  | short hc => exact absurd (List.cons.inj heq).1 (by decide)
  | codePoint => exact absurd (List.cons.inj heq).1 (by decide)
  | itself hc hprints =>
    obtain rfl := (List.cons.inj heq).1
    cases hc

/-- The escapes do not end lines, and what does is not shown as itself. -/
theorem ShownChar.staysOnLine (h : ShownChar c w) : StaysOnLine w := by
  cases h with
  | @short letter hc =>
    have hall : ∀ p ∈ shortEscapes, StaysOnLine ['\\', p.2] := by decide
    exact hall _ (shortEscape_eq_some_iff.mp hc)
  | codePoint =>
    -- backslash, letter and braces end no line, nor do digits
    have hdigits : StaysOnLine (Nat.toDigits 16 c.toNat) :=
      staysOnLine_toDigits (by decide) (by decide) _
    rw [codePointEscape]
    simp only [staysOnLine_cons, staysOnLine_append]
    exact ⟨by decide, by decide, by decide, hdigits, by decide, by decide⟩
  | itself hc hprints =>
    exact staysOnLine_of_not_isUnprintable (List.forall_mem_singleton.mpr hprints)

end characters

/-! ## Section 5: A text -/

/-- The ways to show a text: one character after the other, each in one of its ways. -/
inductive ShownText : List Char → List Char → Prop where
  | nil : ShownText [] []
  | cons {c : Char} {cs w v : List Char} (hfirst : ShownChar c w) (hrest : ShownText cs v) :
      ShownText (c :: cs) (w ++ v)

section texts
variable {cs ds w v xs ys : List Char}

theorem shownText_flatMap (cs : List Char) :
    ShownText cs (cs.flatMap (escapeChar isUnprintable)) := by
  induction cs with
  | nil => exact .nil
  | cons c cs ih => exact .cons (shownChar_escapeChar id) ih

/-- The rule for the first character hides more, but it chooses among the same ways. -/
theorem shownText_escapeChars (cs : List Char) : ShownText cs (escapeChars cs) := by
  cases cs with
  | nil => exact .nil
  | cons c cs =>
    refine .cons (shownChar_escapeChar ?_) (shownText_flatMap cs)
    intro hc
    rw [hc, Bool.or_true]

/-- A combining mark is written as its code point at the start only. -/
example : escape "\u0301e\u0301\n" = "\\u\x7b301\x7de\u0301\\n" := by decide +kernel

/-- In front of a quote, what is shown gives the text, and the quote tells where it ends. -/
theorem ShownText.append_inj (h : ShownText cs w) (h' : ShownText ds v)
    (heq : w ++ '\x27' :: xs = v ++ '\x27' :: ys) : cs = ds ∧ xs = ys := by
  -- along the first text; the ways of its characters are no beginnings of each other
  induction h generalizing ds v with
  | nil =>
    cases h' with
    | nil => exact ⟨rfl, (List.cons.inj heq).2⟩
    | cons hfirst' hrest' =>
      -- one text has ended at its quote, and the other goes on with something that is none
      rw [List.append_assoc] at heq
      exact absurd heq.symm hfirst'.ne_quote
  | cons hfirst hrest ih =>
    cases h' with
    | nil =>
      rw [List.append_assoc] at heq
      exact absurd heq hfirst.ne_quote
    | cons hfirst' hrest' =>
      rw [List.append_assoc, List.append_assoc] at heq
      obtain ⟨rfl, hbehind⟩ := hfirst.append_inj hfirst' heq
      obtain ⟨rfl, hend⟩ := ih hrest' hbehind
      exact ⟨rfl, hend⟩

theorem ShownText.staysOnLine (h : ShownText cs w) : StaysOnLine w := by
  induction h with
  | nil => decide
  | cons hfirst hrest ih => exact staysOnLine_append.mpr ⟨hfirst.staysOnLine, ih⟩

end texts

end ScriptCheck.Text
