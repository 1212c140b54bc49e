import Mathlib.Data.List.Forall2
import ScriptCheck.Proofs.Escapes
import ScriptCheck.Proofs.Scanner.Lines
import ScriptCheck.Report

/-! # Token Listings

  A listing of tokens has a line for its heading and a line for each token, and it
  hides nothing that it means to show. From a line one can tell the kind, the
  lexeme and the position of the token, part by part from the left: the kind ends
  at the parenthesis, the lexeme at the first bare quote, the line number at the
  colon and the column at the end of the line. Only the lexeme of a line end is not
  shown, for it is always shown as `\n`.

  The tokens are arbitrary here. Whether some source has them does not matter, and
  neither does what their lexemes are made of.
-/

namespace ScriptCheck

open Text

/-! ## Section 1: A token on a line -/

/-- The tokens are the same to a reader: same kind, same position, and the same lexeme unless they
    are line ends. -/
structure Token.ShownAlike (t t' : Token) : Prop where
  kind : t.kind = t'.kind
  line : t.line = t'.line
  column : t.column = t'.column
  lexeme : t.kind ≠ .newline → t.lexeme = t'.lexeme

section tokens
variable {t t' : Token} {c : Char}

theorem TokenKind.tag_inj {kind kind' : TokenKind} : kind.tag = kind'.tag ↔ kind = kind' := by
  have hall : ∀ k ∈ TokenKind.all, ∀ k' ∈ TokenKind.all, k.tag = k'.tag ↔ k = k' := by decide
  exact hall kind kind.mem_all kind' kind'.mem_all

theorem TokenKind.isAlphanum_of_mem_tag {kind : TokenKind} (h : c ∈ kind.tag.toList) :
    c.isAlphanum = true := by
  have hall : kind.tag.toList.all Char.isAlphanum = true := by cases kind <;> decide
  exact List.all_eq_true.mp hall c h

/-- A lexeme is shown in one of the ways to show a text, and unless it is that of a line end, the
    text is the lexeme. -/
theorem Token.exists_shownText (t : Token) :
    ∃ cs, ShownText cs t.shownLexeme.toList ∧ (t.kind ≠ .newline → cs = t.lexeme.toList) := by
  -- a line end is shown as if its lexeme were a line feed, whatever it is
  by_cases hkind : t.kind = .newline
  · refine ⟨['\n'], ?_, fun hother => absurd hkind hother⟩
    have hshown : t.shownLexeme = "\\n" := by rw [shownLexeme, hkind]
    rw [hshown]
    exact .cons (.short rfl) .nil
  · refine ⟨t.lexeme.toList, ?_, fun _ => rfl⟩
    have hshown : t.shownLexeme.toList = escapeChars t.lexeme.toList := by
      unfold shownLexeme
      split
      · next hnewline => exact absurd hnewline hkind
      · rw [escape, String.toList_ofList]
    rw [hshown]
    exact shownText_escapeChars _

/-- The parts of a line, with what ends each of them. -/
theorem Token.toList_render (t : Token) :
    t.render.toList = t.kind.tag.toList ++ '(' :: '\x27' :: (t.shownLexeme.toList ++
      '\x27' :: ')' :: ' ' :: 'a' :: 't' :: ' ' :: (Nat.toDigits 10 t.line ++
        ':' :: Nat.toDigits 10 t.column)) := by
  simp [render, ToString.toString]

/-- A quote, a backslash and a line feed inside a lexeme all end up behind backslashes. -/
example : (Token.mk .invalid "'\\\n" 2 5 (.between 10 13)).render =
    "INVALID('\\'\\\\\\n') at 2:5" := by
  decide +kernel

/-- Nothing on the line of a token ends it. -/
theorem Token.staysOnLine_render (t : Token) : StaysOnLine t.render.toList := by
  have htag : StaysOnLine t.kind.tag.toList :=
    staysOnLine_of_isAlphanum fun _ => TokenKind.isAlphanum_of_mem_tag
  have hlexeme : StaysOnLine t.shownLexeme.toList := by
    obtain ⟨cs, hshown, -⟩ := t.exists_shownText
    exact hshown.staysOnLine
  have hdigits (n : Nat) : StaysOnLine (Nat.toDigits 10 n) :=
    staysOnLine_toDigits (by decide) (by decide) n
  rw [toList_render]
  simp only [staysOnLine_append, staysOnLine_cons]
  exact ⟨htag, by decide, by decide, hlexeme, by decide, by decide, by decide, by decide, by decide,
    by decide, hdigits _, by decide, hdigits _⟩

/-- Tokens show the same on a line just if they are the same to a reader. -/
theorem Token.render_eq_iff : t.render = t'.render ↔ t.ShownAlike t' := by
  have hparen (kind : TokenKind) : '(' ∉ kind.tag.toList := fun hmem =>
    absurd (TokenKind.isAlphanum_of_mem_tag hmem) (by decide)
  have hcolon (n : Nat) : ':' ∉ Nat.toDigits 10 n := fun hmem =>
    absurd (isAlphanum_of_mem_toDigits (by decide) (by decide) hmem) (by decide)
  constructor
  · intro h
    obtain ⟨cs, hshown, hlexeme⟩ := t.exists_shownText
    obtain ⟨cs', hshown', hlexeme'⟩ := t'.exists_shownText
    rw [← String.toList_inj, toList_render, toList_render] at h
    -- each part ends where something stands that cannot be in it: parenthesis, bare quote, colon
    obtain ⟨htag, hbehindTag⟩ := (append_delimiter_inj (hparen _) (hparen _)).mp h
    obtain ⟨htext, hbehindText⟩ := hshown.append_inj hshown' (List.cons.inj hbehindTag).2
    simp only [List.cons.injEq, true_and] at hbehindText
    obtain ⟨hline, hcolumn⟩ := (append_delimiter_inj (hcolon _) (hcolon _)).mp hbehindText
    have hkind : t.kind = t'.kind := TokenKind.tag_inj.mp (String.toList_inj.mp htag)
    refine ⟨hkind, ?_, ?_, ?_⟩
    · exact (toDigits_inj (by decide) (by decide)).mp hline
    · exact (toDigits_inj (by decide) (by decide)).mp hcolumn
    · intro hother
      rw [← String.toList_inj, ← hlexeme hother, ← hlexeme' (hkind ▸ hother), htext]
  · intro h
    have hshown : t.shownLexeme = t'.shownLexeme := by
      by_cases hkind : t.kind = .newline
      · rw [shownLexeme, shownLexeme, ← h.kind, hkind]
      · rw [shownLexeme, shownLexeme, ← h.kind, h.lexeme hkind]
    rw [render, render, h.kind, hshown, h.line, h.column]

end tokens

/-! ## Section 2: A listing -/

/-- Lines that end nowhere but at their line feeds end as often as there are lines. -/
theorem filter_isLineBreak_flatMap {lines : List (List Char)} (h : ∀ cs ∈ lines, StaysOnLine cs) :
    (lines.flatMap (· ++ ['\n'])).filter isLineBreak = List.replicate lines.length '\n' := by
  induction lines with
  | nil => rfl
  | cons cs lines ih =>
    obtain ⟨hfirst, hlater⟩ := List.forall_mem_cons.mp h
    have hend : ['\n'].filter isLineBreak = ['\n'] := by decide
    rw [List.flatMap_cons, List.filter_append, List.filter_append, hfirst.filter_eq_nil, hend,
      ih hlater]
    rfl

namespace Report

/-- The lines of a listing, without the line feeds that end them. -/
def listingLines (ts : List Token) : List (List Char) :=
  s!"Tokens ({ts.length})".toList :: ts.map fun t => ' ' :: ' ' :: t.render.toList

section listings
variable {ts ts' : List Token}

theorem length_listingLines (ts : List Token) : (listingLines ts).length = ts.length + 1 := by
  rw [listingLines, List.length_cons, List.length_map]

theorem toList_tokens (ts : List Token) :
    (tokens ts).toList = (listingLines ts).flatMap (· ++ ['\n']) := by
  simp [tokens, indented, listingLines, String.toList_join, List.flatMap_map, ToString.toString]

/-- The lines of a listing end nowhere but at their ends. -/
theorem staysOnLine_of_mem_listingLines (ts : List Token) :
    ∀ cs ∈ listingLines ts, StaysOnLine cs := by
  have hheading : StaysOnLine s!"Tokens ({ts.length})".toList := by
    have htext : s!"Tokens ({ts.length})".toList =
        "Tokens (".toList ++ (Nat.toDigits 10 ts.length ++ ")".toList) := by
      simp [ToString.toString]
    rw [htext, staysOnLine_append, staysOnLine_append]
    exact ⟨by decide, staysOnLine_toDigits (by decide) (by decide) _, by decide⟩
  have hline (t : Token) : StaysOnLine (' ' :: ' ' :: t.render.toList) := by
    rw [staysOnLine_cons, staysOnLine_cons]
    exact ⟨by decide, by decide, t.staysOnLine_render⟩
  rw [listingLines, List.forall_mem_cons, List.forall_mem_map]
  exact ⟨hheading, fun t _ => hline t⟩

theorem splitLines_tokens (ts : List Token) :
    splitLines (tokens ts).toList = (listingLines ts).map (·, true) := by
  rw [toList_tokens, splitLines_flatMap]
  intro cs hcs
  exact (staysOnLine_of_mem_listingLines ts cs hcs).lineFeed_not_mem

/-- A listing can be cut into its lines again. -/
theorem tokens_eq_iff : tokens ts = tokens ts' ↔ listingLines ts = listingLines ts' := by
  constructor
  · intro h
    have hlines := splitLines_tokens ts
    rw [h, splitLines_tokens] at hlines
    -- all lines of a listing are terminated, so their texts tell them apart
    have hends : Function.Injective fun cs : List Char => (cs, true) := Prod.mk_left_injective true
    exact (List.map_injective_iff.mpr hends hlines).symm
  · intro h
    rw [← String.toList_inj, toList_tokens, toList_tokens, h]

/-- The heading tells nothing that the other lines do not. -/
theorem listingLines_eq_iff :
    listingLines ts = listingLines ts' ↔ List.Forall₂ Token.ShownAlike ts ts' := by
  have hlines : (ts.map fun t => ' ' :: ' ' :: t.render.toList) =
      (ts'.map fun t => ' ' :: ' ' :: t.render.toList) ↔ List.Forall₂ Token.ShownAlike ts ts' := by
    rw [← List.forall₂_eq_eq_eq, List.forall₂_map_left_iff, List.forall₂_map_right_iff]
    simp only [List.cons.injEq, true_and, String.toList_inj, Token.render_eq_iff]
  constructor
  · intro h
    exact hlines.mp (List.cons.inj h).2
  · intro h
    rw [listingLines, listingLines, hlines.mpr h, h.length_eq]

end listings

end Report

/-! ## Section 3: The main result -/

/-- A listing has one line for each token and one more, whatever the lexemes are made of and by
    whatever convention lines are counted, and it hides nothing. Two lists of tokens have the same
    listing just if they are equally long and agree one by one in kind, line and column and, line
    ends apart, in the lexeme. -/
theorem listing_hides_nothing (ts ts' : List Token) :
    (splitLines (Report.tokens ts).toList).length = ts.length + 1 ∧
      (Report.tokens ts).toList.filter isLineBreak = List.replicate (ts.length + 1) '\n' ∧
      (Report.tokens ts = Report.tokens ts' ↔ List.Forall₂ Token.ShownAlike ts ts') := by
  refine ⟨?_, ?_, ?_⟩
  · rw [Report.splitLines_tokens, List.length_map, Report.length_listingLines]
  · have hlines := Report.staysOnLine_of_mem_listingLines ts
    rw [Report.toList_tokens, filter_isLineBreak_flatMap hlines, Report.length_listingLines]
  · exact Report.tokens_eq_iff.trans Report.listingLines_eq_iff

end ScriptCheck
