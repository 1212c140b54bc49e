import Mathlib.Data.List.Induction
import ScriptCheck.Proofs.Scanner.Classes
import ScriptCheck.Proofs.Scanner.Lines

/-! # Tokens Tile the Source

  The tokens of a source lie in it one behind the other, each with its own text
  at its own place, and what lies between them is blank.

  The invariant is a relation between a source and its tokens that follows the
  scan: at each place either a character is skipped or a token stands there that
  is the text from there on. Everything that is said of single tokens, of two
  tokens in a row and of characters without a token is read off this relation by
  induction.
-/

namespace ScriptCheck

open Lexer

/-! ## Section 1: Positions in a source -/

/-- The characters behind the last line feed. -/
def sinceLineFeed (cs : List Char) : List Char := cs.reverse.takeWhile (· != '\n')

/-- Line, column and offset of a place are determined by the text in front of it. -/
theorem start_after (before : List Char) :
    Position.start.after before =
      ⟨1 + before.count '\n', 1 + (sinceLineFeed before).length, byteCount before⟩ := by
  -- the last character decides about the line, so the induction is from the end
  induction before using List.reverseRecOn with
  | nil => rfl
  | append_singleton before c ih =>
    rw [Position.after_append, ih, Position.after_cons, Position.after_nil, Position.step]
    by_cases hc : c = '\n'
    · subst hc
      simp [sinceLineFeed, byteCount, byteCount_append, Nat.add_assoc]
    · simp [sinceLineFeed, byteCount, byteCount_append, hc, Nat.add_assoc]

theorem byteCount_pos {cs : List Char} (h : cs ≠ []) : 0 < byteCount cs := by
  obtain ⟨c, cs, rfl⟩ := List.exists_cons_of_ne_nil h
  have hsize := c.utf8Size_pos
  rw [byteCount]
  omega

/-- Offsets count the bytes of the encoded text. -/
theorem byteCount_toList (s : String) : byteCount s.toList = s.utf8ByteSize := by
  have hofList (cs : List Char) : (String.ofList cs).utf8ByteSize = byteCount cs := by
    induction cs with
    | nil => simp [byteCount]
    | cons c cs ih =>
      rw [← List.singleton_append, String.ofList_append, String.utf8ByteSize_append, ih]
      simp [byteCount]
  rw [← hofList, String.ofList_toList]

def Span.Covers (s : Span) (offset : Nat) : Prop := s.start ≤ offset ∧ offset < s.stop

/-- The token stands in the source: its span is not empty and holds its text, and line and column
    are those of the place where the text starts. -/
structure Token.StandsBetween (t : Token) (before after source : String) : Prop where
  source_eq : source = before ++ t.lexeme ++ after
  start_lt_stop : t.span.start < t.span.stop
  start_eq : t.span.start = before.utf8ByteSize
  stop_eq : t.span.stop = (before ++ t.lexeme).utf8ByteSize
  line_eq : t.line = 1 + before.toList.count '\n'
  column_eq : t.column = 1 + (sinceLineFeed before.toList).length

/-! ## Section 2: Tilings -/

/-- The tokens tile a text that starts at a position, with gaps of the characters allowed there. -/
inductive Tiles (gap : Char → Prop) : Position → List Char → List Token → Prop
  | done (p : Position) : Tiles gap p [] []
  | skip {p : Position} {c : Char} {cs : List Char} {tokens : List Token} (hc : gap c)
      (hrest : Tiles gap (p.after [c]) cs tokens) : Tiles gap p (c :: cs) tokens
  | token {p : Position} {kind : TokenKind} {text cs : List Char} {tokens : List Token}
      (htext : text ≠ []) (hrest : Tiles gap (p.after text) cs tokens) :
      Tiles gap p (text ++ cs) (tokenAt p kind text :: tokens)

namespace Tiles

variable {gap : Char → Prop} {p : Position} {cs : List Char} {tokens : List Token}

/-- Every token is the text at its place. -/
theorem exists_place (h : Tiles gap p cs tokens) :
    ∀ t ∈ tokens, ∃ before text after, cs = before ++ text ++ after ∧ text ≠ [] ∧
      t = tokenAt (p.after before) t.kind text := by
  -- what is passed over on the way goes in front of the place
  induction h with
  | done p => simp
  | skip hc hrest ih =>
    intro t ht
    obtain ⟨before, text, after, rfl, htext, hplace⟩ := ih t ht
    exact ⟨_ :: before, text, after, rfl, htext, hplace⟩
  | @token p kind text cs tokens htext hrest ih =>
    intro t ht
    rcases List.mem_cons.mp ht with rfl | ht
    · exact ⟨[], text, cs, rfl, htext, rfl⟩
    · obtain ⟨before, text', after, rfl, htext', hplace⟩ := ih t ht
      refine ⟨text ++ before, text', after, by simp, htext', ?_⟩
      rwa [Position.after_append]

/-- No token starts in front of the text. -/
theorem offset_le_start (h : Tiles gap p cs tokens) : ∀ t ∈ tokens, p.offset ≤ t.span.start := by
  intro t ht
  obtain ⟨before, text, after, -, -, hplace⟩ := h.exists_place t ht
  rw [hplace, tokenAt, Span.between_start, Position.after_offset]
  omega

/-- A token ends where the text behind it starts. -/
theorem tokenAt_stop (p : Position) (kind : TokenKind) (text : List Char) :
    (tokenAt p kind text).span.stop = (p.after text).offset := by
  rw [tokenAt, Span.between_stop, Position.after_offset]
  omega

/-- A token ends before the next ones start. -/
theorem pairwise (h : Tiles gap p cs tokens) :
    tokens.Pairwise fun s t => s.span.stop ≤ t.span.start := by
  induction h with
  | done p => exact .nil
  | skip hc hrest ih => exact ih
  | token htext hrest ih =>
    refine List.pairwise_cons.mpr ⟨?_, ih⟩
    intro t ht
    rw [tokenAt_stop]
    exact hrest.offset_le_start t ht

/-- A character that no token covers lies in a gap. -/
theorem gap_of_not_covers (h : Tiles gap p cs tokens) :
    ∀ before c after, cs = before ++ c :: after →
      (∀ t ∈ tokens, ¬ t.span.Covers (p.offset + byteCount before)) → gap c := by
  induction h with
  | done p => simp
  | @skip p d cs tokens hd hrest ih =>
    intro before c after hcs hfree
    -- the character is the one that is skipped, or it comes behind that one
    cases before with
    | nil =>
      obtain ⟨rfl, -⟩ := List.cons.inj hcs
      exact hd
    | cons b before =>
      rw [List.cons_append, List.cons.injEq] at hcs
      obtain ⟨rfl, hcs⟩ := hcs
      apply ih before c after hcs
      have hplace :
          (p.after [d]).offset + byteCount before = p.offset + byteCount (d :: before) := by
        rw [Position.after_offset, Nat.add_assoc, ← byteCount_append]
        rfl
      rwa [hplace]
  | @token p kind text cs tokens htext hrest ih =>
    intro before c after hcs hfree
    -- the character stands behind the token, since the token covers all of its text
    have hbehind : ∃ more, before = text ++ more ∧ cs = more ++ c :: after := by
      -- the text of the token ends in front of the character, or else contains it
      rcases List.append_eq_append_iff.mp hcs with hlater | ⟨more, rfl, hmore⟩
      · exact hlater
      · cases more with
        | nil => exact ⟨[], by simp, hmore.symm⟩
        | cons d more =>
          rw [List.cons_append, List.cons.injEq] at hmore
          obtain ⟨rfl, -⟩ := hmore
          have hpos : 0 < byteCount (c :: more) := byteCount_pos (List.cons_ne_nil c more)
          have hcovers : (tokenAt p kind (before ++ c :: more)).span.Covers
              (p.offset + byteCount before) := by
            rw [Span.Covers, tokenAt_stop, Position.after_offset, byteCount_append, tokenAt,
              Span.between_start]
            omega
          exact absurd hcovers (hfree _ List.mem_cons_self)
    obtain ⟨more, rfl, hmore⟩ := hbehind
    apply ih more c after hmore
    intro t ht
    rw [Position.after_offset, Nat.add_assoc, ← byteCount_append]
    exact hfree t (List.mem_cons_of_mem _ ht)

end Tiles

/-! ## Section 3: The scan tiles the source -/

namespace Lexer

/-- The characters that become part of no token. -/
def Skips (lexer : Lexer) (c : Char) : Prop :=
  Text.isBlank c = true ∧ (lexer.emitNewlines = true → c ≠ '\n')

/-- Only single blank characters are skipped. -/
theorem skips_of_nextPiece {lexer : Lexer} {c : Char} {cs : List Char}
    (h : (lexer.nextPiece c cs).kind = none) :
    lexer.Skips c ∧ (lexer.nextPiece c cs).more = 0 := by
  have hreads := readsPiece_nextPiece lexer c cs
  generalize lexer.nextPiece c cs = piece at h hreads
  cases hreads with
  | lineFeed hc hemit =>
    subst hc
    exact ⟨⟨by decide, by simp [hemit]⟩, rfl⟩
  | blank hc hblank => exact ⟨⟨hblank, fun _ => hc⟩, rfl⟩
  -- every other piece becomes a token
  | _ => cases h

/-- The scan tiles the text, by induction along its pieces. -/
theorem tiles_scan (lexer : Lexer) (p : Position) (cs : List Char) :
    Tiles lexer.Skips p cs (lexer.scan p cs) := by
  fun_induction Lexer.scan lexer p cs with
  | case1 => exact .done _
  | case2 =>
    -- the piece becomes a token
    rename_i p c cs piece text later kind hkind ih
    have hcs : c :: cs = text ++ cs.drop piece.more := by simp [text]
    rw [hcs]
    exact .token (List.cons_ne_nil _ _) ih
  | case3 =>
    -- the piece is a single character that is skipped
    rename_i p c cs piece text later hkind ih
    obtain ⟨hskips, hmore⟩ := skips_of_nextPiece hkind
    have htext : text = [c] := by simp [text, piece, hmore]
    have hrest : cs.drop piece.more = cs := by simp [piece, hmore]
    rw [htext, hrest] at ih
    have hlater : later = lexer.scan (p.after [c]) cs := by simp only [later, htext, hrest]
    rw [hlater]
    exact .skip hskips ih

theorem tiles_tokenize (lexer : Lexer) (source : String) :
    Tiles lexer.Skips .start source.toList (lexer.tokenize source) := by
  rw [tokenize, analyze_tokens]
  exact tiles_scan lexer .start source.toList

end Lexer

/-- A token that is the text at its place stands in the source. -/
theorem standsBetween_of_place {source : String} {before text after : List Char} {t : Token}
    (hsource : source.toList = before ++ text ++ after) (htext : text ≠ [])
    (hplace : t = tokenAt (Position.start.after before) t.kind text) :
    t.StandsBetween (String.ofList before) (String.ofList after) source := by
  have hlexeme : t.lexeme = String.ofList text := by rw [hplace, tokenAt]
  have hstart : t.span.start = byteCount before := by
    rw [hplace, tokenAt, start_after, Span.between_start]
  have hstop : t.span.stop = byteCount (before ++ text) := by
    rw [hplace, Tiles.tokenAt_stop, ← Position.after_append, start_after]
  have hpos := byteCount_pos htext
  -- all fields come from the place: the text up to the token determines it in all three units
  constructor
  · rw [hlexeme, ← String.ofList_append, ← String.ofList_append, ← hsource, String.ofList_toList]
  · rw [hstart, hstop, byteCount_append]
    omega
  · rw [hstart, ← byteCount_toList, String.toList_ofList]
  · rw [hstop, ← byteCount_toList, hlexeme, ← String.ofList_append, String.toList_ofList]
  · rw [hplace, tokenAt, start_after, String.toList_ofList]
  · rw [hplace, tokenAt, start_after, String.toList_ofList]

/-- The tokens of a source tile it: every token stands in the source, the next one starts where it
    ends or later, and what no token covers is blank, and no line feed if line ends are shown. -/
theorem tokenize_tiles (lexer : Lexer) (source : String) :
    (∀ t ∈ lexer.tokenize source, ∃ before after, t.StandsBetween before after source) ∧
      (lexer.tokenize source).Pairwise (fun s t => s.span.stop ≤ t.span.start) ∧
      ∀ before c after, source = before ++ String.singleton c ++ after →
        (∀ t ∈ lexer.tokenize source, ¬ t.span.Covers before.utf8ByteSize) →
        Text.isBlank c = true ∧ (lexer.emitNewlines = true → c ≠ '\n') := by
  have htiles : Tiles lexer.Skips .start source.toList (lexer.tokenize source) := by
    rw [tokenize, analyze_tokens]
    exact tiles_scan lexer .start source.toList
  refine ⟨?_, htiles.pairwise, ?_⟩
  · intro t ht
    obtain ⟨before, text, after, hsource, htext, hplace⟩ := htiles.exists_place t ht
    exact ⟨_, _, standsBetween_of_place hsource htext hplace⟩
  · intro before c after hsource hfree
    have hchars : source.toList = before.toList ++ c :: after.toList := by
      rw [hsource]
      simp
    have hplace : Position.start.offset + byteCount before.toList = before.utf8ByteSize := by
      rw [byteCount_toList]
      exact Nat.zero_add _
    apply htiles.gap_of_not_covers _ c _ hchars
    rwa [hplace]

end ScriptCheck
