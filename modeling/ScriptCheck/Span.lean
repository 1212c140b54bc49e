/-! # Spans

  A span is a range of byte offsets into a source text, from its first byte to
  just past its last. The order of the two bounds is part of the type.
-/

namespace ScriptCheck

/-- The bytes from `start` up to, but not including, `stop`. -/
structure Span where
  /-- Offset of the first byte. -/
  start : Nat
  /-- Offset just past the last byte. -/
  stop : Nat
  /-- A span never ends before it starts. -/
  start_le_stop : start ≤ stop := by omega
  deriving DecidableEq, Repr

namespace Span

/-- The span between two offsets; a stop that lies before the start gives the empty span there. -/
def between (start stop : Nat) : Span := ⟨start, max start stop, Nat.le_max_left ..⟩

def emptyAt (offset : Nat) : Span := ⟨offset, offset, Nat.le_refl _⟩

instance : Inhabited Span := ⟨emptyAt 0⟩

def length (s : Span) : Nat := s.stop - s.start

def isEmpty (s : Span) : Bool := s.start == s.stop

/-- The least span that covers both. -/
def union (s t : Span) : Span :=
  ⟨min s.start t.start, max s.stop t.stop, by
    have := s.start_le_stop
    omega⟩

def render (s : Span) : String := s!"{s.start}..{s.stop}"

@[simp] theorem between_start (a b : Nat) : (between a b).start = a := rfl

@[simp] theorem between_stop (a b : Nat) : (between a b).stop = max a b := rfl

@[simp] theorem union_start (s t : Span) : (s.union t).start = min s.start t.start := rfl

@[simp] theorem union_stop (s t : Span) : (s.union t).stop = max s.stop t.stop := rfl

end Span

end ScriptCheck
