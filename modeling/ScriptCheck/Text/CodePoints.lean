/-! # Sets of Characters Given by Ranges

  A character property of the Unicode standard is a set of code points, and its
  data files list the set as ascending ranges. This module holds that list as a
  type, the membership test, and the fact that ties the two: what the test
  accepts lies in a listed range.

  The tables themselves are one module per property.
-/

namespace ScriptCheck.Text

/-- A set of code points as inclusive ranges `(first, last)`, in ascending order. -/
abbrev CodePoints := List (Nat × Nat)

namespace CodePoints

/-- Membership. The search ends at the first range that lies beyond the code
    point, so a low code point is settled by the head of a long table. -/
def covers : CodePoints → Nat → Bool
  | [], _ => false
  | (first, last) :: rest, n =>
    if n < first then false else if n ≤ last then true else covers rest n

/-- What the search accepts lies in one of the ranges, whatever their order. -/
theorem exists_range_of_covers {ranges : CodePoints} {n : Nat} (h : ranges.covers n = true) :
    ∃ r ∈ ranges, r.1 ≤ n ∧ n ≤ r.2 := by
  induction ranges with
  | nil => simp [covers] at h
  | cons r rest ih =>
    obtain ⟨first, last⟩ := r
    simp only [covers] at h
    split at h
    · simp at h
    · split at h
      · exact ⟨(first, last), by simp, by omega, by omega⟩
      · obtain ⟨r, hr, hn⟩ := ih h
        exact ⟨r, by simp [hr], hn⟩

end CodePoints

end ScriptCheck.Text
