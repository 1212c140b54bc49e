/-! # Decimal Numbers of TOML

  A float is written in decimal notation, with a point, an exponent or both, and
  is meant as the nearest double. Doubles are bounded: what lies halfway between
  the greatest of them and the next power of two, or beyond, has no double but
  infinity next to it. This module keeps decimal numbers exactly, however large
  their exponents are, and says which of them are too large.
-/

namespace ScriptCheck.Toml

/-- A decimal number that is not negative: `0.d₁d₂…` times a power of ten, where `d₁` is not zero.
    Zero has no digits. -/
structure Decimal where
  digits : List Nat
  /-- The exponent of the power of ten, which is how many digits stand before the point. -/
  point : Int
  deriving DecidableEq, Repr

namespace Decimal

/-- The number with these digits before and after its point, times a power of ten. -/
def ofDigits (whole fraction : List Nat) (exponent : Int) : Decimal :=
  let zeros := ((whole ++ fraction).takeWhile (· == 0)).length
  ⟨(whole ++ fraction).drop zeros, whole.length + exponent - zeros⟩

def floor (d : Decimal) : Nat :=
  let places := d.point.toNat
  ((d.digits ++ List.replicate places 0).take places).foldl (10 * · + ·) 0

/-- Halfway between the greatest double and the power of two above it. -/
def doubleBound : Nat := Nat.pow 2 1024 - Nat.pow 2 970

/-- The nearest double is infinite. The bound has 309 digits, so that a number with more of them
    before its point is not written out. -/
def exceedsDoubles (d : Decimal) : Bool :=
  !d.digits.isEmpty && (309 < d.point || doubleBound ≤ d.floor)

end Decimal

end ScriptCheck.Toml
