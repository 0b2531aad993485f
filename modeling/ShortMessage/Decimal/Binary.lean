/-!
# Binary numbers

A double is, up to its sign, a significand below 2^53 times a power of two. `Binary.ofRatio` rounds a
quotient of natural numbers to the nearest one, and to the even one of two that are equally near;
products and quotients of doubles are rounded the same way. Exponents have no upper bound here, and
`Binary.isFinite` tells the numbers that a double can hold.
-/

namespace ShortMessage

/-- The number `significand * 2 ^ exponent`. It is normal if the significand is at least 2^52, or if
the exponent is the least one. -/
structure Binary where
  significand : Nat
  exponent : Int
  deriving DecidableEq, Repr

/-- A quotient rounded to the nearest natural number, and to the even one of two equally near. -/
def roundRatio (num den : Nat) : Nat :=
  let below := num / den
  let twice := 2 * (num % den)
  if twice < den then below
  else if den < twice then below + 1
  else if below % 2 = 0 then below
  else below + 1

namespace Binary

/-- The least exponent of a double. -/
def leastExponent : Int := -1074

/-- The greatest exponent of a double. -/
def greatestExponent : Int := 971

/-- A double can hold the number. -/
def isFinite (x : Binary) : Bool :=
  x.exponent ≤ greatestExponent

/-- The significand of a double is below 2^53. -/
def significandBound : Nat := 1 <<< 53

/-- The number as a quotient of natural numbers. -/
def num (x : Binary) : Nat := x.significand <<< x.exponent.toNat

/-- The divisor that belongs to `num`. -/
def den (x : Binary) : Nat := 1 <<< (-x.exponent).toNat

/-- Zero. -/
def zero : Binary := ⟨0, leastExponent⟩

/-- The binary number that is nearest to a quotient. -/
def ofRatio (num den : Nat) : Binary :=
  let scaled (e : Int) : Nat × Nat := (num <<< (-e).toNat, den <<< e.toNat)
  let guess := max leastExponent ((num.log2 : Int) - den.log2 - 53)
  let e := if (scaled guess).1 / (scaled guess).2 < significandBound then guess else guess + 1
  let m := roundRatio (scaled e).1 (scaled e).2
  if num = 0 then zero
  else if m = significandBound then ⟨m / 2, e + 1⟩
  else ⟨m, e⟩

/-- The rounded product. -/
def mul (x y : Binary) : Binary :=
  ofRatio (x.num * y.num) (x.den * y.den)

/-- The rounded quotient. -/
def div (x y : Binary) : Binary :=
  ofRatio (x.num * y.den) (x.den * y.num)

end Binary

end ShortMessage
