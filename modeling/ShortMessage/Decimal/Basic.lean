import ShortMessage.Decimal.Binary

/-!
# Decimals

A decimal is a whole number of digits times a power of ten.

* `Decimal.normal` gives the digits as they are written, without zeros at the end.
* `Decimal.toBinary?` rounds the digits to a binary number and then the product with, or the quotient
  by, the power of ten. That is exact for short numbers of a common size and off by few last places
  for the others.
-/

namespace ShortMessage

/-- The number `digits * 10 ^ exponent`. -/
structure Decimal where
  digits : Nat
  exponent : Int
  deriving DecidableEq, Repr

/-- The binary number nearest to a power of ten. -/
def powerOfTen (n : Nat) : Binary :=
  .ofRatio (Nat.pow 10 n) 1

/-- A number divided by a power of ten, in steps of at most 308 places. -/
def divideByTens (x : Binary) (places : Nat) : Binary :=
  if places ≤ 308 then x.div (powerOfTen places)
  else if x.significand = 0 then x
  else divideByTens (x.div (powerOfTen 308)) (places - 308)
termination_by places

namespace Decimal

/-- The digits of a decimal without zeros at the end, and the exponent of the first of them. -/
def normal (d : Decimal) : List Char × Int :=
  let written := Nat.toDigits 10 d.digits
  let kept := (written.reverse.dropWhile (· = '0')).reverse
  (kept, d.exponent + written.length - 1)

/-- The binary number for a decimal; none if it is beyond every double. -/
def toBinary? (d : Decimal) : Option Binary :=
  let x := Binary.ofRatio d.digits 1
  if d.exponent < 0 then some (divideByTens x d.exponent.natAbs)
  else if d.exponent ≤ 308 then
    let product := x.mul (powerOfTen d.exponent.toNat)
    if product.isFinite then some product else none
  else if x.significand = 0 then some x
  else none

end Decimal

end ShortMessage
