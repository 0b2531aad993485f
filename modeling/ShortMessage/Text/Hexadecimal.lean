/-!
# Hexadecimal numbers

Code points are written in base sixteen, with a least count of digits. `hex` has lower-case digits,
`hexUpper` upper-case ones.
-/

namespace ShortMessage.Text

/-- Zeros in front of the digits, up to the least count `width`. -/
def pad (width : Nat) (digits : List Char) : List Char :=
  List.replicate (width - digits.length) '0' ++ digits

/-- A number in base sixteen with lower-case digits, at least `width` of them. -/
def hex (width n : Nat) : List Char :=
  pad width (Nat.toDigits 16 n)

/-- A number in base sixteen with upper-case digits, at least `width` of them. -/
def hexUpper (width n : Nat) : List Char :=
  (hex width n).map Char.toUpper

end ShortMessage.Text
