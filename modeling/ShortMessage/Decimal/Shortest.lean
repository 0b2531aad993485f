import ShortMessage.Decimal.Basic

/-!
# The shortest decimal of a binary number

The reals that round to a double form an interval, whose ends belong to it when the significand is
even. Among the decimals of that interval the shortest one is sought: on the grids of one, two, and
more digits the two neighbours of the value are tried, and the first grid with a neighbour in the
interval gives the digits. Of two neighbours the nearer is taken, and of two equally near the even
one.

`Binary.shortest` finds the decimal, and `Layout.write` says how its digits become a text.
-/

namespace ShortMessage

/-- Whether the next number below is only half as far away as the next one above. -/
def Binary.narrowBelow (x : Binary) : Bool :=
  2 * x.significand = significandBound && x.exponent ≠ leastExponent

/-- The value and the ends of its interval, as multiples of a quarter of the last binary place,
measured on a decimal grid: a point `c` of the grid stands at `c * unit`. -/
structure Measured where
  low : Nat
  value : Nat
  high : Nat
  unit : Nat
  closed : Bool
  deriving DecidableEq, Repr

/-- The measures of a number on the grid of the multiples of `10 ^ k`. -/
def Binary.measure (x : Binary) (k : Int) : Measured :=
  let scale := Nat.pow 10 (-k).toNat <<< (x.exponent - 2).toNat
  { low := (4 * x.significand - if x.narrowBelow then 1 else 2) * scale
    value := 4 * x.significand * scale
    high := (4 * x.significand + 2) * scale
    unit := Nat.pow 10 k.toNat <<< (2 - x.exponent).toNat
    closed := x.significand % 2 = 0 }

namespace Measured

/-- A point of the grid that rounds to the value. -/
def holds (g : Measured) (c : Nat) : Bool :=
  if g.closed then g.low ≤ c * g.unit && c * g.unit ≤ g.high
  else g.low < c * g.unit && c * g.unit < g.high

/-- The neighbour of the value on the grid that rounds to it, the nearer one if both do. -/
def nearest (g : Measured) : Option Nat :=
  let below := g.value / g.unit
  let above := below + 1
  match g.holds below, g.holds above with
  | false, false => none
  | true, false => some below
  | false, true => some above
  | true, true =>
    let left := g.value - below * g.unit
    let right := above * g.unit - g.value
    if left < right then some below
    else if right < left then some above
    else some (if below % 2 = 0 then below else above)

end Measured

/-- How many digits a number has. -/
def digitCount (n : Nat) : Nat :=
  (Nat.toDigits 10 n).length

/-- The exponent of the leading decimal digit of a positive number. -/
def Binary.leading (x : Binary) : Int :=
  let g := x.measure 0
  if g.unit ≤ g.value then (digitCount (g.value / g.unit) : Int) - 1
  else -(digitCount ((g.unit - 1) / g.value) : Int)

/-- The shortest decimal that rounds to a positive number. Seventeen digits always suffice. -/
def Binary.shortest (x : Binary) : Decimal :=
  let exponents := (List.range 17).map fun (n : Nat) => x.leading - n
  let found := exponents.findSome? fun k => (x.measure k).nearest.map fun c => (⟨c, k⟩ : Decimal)
  found.getD ⟨x.significand, 0⟩

/-- When the digits of a number are written in their places and not with an exponent: from the least
to the most leading exponent. -/
structure Layout where
  least : Int
  most : Int
  deriving DecidableEq, Repr

/-- The text of a positive decimal: with a point and a digit after it if written in place, else with
one digit in front of the point and a signed exponent. -/
def Layout.write (f : Layout) (d : Decimal) : List Char :=
  let (digits, leading) := d.normal
  if f.least ≤ leading && leading ≤ f.most then
    if leading < 0 then
      ['0', '.'] ++ List.replicate (-leading - 1).toNat '0' ++ digits
    else
      let places := leading.toNat + 1
      let whole := digits.take places ++ List.replicate (places - digits.length) '0'
      let rest := digits.drop places
      whole ++ '.' :: if rest.isEmpty then ['0'] else rest
  else
    let rest := digits.drop 1
    let sign := if leading < 0 then '-' else '+'
    digits.take 1 ++ (if rest.isEmpty then [] else '.' :: rest) ++
      'e' :: sign :: Nat.toDigits 10 leading.natAbs

/-- The text of a number with a sign; zero keeps it. -/
def Layout.writeSigned (f : Layout) (negative : Bool) (x : Binary) : String :=
  let text := if x.significand = 0 then ['0', '.', '0'] else f.write x.shortest
  String.ofList (if negative then '-' :: text else text)

end ShortMessage
