import ShortMessage.Json.Reader

/-!
# Numbers

A number has a sign, whole digits without a needless zero in front, and perhaps fraction digits and a
power of ten. `Numeral.scan` takes one from the front of a text, and `Numeral.value` says what it
stands for: an integer, if it is written as one and fits sixty-four bits, and else a double.
-/

namespace ShortMessage.Json

/-- A number as it is written. Of the exponent, the sign and the digits are kept; a number without a
fraction has no fraction digits. -/
structure Numeral where
  negative : Bool
  whole : List Char
  fraction : List Char
  exponent : Option (Bool × List Char)
  deriving DecidableEq, Repr

namespace Numeral

/-! ## The form of a number -/

/-- At least one digit, and all that follow it. Where the text ends, the cause is `atEnd`. -/
def someDigits (atEnd : Cause) (s : List Char) : Result (List Char) :=
  match s.takeWhile Char.isDigit with
  | [] => .error (.here atEnd .invalidNumber s)
  | digits => .ok (digits, s.dropWhile Char.isDigit)

/-- Whole digits: a zero that no digit follows, or digits that start with another one. -/
def wholeDigits (atEnd : Cause) : List Char → Result (List Char)
  | '0' :: rest => match rest with
    | d :: more =>
      if d.isDigit then .error (.here atEnd .invalidNumber (d :: more)) else .ok (['0'], d :: more)
    | [] => .ok (['0'], [])
  | s => someDigits atEnd s

/-- Fraction digits after a point, or none. -/
def fractionDigits (atEnd : Cause) : List Char → Result (List Char)
  | '.' :: rest => someDigits atEnd rest
  | s => .ok ([], s)

/-- A sign, of which only the minus matters, or none. -/
def exponentSign : List Char → Bool × List Char
  | '-' :: rest => (true, rest)
  | '+' :: rest => (false, rest)
  | s => (false, s)

/-- A power of ten after the letter `e` in either case, or none. -/
def powerDigits (atEnd : Cause) : List Char → Result (Option (Bool × List Char))
  | c :: rest =>
    if c = 'e' ∨ c = 'E' then
      let (negative, digits) := exponentSign rest
      match someDigits atEnd digits with
      | .error e => .error e
      | .ok (ds, more) => .ok (some (negative, ds), more)
    else .ok (none, c :: rest)
  | [] => .ok (none, [])

/-- Takes a number after its sign from the front of a text. -/
def scan (atEnd : Cause) (negative : Bool) (s : List Char) : Result Numeral :=
  match wholeDigits atEnd s with
  | .error e => .error e
  | .ok (whole, afterWhole) => match fractionDigits atEnd afterWhole with
    | .error e => .error e
    | .ok (fraction, afterFraction) => match powerDigits atEnd afterFraction with
      | .error e => .error e
      | .ok (exponent, rest) => .ok (⟨negative, whole, fraction, exponent⟩, rest)

theorem length_of_someDigits {atEnd : Cause} {s ds rest : List Char}
    (h : someDigits atEnd s = .ok (ds, rest)) : rest.length < s.length := by
  unfold someDigits at h
  split at h
  · cases h
  · next hne =>
    cases h
    have split := congrArg List.length (List.takeWhile_append_dropWhile (p := Char.isDigit) (l := s))
    have := List.length_pos_iff.2 hne
    rw [List.length_append] at split
    omega

theorem length_of_wholeDigits {atEnd : Cause} {s ds rest : List Char}
    (h : wholeDigits atEnd s = .ok (ds, rest)) : rest.length < s.length := by
  unfold wholeDigits at h
  split at h
  · split at h
    · split at h
      · cases h
      · cases h; simp
    · cases h; simp
  · exact length_of_someDigits h

theorem length_of_fractionDigits {atEnd : Cause} {s ds rest : List Char}
    (h : fractionDigits atEnd s = .ok (ds, rest)) : rest.length ≤ s.length := by
  unfold fractionDigits at h
  split at h
  · have := length_of_someDigits h; simp; omega
  · cases h; simp

theorem length_exponentSign_le (s : List Char) : (exponentSign s).2.length ≤ s.length := by
  unfold exponentSign
  split <;> simp

theorem length_of_powerDigits {atEnd : Cause} {s rest : List Char} {e : Option (Bool × List Char)}
    (h : powerDigits atEnd s = .ok (e, rest)) : rest.length ≤ s.length := by
  unfold powerDigits at h
  split at h
  · next c more =>
    dsimp only at h
    split at h
    · split at h
      · cases h
      · next hd =>
        cases h
        have := length_of_someDigits hd
        have := length_exponentSign_le more
        simp; omega
    · cases h; simp
  · cases h; simp

theorem length_of_scan {atEnd : Cause} {negative : Bool} {s rest : List Char} {n : Numeral}
    (h : scan atEnd negative s = .ok (n, rest)) : rest.length < s.length := by
  unfold scan at h
  split at h
  · cases h
  · next hw =>
    split at h
    · cases h
    · next hf =>
      split at h
      · cases h
      · next hp =>
        cases h
        have := length_of_wholeDigits hw
        have := length_of_fractionDigits hf
        have := length_of_powerDigits hp
        omega

/-! ## The value of a number -/

/-- The value of a decimal digit. -/
def digit (c : Char) : Nat :=
  c.toNat - '0'.toNat

/-- The numbers of sixty-four bits without sign are those below this one. -/
def wordBound : Nat := 0x10000000000000000

/-- The exponents of thirty-one bits without sign are those below this one. -/
def exponentBound : Nat := 0x80000000

/-- Appends digits to a number while the result is below a bound, and gives the number and the digits
from the first one that does not fit. -/
def absorb (bound n : Nat) : List Char → Nat × List Char
  | [] => (n, [])
  | d :: ds =>
    if n * 10 + digit d < bound then absorb bound (n * 10 + digit d) ds else (n, d :: ds)

/-- The digits of a number: those of the whole part and of the fraction that fit sixty-four bits. A
whole digit that does not fit scales the number by ten; a fraction digit that does not fit, and all
after it, are dropped. -/
def decimal (n : Numeral) : Decimal :=
  let (m, excess) := absorb wordBound 0 n.whole
  let (digits, dropped) := absorb wordBound m n.fraction
  ⟨digits, (excess.length : Int) - (n.fraction.length - dropped.length : Int)⟩

/-- The integer that a number stands for, if it has neither fraction nor exponent and fits: without
sign below 2^64, and with one down to -2^63. Minus zero is no integer. -/
def integer? (n : Numeral) : Option Int :=
  match n.fraction, n.exponent, absorb wordBound 0 n.whole with
  | [], none, (m, []) =>
    if !n.negative then some m else if 0 < m ∧ 2 * m ≤ wordBound then some (-m) else none
  | _, _, _ => none

/-- What a number stands for, where `rest` is the text after it. A number beyond every double is
refused after its last digit. An exponent that does not fit thirty-one bits makes the number zero or
refused, and then the first digit that does not fit is the last one read. -/
def value (n : Numeral) (rest : List Char) : Except Failure Found :=
  match n.integer? with
  | some i => .ok (.integer i)
  | none =>
    let d := n.decimal
    let sized (exponent : Int) : Except Failure Found :=
      match Decimal.toBinary? ⟨d.digits, exponent⟩ with
      | some x => .ok (.float n.negative x)
      | none => .error (.before .numberOutOfRange rest)
    match n.exponent with
    | none => sized d.exponent
    | some (negative, digits) => match absorb exponentBound 0 digits with
      | (e, []) => sized (if negative then d.exponent - e else d.exponent + e)
      | (_, _ :: unread) =>
        if d.digits = 0 ∨ negative then .ok (.float n.negative .zero)
        else .error (.before .numberOutOfRange (unread ++ rest))

end Numeral

end ShortMessage.Json
