import ShortMessage.Json.Numeral.Lemmas
import ShortMessage.Json.Scalar
import ShortMessage.Json.StringLiteral.Lemmas

/-!
# Reading a written scalar

Every scalar is read back from its written form. What follows does not matter, except that a number
must not be followed by what could belong to it.
-/

namespace ShortMessage.Json

theorem skipBlank_cons {c : Char} (h : isBlank c = false) (s : List Char) :
    skipBlank (c :: s) = c :: s := by
  simp [skipBlank, h]

/-- A digit is no blank and starts no other value. -/
theorem ne_of_isDigit {d c : Char} (hd : d.isDigit = true) (hc : c.isDigit = false) : d ≠ c := by
  rintro rfl
  rw [hd] at hc
  cases hc

theorem isBlank_of_isDigit {d : Char} (h : d.isDigit = true) : isBlank d = false := by
  simp [isBlank, ne_of_isDigit h]

theorem headFrom_digit {d : Char} (h : d.isDigit = true) (s : List Char) :
    headFrom d s = number false (d :: s) := by
  simp [headFrom, ne_of_isDigit h, h]

theorem readHead_writeNat {n : Nat} (h : n < Numeral.wordBound) {rest : List Char}
    (stop : EndsNumeral rest) :
    readHead (writeNat n ++ rest) = .ok (.integer n, rest) := by
  have scanned := Numeral.scan_toDigits n stop .endInValue false
  have value := Numeral.integer?_toDigits h
  cases digits : Nat.toDigits 10 n with
  | nil => exact absurd digits Nat.toDigits_ne_nil
  | cons d ds =>
    have first : d.isDigit = true :=
      Numeral.isDigit_of_mem_toDigits (by rw [digits]; exact List.mem_cons_self)
    rw [digits] at scanned value
    rw [List.cons_append] at scanned
    simp only [readHead, writeNat, digits, List.cons_append,
      skipBlank_cons (isBlank_of_isDigit first), headFrom_digit first, number, scanned,
      Numeral.value, value]

theorem natural_writeNat (n : UInt64) {rest : List Char} (stop : EndsNumeral rest) :
    natural.run (writeNat n.toNat ++ rest) = .ok (n, rest) := by
  simp [natural, scalar, readScalar, readHead_writeNat n.toNat_lt stop]

theorem boolean_writeBool (b : Bool) (rest : List Char) :
    boolean.run (writeBool b ++ rest) = .ok (b, rest) := by
  cases b <;> rfl

theorem string_write (s : String) (rest : List Char) :
    string.run (Literal.write s ++ rest) = .ok (s, rest) := by
  have body := Literal.stringBody_written s rest
  have blank : isBlank '"' = false := rfl
  simp [string, scalar, readScalar, readHead, Literal.write_eq_cons, skipBlank_cons blank,
    headFrom, Reader.map, body]

theorem optional_string_writeOptional (s : Option String) (rest : List Char) :
    (optional string).run (writeOptional s ++ rest) = .ok (s, rest) := by
  cases s with
  | none => rfl
  | some s =>
    have written := string_write s rest
    have blank : isBlank '"' = false := rfl
    simp only [writeOptional, Literal.write_eq_cons, List.cons_append] at written ⊢
    simp only [optional, readOptional, skipBlank_cons blank, Reader.map, written]
    rfl

end ShortMessage.Json
