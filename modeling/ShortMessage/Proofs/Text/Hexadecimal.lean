import Mathlib.Tactic
import ShortMessage.Text.Digits
import ShortMessage.Text.Hexadecimal

/-!
# Numbers in base sixteen

Code points are written in base sixteen. A reader of such digits takes the place of each in a row of
sixteen, adds them up, and has the number again.

* `hexValue` reads digits, and `IsHex` says which digits are written for a number.
* `isHex_hex` and `isHex_hexUpper` say that these digits are written, in either case.
-/

namespace ShortMessage.Text

/-- The digits of base sixteen with small letters, each at the place of its value. -/
def smallDigits : List Char :=
  ['0', '1', '2', '3', '4', '5', '6', '7', '8', '9', 'a', 'b', 'c', 'd', 'e', 'f']

/-- The digits of base sixteen with capital letters, each at the place of its value. -/
def capitalDigits : List Char :=
  ['0', '1', '2', '3', '4', '5', '6', '7', '8', '9', 'A', 'B', 'C', 'D', 'E', 'F']

theorem exists_of_mem_hex {width n : ℕ} {c : Char} (h : c ∈ hex width n) :
    ∃ k < 16, c = Nat.digitChar k := by
  rw [hex, pad, List.mem_append] at h
  rcases h with zero | digit
  · exact ⟨0, by decide, List.eq_of_mem_replicate zero⟩
  · exact exists_of_mem_toDigits (by decide) digit

/-- The value of digits of base sixteen, the highest first. -/
def hexValue (alphabet ds : List Char) : ℕ :=
  ds.foldl (fun n d => n * 16 + alphabet.idxOf d) 0

/-- The digits of a number in base sixteen. There are at least `width` of them, and no zero stands in
front unless it takes one to be so many. -/
structure IsHex (alphabet : List Char) (width n : ℕ) (ds : List Char) : Prop where
  known : ∀ d ∈ ds, d ∈ alphabet
  value : hexValue alphabet ds = n
  enough : width ≤ ds.length
  shortest : width < ds.length → ds.head? ≠ some '0'

theorem hexValue_append (alphabet ds : List Char) (d : Char) :
    hexValue alphabet (ds ++ [d]) = hexValue alphabet ds * 16 + alphabet.idxOf d := by
  rw [hexValue, List.foldl_append]
  rfl

/-- Zeros in front do not change the value. -/
theorem hexValue_replicate_append {alphabet : List Char} {zero : Char}
    (first : alphabet.idxOf zero = 0) (k : ℕ) (ds : List Char) :
    hexValue alphabet (List.replicate k zero ++ ds) = hexValue alphabet ds := by
  induction k with
  | zero => rfl
  | succ k ih =>
    rw [← ih, List.replicate_succ, List.cons_append, hexValue, List.foldl_cons, first]
    rfl

section

variable {alphabet : List Char} {letter : Char → Char} {width n : ℕ}
  (letters : ∀ k < 16, letter (Nat.digitChar k) ∈ alphabet ∧
    alphabet.idxOf (letter (Nat.digitChar k)) = k ∧
    (letter (Nat.digitChar k) = '0' → k = 0))
include letters

theorem hexValue_toDigits :
    hexValue alphabet ((Nat.toDigits 16 n).map letter) = n := by
  induction n using Nat.strong_induction_on with
  | _ n ih =>
    by_cases small : n < 16
    · rw [Nat.toDigits_of_lt_base small]
      simp [hexValue, (letters n small).2.1]
    · have last : n % 16 < 16 := Nat.mod_lt n (by decide)
      rw [Nat.toDigits_of_base_le (by decide) (Nat.le_of_not_lt small), List.map_append,
        List.map_singleton, hexValue_append, ih (n / 16) (by omega), (letters _ last).2.1]
      omega

/-- Digits that are written with some letters are those of the number. -/
theorem isHex_map (positive : 0 < width) :
    IsHex alphabet width n ((hex width n).map letter) := by
  have zero := (letters 0 (by decide)).2.1
  refine ⟨?_, ?_, ?_, ?_⟩
  · intro d hd
    obtain ⟨c, hc, rfl⟩ := List.mem_map.1 hd
    obtain ⟨k, hk, rfl⟩ := exists_of_mem_hex hc
    exact (letters k hk).1
  · rw [hex, pad, List.map_append, List.map_replicate]
    exact (hexValue_replicate_append zero _ _).trans (hexValue_toDigits letters)
  · rw [List.length_map, hex, pad, List.length_append, List.length_replicate]
    omega
  · -- with more digits than the width there is no zero in front of those of the number
    intro long leading
    rw [List.length_map] at long
    have bare : hex width n = Nat.toDigits 16 n := by
      rw [hex, pad, List.length_append, List.length_replicate] at long
      rw [hex, pad, Nat.sub_eq_zero_of_le (by omega), List.replicate_zero, List.nil_append]
    rw [bare] at long leading
    rw [List.head?_map, Option.map_eq_some_iff] at leading
    obtain ⟨d, first, isZero⟩ := leading
    obtain ⟨t, digits⟩ := List.head?_eq_some_iff.1 first
    obtain ⟨k, hk, rfl⟩ := exists_of_mem_toDigits (by decide) (List.mem_of_head? first)
    obtain rfl := (letters k hk).2.2 isZero
    have notZero : n ≠ 0 := by
      rintro rfl
      rw [Nat.toDigits_zero, List.length_singleton] at long
      omega
    exact toDigits_ne_zero_cons (by decide) notZero t digits

end

theorem isHex_hex {width : ℕ} (positive : 0 < width) (n : ℕ) :
    IsHex smallDigits width n (hex width n) := by
  have letters : ∀ k < 16, id (Nat.digitChar k) ∈ smallDigits ∧
      smallDigits.idxOf (id (Nat.digitChar k)) = k ∧ (id (Nat.digitChar k) = '0' → k = 0) := by
    decide
  rw [← List.map_id (hex width n)]
  exact isHex_map letters positive

theorem isHex_hexUpper {width : ℕ} (positive : 0 < width) (n : ℕ) :
    IsHex capitalDigits width n (hexUpper width n) :=
  isHex_map (by decide) positive

end ShortMessage.Text
