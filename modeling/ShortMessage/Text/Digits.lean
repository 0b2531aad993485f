/-!
# Digits of numbers

Numbers are written in a base with one digit for each power, the highest first.

* `exists_of_mem_toDigits` says that only digits of the base occur.
* `toDigits_ne_zero_cons` says that no zero stands in front, except for the number zero.
-/

namespace ShortMessage.Text

variable {base n : Nat}

/-- A number is written with the digits of its base. -/
theorem exists_of_mem_toDigits (hb : 1 < base) {c : Char} (h : c ∈ Nat.toDigits base n) :
    ∃ k, k < base ∧ c = Nat.digitChar k := by
  induction n using Nat.strongRecOn with
  | _ n ih =>
    by_cases small : n < base
    · rw [Nat.toDigits_of_lt_base small, List.mem_singleton] at h
      exact ⟨n, small, h⟩
    · -- the digits of a smaller number, and the last digit
      rw [Nat.toDigits_of_base_le hb (Nat.le_of_not_lt small), List.mem_append,
        List.mem_singleton] at h
      rcases h with earlier | last
      · exact ih (n / base) (Nat.div_lt_self (by omega) hb) earlier
      · exact ⟨n % base, Nat.mod_lt n (by omega), last⟩

/-- Only the digits of zero start with a zero. -/
theorem toDigits_ne_zero_cons (hb : 1 < base) (h : n ≠ 0) (t : List Char) :
    Nat.toDigits base n ≠ '0' :: t := by
  induction n using Nat.strongRecOn generalizing t with
  | _ n ih =>
    by_cases small : n < base
    · rw [Nat.toDigits_of_lt_base small]
      simp [h]
    · have whole : base ≤ n := Nat.le_of_not_lt small
      rw [Nat.toDigits_of_base_le hb whole]
      cases front : Nat.toDigits base (n / base) with
      | nil => exact absurd front Nat.toDigits_ne_nil
      | cons d ds =>
        intro heq
        rw [List.cons_append, List.cons.injEq] at heq
        have smaller : n / base < n := Nat.div_lt_self (by omega) hb
        have positive : n / base ≠ 0 := Nat.ne_of_gt (Nat.div_pos whole (by omega))
        exact ih (n / base) smaller positive ds (by rw [front, heq.1])

end ShortMessage.Text
