import ShortMessage.Json.Numeral
import ShortMessage.Json.Writer
import ShortMessage.Text.Digits

/-!
# Reading a written number

A number without sign is written in base ten, and is read back if it is below 2^64 and if what
follows cannot belong to a number.

* `absorb_toDigits` says that all digits of a number below the bound are taken in.
* `scan_toDigits` says that the digits of a number are taken from the front of a text.
* `integer?_toDigits` says that they stand for the number.
-/

namespace ShortMessage.Json

/-- The text does not go on with a character that can belong to a number. -/
def EndsNumeral (rest : List Char) : Prop :=
  ∀ c ∈ rest.head?, c.isDigit = false ∧ c ≠ '.' ∧ c ≠ 'e' ∧ c ≠ 'E'

theorem endsNumeral_nil : EndsNumeral [] := by
  intro c hc
  cases hc

theorem endsNumeral_cons {c : Char} {rest : List Char}
    (h : c.isDigit = false ∧ c ≠ '.' ∧ c ≠ 'e' ∧ c ≠ 'E') : EndsNumeral (c :: rest) := by
  intro d hd
  cases hd
  exact h

namespace Numeral

theorem isDigit_of_mem_toDigits {n : Nat} {c : Char} (h : c ∈ Nat.toDigits 10 n) :
    c.isDigit = true :=
  Nat.isDigit_of_mem_toDigits (by decide) (by decide) h

theorem digit_digitChar : ∀ n < 10, digit (Nat.digitChar n) = n := by
  decide

theorem absorb_append {bound n m : Nat} {ds : List Char} (h : absorb bound n ds = (m, []))
    (more : List Char) : absorb bound n (ds ++ more) = absorb bound m more := by
  induction ds generalizing n with
  | nil => cases h; rfl
  | cons d ds ih =>
    rw [List.cons_append]
    rw [absorb] at h ⊢
    split at h
    · next fits => rw [if_pos fits]; exact ih h
    · cases h

theorem absorb_toDigits {bound n : Nat} (h : n < bound) :
    absorb bound 0 (Nat.toDigits 10 n) = (n, []) := by
  induction n using Nat.strongRecOn with
  | _ n ih =>
    by_cases small : n < 10
    · rw [Nat.toDigits_of_lt_base small]
      simp [absorb, digit_digitChar n small, h]
    · rw [Nat.toDigits_of_base_le (by decide) (Nat.le_of_not_lt small),
        absorb_append (ih (n / 10) (by omega) (by omega))]
      have value := digit_digitChar (n % 10) (by omega)
      have whole : n / 10 * 10 + n % 10 = n := by omega
      simp [absorb, value, whole, h]

theorem takeWhile_isDigit {ds rest : List Char} (digits : ∀ c ∈ ds, c.isDigit = true)
    (stop : ∀ c ∈ rest.head?, c.isDigit = false) :
    (ds ++ rest).takeWhile Char.isDigit = ds ∧ (ds ++ rest).dropWhile Char.isDigit = rest := by
  induction ds with
  | nil =>
    cases rest with
    | nil => exact ⟨rfl, rfl⟩
    | cons c rest => simp [stop c rfl]
  | cons d ds ih =>
    have tail := ih fun c hc => digits c (List.mem_cons_of_mem _ hc)
    have first := digits d List.mem_cons_self
    simp [first, tail]

theorem someDigits_append {ds rest : List Char} (nonempty : ds ≠ [])
    (digits : ∀ c ∈ ds, c.isDigit = true) (stop : ∀ c ∈ rest.head?, c.isDigit = false)
    (atEnd : Cause) : someDigits atEnd (ds ++ rest) = .ok (ds, rest) := by
  obtain ⟨taken, left⟩ := takeWhile_isDigit digits stop
  rw [someDigits, taken, left]
  cases ds with
  | nil => exact absurd rfl nonempty
  | cons d ds => rfl

theorem wholeDigits_toDigits (n : Nat) {rest : List Char} (stop : EndsNumeral rest)
    (atEnd : Cause) :
    wholeDigits atEnd (Nat.toDigits 10 n ++ rest) = .ok (Nat.toDigits 10 n, rest) := by
  have digits : ∀ c ∈ rest.head?, c.isDigit = false := fun c hc => (stop c hc).1
  by_cases zero : n = 0
  · subst zero
    show wholeDigits atEnd ('0' :: rest) = .ok (['0'], rest)
    cases rest with
    | nil => rfl
    | cons c rest => simp [wholeDigits, digits c rfl]
  · unfold wholeDigits
    split
    · next t heq =>
      cases front : Nat.toDigits 10 n with
      | nil => exact absurd front Nat.toDigits_ne_nil
      | cons d ds =>
        rw [front, List.cons_append, List.cons.injEq] at heq
        exact absurd (by rw [front, heq.1]) (Text.toDigits_ne_zero_cons (by decide) zero ds)
    · exact someDigits_append Nat.toDigits_ne_nil (fun _ => isDigit_of_mem_toDigits) digits atEnd

theorem fractionDigits_of_endsNumeral {rest : List Char} (stop : EndsNumeral rest)
    (atEnd : Cause) : fractionDigits atEnd rest = .ok ([], rest) := by
  unfold fractionDigits
  split
  · exact absurd rfl (stop _ rfl).2.1
  · rfl

theorem powerDigits_of_endsNumeral {rest : List Char} (stop : EndsNumeral rest) (atEnd : Cause) :
    powerDigits atEnd rest = .ok (none, rest) := by
  cases rest with
  | nil => rfl
  | cons c rest => simp [powerDigits, stop c rfl]

theorem scan_toDigits (n : Nat) {rest : List Char} (stop : EndsNumeral rest) (atEnd : Cause)
    (negative : Bool) :
    scan atEnd negative (Nat.toDigits 10 n ++ rest) =
      .ok (⟨negative, Nat.toDigits 10 n, [], none⟩, rest) := by
  simp [scan, wholeDigits_toDigits n stop, fractionDigits_of_endsNumeral stop,
    powerDigits_of_endsNumeral stop]

theorem integer?_toDigits {n : Nat} (h : n < wordBound) :
    integer? ⟨false, Nat.toDigits 10 n, [], none⟩ = some (n : Int) := by
  simp only [integer?, absorb_toDigits h]
  rfl

end Numeral

end ShortMessage.Json
