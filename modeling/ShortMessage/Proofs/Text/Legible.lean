import Mathlib.Tactic

/-!
# What can be read off the end of a text

A report is one sentence with names and numbers in it. To tell them from the sentence it is read from
its end: a name is the last one of a few, and a number ends where something stands that is no digit.

* `Legible` says of a way of writing that what was written can be read off the end of any text.
* `eq_of_append_number_eq` reads a number off after a word, and `legible_coded` says that a name with
  its code can be read off.
-/

namespace ShortMessage.Text

/-- What is written at the end of a text can be read off, whatever stands before it. -/
def Legible {α : Type} (write : α → String) : Prop :=
  ∀ ⦃s t a b⦄, s ++ write a = t ++ write b → s = t ∧ a = b

/-- The last place of a separator splits a text in one way only. -/
theorem eq_of_append_cons_eq {c : Char} {xs ys xs' ys' : List Char} (h : c ∉ ys) (h' : c ∉ ys')
    (same : xs ++ c :: ys = xs' ++ c :: ys') : xs = xs' ∧ ys = ys' := by
  rcases List.append_eq_append_iff.1 same with ⟨more, rfl, rest⟩ | ⟨more, rfl, rest⟩
  · cases more with
    | nil => exact ⟨(List.append_nil _).symm, (List.cons.inj rest).2⟩
    | cons d more =>
      obtain ⟨rfl, rfl⟩ := List.cons.inj rest
      exact absurd (List.mem_append_right more List.mem_cons_self) h
  · cases more with
    | nil => exact ⟨List.append_nil _, (List.cons.inj rest).2.symm⟩
    | cons d more =>
      obtain ⟨rfl, rfl⟩ := List.cons.inj rest
      exact absurd (List.mem_append_right more List.mem_cons_self) h'

/-- Different numbers have different digits. -/
theorem eq_of_toDigits_eq {m n : ℕ} (same : Nat.toDigits 10 m = Nat.toDigits 10 n) : m = n :=
  calc
    m = Nat.ofDigitChars 10 (Nat.toDigits 10 m) 0 := Nat.ofDigitChars_ten_toDigits.symm
    _ = Nat.ofDigitChars 10 (Nat.toDigits 10 n) 0 := by rw [same]
    _ = n := Nat.ofDigitChars_ten_toDigits

theorem eq_of_toString_eq {m n : ℕ} (same : toString m = toString n) : m = n := by
  have digits := congrArg String.toList same
  simp only [Nat.toString_eq_ofList_toDigits, String.toList_ofList] at digits
  exact eq_of_toDigits_eq digits

/-- A number can be read off after a word that does not end in a digit. -/
theorem eq_of_append_number_eq {word s t : String} {front : List Char} {c : Char}
    (split : word.toList = front ++ [c]) (separates : c.isDigit = false) {m n : ℕ}
    (same : s ++ word ++ toString m = t ++ word ++ toString n) : s = t ∧ m = n := by
  have apart : ∀ n, c ∉ Nat.toDigits 10 n := by
    intro n inside
    rw [Nat.isDigit_of_mem_toDigits (by decide) (by decide) inside] at separates
    cases separates
  have characters := congrArg String.toList same
  simp only [String.toList_append, split, Nat.toString_eq_ofList_toDigits, String.toList_ofList,
    List.append_assoc, List.singleton_append] at characters
  rw [← List.append_assoc, ← List.append_assoc] at characters
  obtain ⟨before, digits⟩ := eq_of_append_cons_eq (apart m) (apart n) characters
  exact ⟨String.toList_inj.1 (List.append_cancel_right before), eq_of_toDigits_eq digits⟩

/-- A name can be read off with its code in brackets behind it, if no two codes are the same. -/
theorem legible_coded {α : Type} {label : α → String} {code : α → ℕ}
    (codes : Function.Injective code) :
    Legible fun a => label a ++ " (" ++ toString (code a) ++ ")" := by
  have bracket : " (".toList = [' '] ++ ['('] := by decide
  intro s t a b same
  simp only [← String.append_assoc, String.append_left_inj] at same
  obtain ⟨front, equal⟩ := eq_of_append_number_eq bracket rfl same
  obtain rfl := codes equal
  exact ⟨(String.append_left_inj _).1 front, rfl⟩

end ShortMessage.Text
