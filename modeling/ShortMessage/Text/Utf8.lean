/-!
# Texts as octets

A text is kept in UTF-8, and some checks look at its octets instead of its characters. A digit is one
octet, and every other character has an octet that is no digit.

* `utf8` are the octets of a text.
* `all_isDigitOctet_utf8` says that the octets of a text are digits if and only if its characters are.
* `length_utf8_of_isDigit` says that digits are as many octets as characters.
-/

namespace ShortMessage.Text

/-- The octets of a text in UTF-8. -/
def utf8 (cs : List Char) : List UInt8 :=
  cs.flatMap String.utf8EncodeChar

/-- An octet that stands for a decimal digit. -/
def isDigitOctet (b : UInt8) : Bool :=
  0x30 ≤ b && b ≤ 0x39

theorem isDigit_eq_decide (c : Char) : c.isDigit = decide (0x30 ≤ c.toNat ∧ c.toNat ≤ 0x39) := by
  rw [Char.isDigit, Bool.decide_and]
  rfl

theorem isDigitOctet_ofNat {n : Nat} (h : n < 0x100) :
    isDigitOctet (UInt8.ofNat n) = decide (0x30 ≤ n ∧ n ≤ 0x39) := by
  simp [isDigitOctet, UInt8.le_iff_toNat_le, Nat.mod_eq_of_lt h]

/-- The octets of a character are digits if and only if it is one. -/
theorem all_isDigitOctet_utf8EncodeChar (c : Char) :
    (String.utf8EncodeChar c).all isDigitOctet = c.isDigit := by
  rw [isDigit_eq_decide]
  by_cases ascii : c.toNat ≤ 0x7F
  · have one : String.utf8EncodeChar c = [UInt8.ofNat c.toNat] := by
      simp [String.utf8EncodeChar, ascii]
    simp [one, isDigitOctet_ofNat (show c.toNat < 0x100 by omega)]
  · -- the octet that announces how many follow is above all digits
    have first : ∃ n rest, String.utf8EncodeChar c = UInt8.ofNat n :: rest ∧ 0xC0 ≤ n ∧
        n < 0x100 := by
      change ¬ c.val.toNat ≤ 0x7F at ascii
      simp only [String.utf8EncodeChar, if_neg ascii]
      split
      · exact ⟨_, _, rfl, by omega, by omega⟩
      split
      · exact ⟨_, _, rfl, by omega, by omega⟩
      · exact ⟨_, _, rfl, by omega, by omega⟩
    obtain ⟨n, rest, octets, low, high⟩ := first
    have octet : ¬ (0x30 ≤ n ∧ n ≤ 0x39) := by omega
    have character : ¬ (0x30 ≤ c.toNat ∧ c.toNat ≤ 0x39) := by omega
    rw [octets, List.all_cons, isDigitOctet_ofNat high, decide_eq_false octet,
      decide_eq_false character, Bool.false_and]

theorem all_isDigitOctet_utf8 (cs : List Char) :
    (utf8 cs).all isDigitOctet = cs.all Char.isDigit := by
  simp only [utf8, List.all_flatMap, all_isDigitOctet_utf8EncodeChar]

theorem length_utf8_of_isDigit {cs : List Char} (digits : ∀ c ∈ cs, c.isDigit = true) :
    (utf8 cs).length = cs.length := by
  induction cs with
  | nil => rfl
  | cons c cs ih =>
    obtain ⟨first, others⟩ := List.forall_mem_cons.1 digits
    have one : c.utf8Size = 1 := by
      rw [isDigit_eq_decide, decide_eq_true_eq] at first
      exact Char.utf8Size_eq_one_iff.2 (UInt32.le_iff_toNat_le.2 (Nat.le_trans first.2 (by decide)))
    have tail := ih others
    rw [utf8] at tail
    rw [utf8, List.flatMap_cons, List.length_append, String.length_utf8EncodeChar, one, tail,
      List.length_cons, Nat.add_comm]

end ShortMessage.Text
