import ShortMessage.Proofs.Body.Stream
import ShortMessage.Proofs.Body.Units

/-!
# The length of a body

How long a text is in a coding is counted without writing it, and for septets with another look-up
than the one that finds the octets. The count and the octets agree, and so does the choice of the
coding.

* `Coding.length?_eq_some_iff` says that a text has a length if and only if it can be written, and
  that the length counts the octets.
* `Coding.ofText_agrees` puts the choice, the length and the octets together.
-/

namespace ShortMessage.Coding

/-- The octets of a septet or a unit. -/
def width : Coding → ℕ
  | gsm7 => 1
  | unicode => 2

section Septets

variable {c : Char} {cs : List Char} {n : ℕ}

/-- A character counts as many septets as its unit has octets. -/
theorem septetCount?_eq_map (c : Char) : septetCount? c = (Septets.ofChar? c).map List.length := by
  rw [septetCount?, Septets.ofChar?, ← Alphabet.isSome_septet?, Alphabet.isExtension]
  cases Alphabet.septet? c with
  | some b => rfl
  | none => cases Alphabet.extension? c <;> rfl

theorem septetLength?_cons_eq_some_iff :
    septetLength? (c :: cs) = some n ↔
      ∃ k m, septetCount? c = some k ∧ septetLength? cs = some m ∧ k + m = n := by
  rw [septetLength?]
  cases septetCount? c <;> cases septetLength? cs <;> simp

theorem septetLength?_eq_some_iff (position : ℕ) :
    septetLength? cs = some n ↔
      ∃ bytes, Septets.encodeFrom position cs = .ok bytes ∧ bytes.length = n := by
  induction cs generalizing n position with
  | nil => simp [septetLength?, Septets.encodeFrom]
  | cons c cs ih =>
    rw [septetLength?_cons_eq_some_iff]
    simp only [Septets.encodeFrom_cons_eq_ok_iff, septetCount?_eq_map, Option.map_eq_some_iff,
      ih (position + 1)]
    constructor
    · rintro ⟨_, _, ⟨unit, hunit, rfl⟩, ⟨more, hmore, rfl⟩, rfl⟩
      exact ⟨_, ⟨unit, more, hunit, hmore, rfl⟩, List.length_append⟩
    · rintro ⟨_, ⟨unit, more, hunit, hmore, rfl⟩, rfl⟩
      exact ⟨_, _, ⟨unit, hunit, rfl⟩, ⟨more, hmore, rfl⟩, List.length_append.symm⟩

end Septets

variable {coding : Coding} {text : String} {bytes : List UInt8} {n : ℕ}

/-- A text has a length in a coding if and only if it can be written in it. -/
theorem length?_eq_some_iff :
    coding.length? text = some n ↔
      ∃ bytes, coding.encode text = .ok bytes ∧ bytes.length = coding.width * n := by
  cases coding with
  | gsm7 =>
    rw [length?, septetLength?_eq_some_iff 0, width, Nat.one_mul]
    rfl
  | unicode =>
    have octets : (Units.encode text.toList).length = 2 * (Units.ofChars text.toList).length :=
      Units.length_flatMap_octets _
    simp only [length?, encode, width, Option.some.injEq, Except.ok.injEq, exists_eq_left', octets]
    omega

theorem exists_length?_of_encode (h : coding.encode text = .ok bytes) :
    ∃ n, coding.length? text = some n ∧ bytes.length = coding.width * n := by
  cases coding with
  | gsm7 =>
    have octets : bytes.length = width gsm7 * bytes.length := (Nat.one_mul _).symm
    exact ⟨bytes.length, length?_eq_some_iff.2 ⟨bytes, h, octets⟩, octets⟩
  | unicode =>
    cases h
    exact ⟨_, rfl, Units.length_flatMap_octets _⟩

theorem ofText_eq_gsm7_iff :
    (ofText text).result = .ok gsm7 ↔ ∃ bytes, gsm7.encode text = .ok bytes := by
  rw [ofText_result, encode, Septets.exists_encode_iff, ← List.all_eq_true]
  by_cases h : text.toList.all Alphabet.contains = true <;> simp [h]

/-- **The choice of a coding, the length and the octets agree.** Septets are chosen if and only if
the text has a length in septets, and if and only if it can be written in them, and then the length
is the count of the octets. So a body is always written, and the octets are as many as the length in
the chosen coding says. -/
theorem ofText_agrees (text : String) :
    ((ofText text).result = .ok gsm7 ↔ ∃ n, gsm7.length? text = some n) ∧
    ((ofText text).result = .ok gsm7 ↔ ∃ bytes, gsm7.encode text = .ok bytes) ∧
    (∀ n, gsm7.length? text = some n ↔
      ∃ bytes, gsm7.encode text = .ok bytes ∧ bytes.length = n) ∧
    ∃ coding bytes n, (encodeBody text).result = .ok (coding, bytes) ∧
      (ofText text).result = .ok coding ∧ coding.length? text = some n ∧
      bytes.length = coding.width * n := by
  refine ⟨?_, ofText_eq_gsm7_iff, fun n => septetLength?_eq_some_iff 0, ?_⟩
  · rw [ofText_eq_gsm7_iff]
    constructor
    · rintro ⟨bytes, h⟩
      obtain ⟨n, hn, -⟩ := exists_length?_of_encode h
      exact ⟨n, hn⟩
    · rintro ⟨n, hn⟩
      obtain ⟨bytes, h, -⟩ := length?_eq_some_iff.1 hn
      exact ⟨bytes, h⟩
  · obtain ⟨⟨coding, bytes⟩, hbody⟩ := exists_encodeBody text
    obtain ⟨chosen, written⟩ := encodeBody_result_iff.1 hbody
    obtain ⟨n, hn, octets⟩ := exists_length?_of_encode written
    exact ⟨coding, bytes, n, hbody, chosen, hn, octets⟩

end ShortMessage.Coding
