import ShortMessage.Proofs.Body.Foreign
import ShortMessage.Proofs.Body.Length

/-!
# Bodies that are put together

A text can be cut anywhere between two characters: what is written for the whole is what is written
for the parts, and the lengths of the parts add up. Where a part cannot be written, neither can the
whole, and for the same character; only its place moves on by the characters of the part before.

* `Error.after` is an error of a text as an error of the same text behind some characters.
* `Coding.encode_append` is the law of writing, refusals included.
* `Coding.encode_append_cases` says what the codings, the lengths and the choice of a coding make of
  two texts one after the other.
-/

namespace ShortMessage

/-- The error of a text that stands behind some characters. -/
def Error.after (count : ℕ) : Error → Error
  | unrepresentable c position => unrepresentable c (position + count)
  | e => e

namespace Septets

/-- Characters before a text change nothing but the place of the one that is refused. -/
theorem encodeFrom_add (start count : ℕ) (cs : List Char) :
    encodeFrom (start + count) cs = (encodeFrom start cs).mapError (Error.after count) := by
  induction cs generalizing start with
  | nil => rfl
  | cons c cs ih =>
    rw [encodeFrom, encodeFrom, Nat.add_right_comm, ih]
    cases ofChar? c with
    | none => rfl
    | some unit => cases encodeFrom (start + 1) cs <;> rfl

/-- Two texts are written one after the other, and the characters of the first count for the
second. -/
theorem encodeFrom_append (start : ℕ) (cs ds : List Char) :
    encodeFrom start (cs ++ ds) = do
      let bytes ← encodeFrom start cs
      let more ← encodeFrom (start + cs.length) ds
      return bytes ++ more := by
  induction cs generalizing start with
  | nil =>
    show encodeFrom start ds = encodeFrom start ds >>= pure
    exact (bind_pure _).symm
  | cons c cs ih =>
    have next : start + (c :: cs).length = start + 1 + cs.length := by
      rw [List.length_cons]
      omega
    rw [List.cons_append, encodeFrom, encodeFrom, ih, next]
    cases ofChar? c with
    | none => rfl
    | some unit =>
      cases encodeFrom (start + 1) cs with
      | error e => rfl
      | ok bytes =>
        cases encodeFrom (start + 1 + cs.length) ds with
        | error e => rfl
        | ok more => exact congrArg Except.ok (List.append_assoc unit bytes more).symm

end Septets

namespace Coding

variable {coding : Coding} {text : String} {cs ds : List Char} {e : Error} {n : ℕ}

/-- Two texts are written one after the other. The first is refused as it is alone, and the second
as behind the first. -/
theorem encode_append (coding : Coding) (a b : String) :
    coding.encode (a ++ b) = do
      let bytes ← coding.encode a
      let more ← (coding.encode b).mapError (Error.after a.toList.length)
      return bytes ++ more := by
  cases coding with
  | gsm7 =>
    simp only [encode, Septets.encode, String.toList_append, Septets.encodeFrom_append,
      Septets.encodeFrom_add]
  | unicode =>
    simp only [encode, Units.encode, Units.ofChars, String.toList_append, List.flatMap_append]
    rfl

/-- Only a character that is not in the alphabet keeps a text from being written. -/
theorem exists_unrepresentable_of_encode (h : coding.encode text = .error e) :
    ∃ c position, e = .unrepresentable c position := by
  cases coding with
  | gsm7 =>
    obtain ⟨c, position, he, -⟩ := Septets.encode_eq_error_iff.1 h
    exact ⟨c, position, he⟩
  | unicode => cases h

theorem septetLength?_append_eq_some_iff :
    septetLength? (cs ++ ds) = some n ↔
      ∃ k m, septetLength? cs = some k ∧ septetLength? ds = some m ∧ k + m = n := by
  induction cs generalizing n with
  | nil => simp [septetLength?]
  | cons c cs ih =>
    simp only [List.cons_append, septetLength?_cons_eq_some_iff, ih]
    constructor
    · rintro ⟨i, -, hc, ⟨k, m, hk, hm, rfl⟩, rfl⟩
      exact ⟨i + k, m, ⟨i, k, hc, hk, rfl⟩, hm, Nat.add_assoc i k m⟩
    · rintro ⟨-, m, ⟨i, k, hc, hk, rfl⟩, hm, rfl⟩
      exact ⟨i, k + m, hc, ⟨k, m, hk, hm, rfl⟩, (Nat.add_assoc i k m).symm⟩

theorem length?_append_eq_some_iff {a b : String} :
    coding.length? (a ++ b) = some n ↔
      ∃ k m, coding.length? a = some k ∧ coding.length? b = some m ∧ k + m = n := by
  cases coding with
  | gsm7 => simp only [length?, String.toList_append, septetLength?_append_eq_some_iff]
  | unicode => simp [length?, Units.ofChars]

theorem ofText_append_eq_gsm7_iff {a b : String} :
    (ofText (a ++ b)).result = .ok gsm7 ↔
      (ofText a).result = .ok gsm7 ∧ (ofText b).result = .ok gsm7 := by
  simp only [ofText_eq_gsm7_iff, encode, Septets.exists_encode_iff, String.toList_append,
    List.forall_mem_append]

/-- **Bodies are put together, refusals included.** If the first text is refused, the whole is, with
the same error. If only the second is, the whole is refused for the same character, whose place
counts the characters of the first too. Otherwise the octets of the whole are those of the parts.
The length of the whole is the sum of the lengths, if both texts have one, and septets are chosen
for the whole if and only if they are for both parts. -/
theorem encode_append_cases (coding : Coding) (a b : String) :
    (∀ e, coding.encode a = .error e → coding.encode (a ++ b) = .error e) ∧
    (∀ bytes e, coding.encode a = .ok bytes → coding.encode b = .error e →
      ∃ c position, e = .unrepresentable c position ∧
        coding.encode (a ++ b) = .error (.unrepresentable c (position + a.toList.length))) ∧
    (∀ bytes more, coding.encode a = .ok bytes → coding.encode b = .ok more →
      coding.encode (a ++ b) = .ok (bytes ++ more)) ∧
    (∀ n, coding.length? (a ++ b) = some n ↔
      ∃ k m, coding.length? a = some k ∧ coding.length? b = some m ∧ k + m = n) ∧
    ((ofText (a ++ b)).result = .ok gsm7 ↔
      (ofText a).result = .ok gsm7 ∧ (ofText b).result = .ok gsm7) := by
  refine ⟨fun e ha => ?_, fun bytes e ha hb => ?_, fun bytes more ha hb => ?_,
    fun n => length?_append_eq_some_iff, ofText_append_eq_gsm7_iff⟩
  · rw [encode_append, ha]
    rfl
  · obtain ⟨c, position, rfl⟩ := exists_unrepresentable_of_encode hb
    refine ⟨c, position, rfl, ?_⟩
    rw [encode_append, ha, hb]
    rfl
  · rw [encode_append, ha, hb]
    rfl

/-- The place of a refused character counts the two characters of the first text, which take three
septets. -/
theorem encode_append_cases_foreign :
    gsm7.encode "a€" = .ok [0x61, 0x1B, 0x65] ∧
    gsm7.encode "bç" = .error (.unrepresentable 'ç' 1) ∧
    (∃ c position, Error.unrepresentable 'ç' 1 = .unrepresentable c position ∧
      gsm7.encode ("a€" ++ "bç") = .error (.unrepresentable c (position + 2))) ∧
    gsm7.encode ("bç" ++ "a€") = .error (.unrepresentable 'ç' 1) ∧
    gsm7.encode ("a€" ++ "a€") = .ok ([0x61, 0x1B, 0x65] ++ [0x61, 0x1B, 0x65]) := by
  have written : gsm7.encode "a€" = .ok [0x61, 0x1B, 0x65] := by decide +kernel
  have refused : gsm7.encode "bç" = .error (.unrepresentable 'ç' 1) := by decide +kernel
  exact ⟨written, refused, (encode_append_cases gsm7 "a€" "bç").2.1 _ _ written refused,
    (encode_append_cases gsm7 "bç" "a€").1 _ refused,
    (encode_append_cases gsm7 "a€" "a€").2.2.1 _ _ written written⟩

end Coding

end ShortMessage
