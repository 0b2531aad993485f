import Mathlib.Tactic
import ShortMessage.Body.Encoding

/-!
# Which texts can be written in septets

The coding is chosen with `Alphabet.contains`, which looks a character up among all slots of the
base table; the octets are found with `Alphabet.septet?`, which passes over the slot of the escape.
That slot holds a space, and a space has a slot of its own, so the two agree.

* `isSome_septet?` and `isSome_ofChar?` say so for one character.
* `exists_encode_iff` says which texts can be written, `exists_encodeBody` that every text can be
  written in the coding that is chosen for it.
-/

namespace ShortMessage

namespace Alphabet

/-- Every character of the base table has a slot that is not the one of the escape. -/
theorem isSome_septet?_of_mem : ∀ c ∈ baseTable, (septet? c).isSome = true := by
  have all : baseTable.all (fun c => (septet? c).isSome) = true := by decide +kernel
  exact List.all_eq_true.1 all

theorem isSome_septet? (c : Char) : (septet? c).isSome = isBase c := by
  rw [Bool.eq_iff_iff]
  constructor
  · intro h
    rw [septet?, Option.isSome_map, List.find?_isSome] at h
    obtain ⟨⟨d, i⟩, hmem, hd⟩ := h
    have hdc : d = c := by simp at hd; exact hd.2
    subst hdc
    exact List.elem_eq_true_of_mem (List.fst_mem_of_mem_zipIdx hmem)
  · intro h
    exact isSome_septet?_of_mem c (List.mem_of_elem_eq_true h)

end Alphabet

namespace Septets

theorem isSome_ofChar? (c : Char) : (ofChar? c).isSome = Alphabet.contains c := by
  have base := Alphabet.isSome_septet? c
  rw [ofChar?, Alphabet.contains, Alphabet.isExtension, ← base]
  cases Alphabet.septet? c with
  | none => simp
  | some b => rfl

/-- A text can be written in septets if and only if all its characters are in the alphabet. -/
theorem exists_encodeFrom_iff {cs : List Char} {position : ℕ} :
    (∃ bytes, encodeFrom position cs = .ok bytes) ↔ ∀ c ∈ cs, Alphabet.contains c = true := by
  -- the position matters only to the report of a character that cannot be written
  induction cs generalizing position with
  | nil => simp [encodeFrom]
  | cons c cs ih =>
    have first := isSome_ofChar? c
    rw [List.forall_mem_cons, ← @ih (position + 1), ← first, encodeFrom]
    cases ofChar? c with
    | none => simp
    | some octets => cases encodeFrom (position + 1) cs <;> simp

theorem exists_encode_iff {cs : List Char} :
    (∃ bytes, encode cs = .ok bytes) ↔ ∀ c ∈ cs, Alphabet.contains c = true :=
  exists_encodeFrom_iff

end Septets

namespace Coding

/-- Septets are chosen if and only if all characters of the text are in the alphabet. -/
theorem ofText_result (text : String) :
    (ofText text).result =
      .ok (if text.toList.all Alphabet.contains then gsm7 else unicode) := by
  unfold ofText
  by_cases h : text.toList.all Alphabet.contains = true
  · have none : text.toList.find? (fun c => !Alphabet.contains c) = none :=
      List.find?_eq_none.2 fun c hc => by simp [List.all_eq_true.1 h c hc]
    rw [none, if_pos h]
    rfl
  · rw [if_neg h]
    rw [List.all_eq_true] at h
    push Not at h
    obtain ⟨c, hc, foreign⟩ := h
    cases found : text.toList.find? (fun c => !Alphabet.contains c) with
    | none => simpa [foreign] using List.find?_eq_none.1 found c hc
    | some d => rfl

/-- A text can be written in the coding that is chosen for it. -/
theorem exists_encode_of_ofText {text : String} {coding : Coding}
    (h : (ofText text).result = .ok coding) : ∃ bytes, coding.encode text = .ok bytes := by
  rw [ofText_result] at h
  cases coding with
  | unicode => exact ⟨_, rfl⟩
  | gsm7 =>
    by_cases all : text.toList.all Alphabet.contains = true
    · exact Septets.exists_encode_iff.2 (List.all_eq_true.1 all)
    · rw [if_neg all] at h
      cases h

end Coding

/-- A body is written in the coding that is chosen for its text. -/
theorem encodeBody_result_iff {text : String} {coding : Coding} {bytes : List UInt8} :
    (encodeBody text).result = .ok (coding, bytes) ↔
      (Coding.ofText text).result = .ok coding ∧ coding.encode text = .ok bytes := by
  unfold encodeBody
  simp only [Attempt.result_bind_eq_ok_iff, Attempt.result_ofExcept]
  constructor
  · rintro ⟨chosen, hc, written, hb, -, -, h⟩
    cases h
    exact ⟨hc, hb⟩
  · rintro ⟨hc, hb⟩
    exact ⟨coding, hc, bytes, hb, (), rfl, rfl⟩

/-- **Every text can be written**: the body of a message never fails. -/
theorem exists_encodeBody (text : String) : ∃ body, (encodeBody text).result = .ok body := by
  obtain ⟨bytes, hb⟩ := Coding.exists_encode_of_ofText (Coding.ofText_result text)
  exact ⟨_, encodeBody_result_iff.2 ⟨Coding.ofText_result text, hb⟩⟩

end ShortMessage
