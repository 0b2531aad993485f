import ShortMessage.Proofs.Body.Stream
import ShortMessage.Proofs.Event

/-!
# The character that rules out septets

Writing in septets and the choice of a coding both go through a text until they meet a character
that is not in the alphabet. Writing counts the characters before it; the choice only reports it.
They stop at the same character.

* `IsFirstForeign` says which character that is, and at which place.
* `Septets.encodeFrom_eq_error_iff` and `find?_eq_some_iff_isFirstForeign` say that writing and
  searching stop at it.
* `Coding.encode_gsm7_refused` says when a text cannot be written in septets, and what is reported.
-/

namespace ShortMessage

/-- The first character of a text that is not in the alphabet, and how many stand before it. -/
structure IsFirstForeign (cs : List Char) (c : Char) (position : ℕ) : Prop where
  here : cs[position]? = some c
  foreign : Alphabet.contains c = false
  before : ∀ i < position, ∀ d, cs[i]? = some d → Alphabet.contains d = true

namespace IsFirstForeign

variable {c d : Char} {cs : List Char} {position : ℕ}

theorem nil : ¬ IsFirstForeign [] d position := by
  rintro ⟨here, -, -⟩
  cases here

theorem cons_zero_iff : IsFirstForeign (c :: cs) d 0 ↔ d = c ∧ Alphabet.contains c = false := by
  constructor
  · rintro ⟨here, foreign, -⟩
    cases here
    exact ⟨rfl, foreign⟩
  · rintro ⟨rfl, foreign⟩
    exact ⟨rfl, foreign, nofun⟩

theorem cons_succ_iff : IsFirstForeign (c :: cs) d (position + 1) ↔
    Alphabet.contains c = true ∧ IsFirstForeign cs d position := by
  constructor
  · rintro ⟨here, foreign, before⟩
    refine ⟨before 0 (by omega) c rfl, here, foreign, ?_⟩
    intro i hi
    exact before (i + 1) (by omega)
  · rintro ⟨first, here, foreign, before⟩
    refine ⟨here, foreign, ?_⟩
    rintro (_ | i) hi e he
    · cases he
      exact first
    · exact before i (by omega) e he

/-- Either the first character is the one, or it is in the alphabet and the one comes later. -/
theorem cons_iff : (∃ position, IsFirstForeign (c :: cs) d position) ↔
    (d = c ∧ Alphabet.contains c = false) ∨
      (Alphabet.contains c = true ∧ ∃ position, IsFirstForeign cs d position) := by
  constructor
  · rintro ⟨_ | position, h⟩
    · exact .inl (cons_zero_iff.1 h)
    · obtain ⟨first, later⟩ := cons_succ_iff.1 h
      exact .inr ⟨first, position, later⟩
  · rintro (h | ⟨first, position, later⟩)
    · exact ⟨0, cons_zero_iff.2 h⟩
    · exact ⟨position + 1, cons_succ_iff.2 ⟨first, later⟩⟩

end IsFirstForeign

/-- Searching a text finds the first character that is not in the alphabet. -/
theorem find?_eq_some_iff_isFirstForeign {cs : List Char} {d : Char} :
    cs.find? (fun c => !Alphabet.contains c) = some d ↔
      ∃ position, IsFirstForeign cs d position := by
  induction cs with
  | nil => simp [IsFirstForeign.nil]
  | cons c cs ih =>
    rw [IsFirstForeign.cons_iff, ← ih, List.find?_cons]
    cases Alphabet.contains c <;> simp [eq_comm]

/-- A character is not in the alphabet if it is in neither table. -/
theorem Alphabet.contains_eq_false_iff {c : Char} :
    contains c = false ↔ c ∉ baseTable ∧ ∀ b, (c, b) ∉ extensionTable := by
  have base : isBase c = false ↔ c ∉ baseTable := by
    rw [isBase, List.contains_eq_mem, decide_eq_false_iff_not]
  have extension : isExtension c = false ↔ ∀ b, (c, b) ∉ extensionTable := by
    simp only [isExtension, Option.isSome_eq_false_iff, Option.isNone_iff_eq_none,
      Option.eq_none_iff_forall_ne_some, ne_eq, extension?_eq_some_iff]
  rw [contains, Bool.or_eq_false_iff, base, extension]

namespace Septets

variable {cs : List Char} {start : ℕ} {e : Error}

/-- Writing stops at the first character that is not in the alphabet. -/
theorem encodeFrom_eq_error_iff :
    encodeFrom start cs = .error e ↔
      ∃ c position, e = .unrepresentable c (start + position) ∧ IsFirstForeign cs c position := by
  induction cs generalizing start with
  | nil => simp [encodeFrom, IsFirstForeign.nil]
  | cons c cs ih =>
    have first := isSome_ofChar? c
    -- the character is the one itself, or the one has a place further on in the rest
    have places : (∃ d position, e = .unrepresentable d (start + position) ∧
          IsFirstForeign (c :: cs) d position) ↔
        (e = .unrepresentable c start ∧ Alphabet.contains c = false) ∨
          (Alphabet.contains c = true ∧ ∃ d position,
            e = .unrepresentable d (start + 1 + position) ∧ IsFirstForeign cs d position) := by
      constructor
      · rintro ⟨d, _ | position, he, hd⟩
        · obtain ⟨rfl, foreign⟩ := IsFirstForeign.cons_zero_iff.1 hd
          exact .inl ⟨he, foreign⟩
        · obtain ⟨known, later⟩ := IsFirstForeign.cons_succ_iff.1 hd
          exact .inr ⟨known, d, position, by rw [he, Nat.add_right_comm, Nat.add_assoc], later⟩
      · rintro (⟨he, foreign⟩ | ⟨known, d, position, he, later⟩)
        · exact ⟨c, 0, he, IsFirstForeign.cons_zero_iff.2 ⟨rfl, foreign⟩⟩
        · exact ⟨d, position + 1, by rw [he, Nat.add_right_comm, Nat.add_assoc],
            IsFirstForeign.cons_succ_iff.2 ⟨known, later⟩⟩
    rw [places, ← ih, encodeFrom, ← first]
    cases ofChar? c with
    | none => simp [eq_comm]
    | some octets => cases encodeFrom (start + 1) cs <;> simp

theorem encode_eq_error_iff :
    encode cs = .error e ↔
      ∃ c position, e = .unrepresentable c position ∧ IsFirstForeign cs c position := by
  rw [encode, encodeFrom_eq_error_iff]
  simp only [Nat.zero_add]

end Septets

namespace Coding

/-- UTF-16 units are chosen with a report of the character that is found first. -/
theorem ofText_eq_unicodeNeeded_iff {text : String} {c : Char} :
    ofText text = ⟨.ok .unicode, [.unicodeNeeded c]⟩ ↔
      text.toList.find? (fun d => !Alphabet.contains d) = some c := by
  unfold ofText
  split <;> rename_i found <;> simp [found]

/-- Septets are chosen without a report if no character is found. -/
theorem ofText_eq_silent_iff {text : String} :
    ofText text = ⟨.ok .gsm7, []⟩ ↔
      text.toList.find? (fun d => !Alphabet.contains d) = none := by
  unfold ofText
  split <;> rename_i found <;> simp [found]

/-- **A text is refused exactly, and the choice of the coding reports the same character.** Writing
in septets fails if and only if a character is in neither table; it then names the first such
character and how many characters stand before it. The choice of the coding falls on UTF-16 units
and reports that same character, once, or on septets without a report. The text of the report shows
the character in quotes, which tell it from all others, and its code point in base sixteen. -/
theorem encode_gsm7_refused (text : String) :
    ((∃ e, gsm7.encode text = .error e) ↔
      ∃ c ∈ text.toList, c ∉ Alphabet.baseTable ∧ ∀ b, (c, b) ∉ Alphabet.extensionTable) ∧
    (∀ e, gsm7.encode text = .error e ↔
      ∃ c position, e = .unrepresentable c position ∧
        IsFirstForeign text.toList c position) ∧
    (∀ c, ofText text = ⟨.ok .unicode, [.unicodeNeeded c]⟩ ↔
      ∃ position, gsm7.encode text = .error (.unrepresentable c position)) ∧
    (ofText text = ⟨.ok .gsm7, []⟩ ↔ ∃ bytes, gsm7.encode text = .ok bytes) ∧
    ∀ c, (Event.unicodeNeeded c).level = .debug ∧ ∃ quoted digits : String,
      (Event.unicodeNeeded c).message =
        "Character " ++ quoted ++ " (U+" ++ digits ++ ") needs Unicode encoding" ∧
      Text.Quotes '\'' [c] quoted.toList ∧ (∀ d, Text.Quotes '\'' [d] quoted.toList → d = c) ∧
      Text.IsHex Text.capitalDigits 4 c.toNat digits.toList := by
  have written : (∃ bytes, gsm7.encode text = .ok bytes) ↔
      ∀ c ∈ text.toList, Alphabet.contains c = true := Septets.exists_encode_iff
  have refused : ∀ e, gsm7.encode text = .error e ↔
      ∃ c position, e = .unrepresentable c position ∧ IsFirstForeign text.toList c position :=
    fun e => Septets.encode_eq_error_iff
  refine ⟨?_, refused, fun c => ?_, ?_, fun c => ⟨rfl, ?_⟩⟩
  · have either : (∃ e, gsm7.encode text = .error e) ↔ ¬ ∃ bytes, gsm7.encode text = .ok bytes := by
      cases gsm7.encode text <;> simp
    rw [either, written]
    push Not
    simp only [Bool.not_eq_true, Alphabet.contains_eq_false_iff, ne_eq]
  · rw [ofText_eq_unicodeNeeded_iff, find?_eq_some_iff_isFirstForeign]
    refine exists_congr fun position => ?_
    rw [refused]
    simp
  · rw [ofText_eq_silent_iff, written, List.find?_eq_none]
    simp
  · obtain ⟨quoted, digits, words, shown, code⟩ :=
      Event.exists_of_tells_unicodeNeeded (Event.tells_message _)
    refine ⟨quoted, digits, words, shown, fun d other => ?_, code⟩
    exact List.singleton_inj.1 (other.unique (.inr rfl) shown)

/-- The place is counted in characters: the euro sign before it takes two septets. -/
example : gsm7.encode "€ç" = .error (.unrepresentable 'ç' 1) := by decide +kernel

end Coding

end ShortMessage
