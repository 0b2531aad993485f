import Mathlib.Algebra.Order.Floor.Div
import ShortMessage.Proofs.Body.Length

/-!
# What a body costs

Septets are chosen whenever a text can be written in them, though a text may then have more septets
than it would have units. The choice is never the dearer one: a character of the alphabet takes at
most two septets for its one unit, and each segment has room for more than twice as many septets as
units.

* `Coding.room` is the room in some segments; by `Coding.segments_le_iff` a body takes the least
  number of segments with enough room.
* `Coding.length?_of_sublist` says that a text without some of its characters is not longer.
* `Coding.cost_le_of_ofText` compares the chosen coding with any other that the text has a length
  in.
* `Coding.encodeBody_cheapest` says that the chosen coding takes the fewest octets and segments.
-/

namespace ShortMessage

namespace Units

theorem length_ofChar_pos (c : Char) : 0 < (ofChar c).length := by
  simp only [ofChar]
  split <;> exact Nat.zero_lt_succ _

end Units

namespace Coding

variable {coding other : Coding} {text a b : String} {c : Char} {cs ds : List Char} {k m n : ℕ}

/-! ### Segments -/

/-- The room in a message of some segments, in septets or units. -/
def room (coding : Coding) (segments : ℕ) : ℕ :=
  if segments = 1 then coding.singleRoom else segments * coding.segmentRoom

theorem segments_eq_ceilDiv (coding : Coding) (n : ℕ) :
    coding.segments n = if n ≤ coding.singleRoom then 1 else n ⌈/⌉ coding.segmentRoom :=
  rfl

theorem segmentRoom_pos (coding : Coding) : 0 < coding.segmentRoom := by
  cases coding <;> decide

/-- A body takes at most so many segments if and only if they have room for it. -/
theorem segments_le_iff (pos : 0 < k) : coding.segments n ≤ k ↔ n ≤ coding.room k := by
  -- what is too long for one segment is too long for the smaller room of one of several
  have smaller : coding.segmentRoom ≤ coding.singleRoom := by cases coding <;> decide
  have larger : coding.singleRoom ≤ 2 * coding.segmentRoom := by cases coding <;> decide
  rw [segments_eq_ceilDiv, room]
  by_cases single : n ≤ coding.singleRoom
  · rw [if_pos single]
    by_cases one : k = 1
    · simp [one, single]
    · have several : 2 * coding.segmentRoom ≤ k * coding.segmentRoom :=
        Nat.mul_le_mul_right _ (by omega)
      rw [if_neg one]
      exact iff_of_true pos (by omega)
  · rw [if_neg single, ceilDiv_le_iff_le_mul coding.segmentRoom_pos, Nat.mul_comm]
    by_cases one : k = 1
    · rw [if_pos one, one]
      omega
    · rw [if_neg one]

theorem segments_pos : 0 < coding.segments n := by
  rw [segments_eq_ceilDiv]
  by_cases single : n ≤ coding.singleRoom
  · rw [if_pos single]
    exact Nat.one_pos
  · rw [if_neg single]
    by_contra none
    have empty := (ceilDiv_le_iff_le_mul coding.segmentRoom_pos).1 (Nat.not_lt.1 none)
    omega

theorem segments_mono (h : m ≤ n) : coding.segments m ≤ coding.segments n :=
  (segments_le_iff segments_pos).2 (h.trans ((segments_le_iff segments_pos).1 le_rfl))

/-- The room for septets is at least twice the room for units. -/
theorem two_mul_room_unicode_le (k : ℕ) : 2 * unicode.room k ≤ gsm7.room k := by
  simp only [room, singleRoom, segmentRoom]
  split <;> omega

theorem segments_gsm7_le (h : m ≤ 2 * n) : gsm7.segments m ≤ unicode.segments n := by
  have fits : n ≤ unicode.room (unicode.segments n) := (segments_le_iff segments_pos).1 le_rfl
  have wider := two_mul_room_unicode_le (unicode.segments n)
  exact (segments_le_iff segments_pos).2 (by omega)

/-! ### Lengths -/

/-- A character takes at most two septets for each of its units. -/
theorem septetCount?_le (h : septetCount? c = some n) : n ≤ 2 * (Units.ofChar c).length := by
  have pos := Units.length_ofChar_pos c
  unfold septetCount? at h
  split at h
  · cases h
    omega
  split at h <;> cases h
  omega

theorem septetLength?_le (h : septetLength? cs = some n) : n ≤ 2 * (Units.ofChars cs).length := by
  induction cs generalizing n with
  | nil =>
    cases h
    exact Nat.zero_le _
  | cons c cs ih =>
    obtain ⟨k, m, hk, hm, rfl⟩ := septetLength?_cons_eq_some_iff.1 h
    have first := septetCount?_le hk
    have others := ih hm
    rw [Units.ofChars, List.flatMap_cons, List.length_append]
    rw [Units.ofChars] at others
    omega

theorem septetLength?_of_sublist (sub : cs.Sublist ds) (h : septetLength? ds = some n) :
    ∃ m ≤ n, septetLength? cs = some m := by
  induction sub generalizing n with
  | slnil => exact ⟨n, le_rfl, h⟩
  | cons d sub ih =>
    obtain ⟨k, more, -, hmore, rfl⟩ := septetLength?_cons_eq_some_iff.1 h
    obtain ⟨m, le, hm⟩ := ih hmore
    exact ⟨m, by omega, hm⟩
  | cons_cons d sub ih =>
    obtain ⟨k, more, hk, hmore, rfl⟩ := septetLength?_cons_eq_some_iff.1 h
    obtain ⟨m, le, hm⟩ := ih hmore
    exact ⟨k + m, by omega, septetLength?_cons_eq_some_iff.2 ⟨k, m, hk, hm, rfl⟩⟩

/-- Without some of its characters a text has a length where it has one with them, and no larger
one. -/
theorem length?_of_sublist (sub : a.toList.Sublist b.toList) (h : coding.length? b = some n) :
    ∃ m ≤ n, coding.length? a = some m := by
  cases coding with
  | gsm7 => exact septetLength?_of_sublist sub h
  | unicode =>
    cases h
    exact ⟨_, (sub.flatMap _).length_le, rfl⟩

/-! ### The chosen coding -/

/-- Besides the chosen coding a text has a length only in units, and then septets are chosen. -/
theorem eq_or_of_ofText (chosen : (ofText text).result = .ok coding)
    (h : other.length? text = some m) : other = coding ∨ coding = gsm7 ∧ other = unicode := by
  cases other with
  | unicode => cases coding <;> simp
  | gsm7 =>
    obtain ⟨bytes, written, -⟩ := length?_eq_some_iff.1 h
    have septets := ofText_eq_gsm7_iff.2 ⟨bytes, written⟩
    exact .inl (Except.ok.inj (septets.symm.trans chosen))

/-- The chosen coding is no dearer than any other that the text has a length in. -/
theorem cost_le_of_ofText (chosen : (ofText text).result = .ok coding)
    (hn : coding.length? text = some n) (hm : other.length? text = some m) :
    coding.width * n ≤ other.width * m ∧ coding.segments n ≤ other.segments m := by
  rcases eq_or_of_ofText chosen hm with rfl | ⟨rfl, rfl⟩
  · cases hn.symm.trans hm
    exact ⟨le_rfl, le_rfl⟩
  · cases hm
    have twice : n ≤ 2 * (Units.ofChars text.toList).length := septetLength?_le hn
    exact ⟨by simpa [width] using twice, segments_gsm7_le twice⟩

/-- **The chosen coding is the cheapest.** A body is always written, and no coding in which its text
can be written takes fewer octets or fewer segments. -/
theorem encodeBody_cheapest (text : String) :
    ∃ coding bytes n, (encodeBody text).result = .ok (coding, bytes) ∧
      coding.length? text = some n ∧
      ∀ (other : Coding) written, other.encode text = .ok written →
        ∃ m, other.length? text = some m ∧ bytes.length ≤ written.length ∧
          coding.segments n ≤ other.segments m := by
  obtain ⟨⟨coding, bytes⟩, body⟩ := exists_encodeBody text
  obtain ⟨chosen, encoded⟩ := encodeBody_result_iff.1 body
  obtain ⟨n, hn, octets⟩ := exists_length?_of_encode encoded
  refine ⟨coding, bytes, n, body, hn, fun other written h => ?_⟩
  obtain ⟨m, hm, others⟩ := exists_length?_of_encode h
  obtain ⟨width, segments⟩ := cost_le_of_ofText chosen hn hm
  exact ⟨m, hm, by omega, segments⟩

/-- A text of extension characters alone takes as many octets in septets as in units. -/
theorem encodeBody_cheapest_extension :
    unicode.encode "[€]" = .ok [0x00, 0x5B, 0x20, 0xAC, 0x00, 0x5D] ∧
    ∃ bytes, (encodeBody "[€]").result = .ok (gsm7, bytes) ∧
      bytes = [0x1B, 0x3C, 0x1B, 0x65, 0x1B, 0x3E] ∧ gsm7.length? "[€]" = some 6 ∧
      ∃ m, unicode.length? "[€]" = some m ∧ bytes.length ≤ 6 ∧
        gsm7.segments 6 ≤ unicode.segments m := by
  have units : unicode.encode "[€]" = .ok [0x00, 0x5B, 0x20, 0xAC, 0x00, 0x5D] := by
    decide +kernel
  have septets : (encodeBody "[€]").result =
      .ok (gsm7, [0x1B, 0x3C, 0x1B, 0x65, 0x1B, 0x3E]) := by
    decide +kernel
  have length : gsm7.length? "[€]" = some 6 := by decide +kernel
  obtain ⟨coding, bytes, n, body, hn, cheapest⟩ := encodeBody_cheapest "[€]"
  cases body.symm.trans septets
  cases hn.symm.trans length
  exact ⟨units, _, septets, rfl, length, cheapest unicode _ units⟩

end Coding

end ShortMessage
