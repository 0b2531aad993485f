import ShortMessage.Proofs.Body.Cost
import ShortMessage.Proofs.Envelope.Address

/-!
# Messages of one segment

An envelope does not keep the text of its message, so whether the body has room in one segment is
told from its octets. They tell it exactly, and a message that fits still fits when characters are
deleted from its text, even if what is left is written in the other coding.

* `Envelope.Carries` relates the envelopes of a text to it, whatever the addresses.
* `Envelope.Carries.length?_eq` says that the octets give the length of the text.
* `Envelope.fitsSingleSegment_shortened` says which messages fit, and that shorter ones do.
-/

namespace ShortMessage

theorem Coding.width_pos (coding : Coding) : 0 < coding.width := by
  cases coding <;> decide

namespace Envelope

variable {e f : Envelope} {text a b : String}

/-- The envelope was made for a message with this text. -/
def Carries (e : Envelope) (text : String) : Prop :=
  ∃ c sender receivers, (address c sender receivers text).result = .ok e

theorem length_eq_div (e : Envelope) : e.length = e.payload.length / e.coding.width := by
  unfold length
  cases e.coding with
  | gsm7 => exact (Nat.div_one _).symm
  | unicode => rfl

namespace Carries

theorem ofText (h : e.Carries text) : (Coding.ofText text).result = .ok e.coding := by
  obtain ⟨c, sender, receivers, addressed⟩ := h
  exact (encodeBody_result_iff.1 (address_result_eq_ok_iff.1 addressed).2.2).1

theorem encode (h : e.Carries text) : e.coding.encode text = .ok e.payload := by
  obtain ⟨c, sender, receivers, addressed⟩ := h
  exact (encodeBody_result_iff.1 (address_result_eq_ok_iff.1 addressed).2.2).2

/-- The octets of an envelope give the length of its text, and halving them leaves none over. -/
theorem length?_eq (h : e.Carries text) : e.coding.length? text = some e.length := by
  obtain ⟨n, hn, octets⟩ := Coding.exists_length?_of_encode h.encode
  rw [hn, length_eq_div, octets, Nat.mul_div_cancel_left _ e.coding.width_pos]

end Carries

theorem fitsSingleSegment_iff_length_le :
    e.fitsSingleSegment = true ↔ e.length ≤ e.coding.singleRoom := by
  rw [fitsSingleSegment, decide_eq_true_eq]

/-- A body fits if and only if it takes at most one segment. -/
theorem fitsSingleSegment_iff_segments_le :
    e.fitsSingleSegment = true ↔ e.coding.segments e.length ≤ 1 := by
  rw [fitsSingleSegment_iff_length_le, Coding.segments_le_iff Nat.one_pos]
  rfl

/-- An envelope of a text without some of its characters takes no more segments. -/
theorem segments_le_of_sublist (sub : a.toList.Sublist b.toList) (ha : e.Carries a)
    (hb : f.Carries b) : e.coding.segments e.length ≤ f.coding.segments f.length := by
  -- the rest is not longer in the coding of the whole, and its own coding is no dearer than that
  obtain ⟨m, le, hm⟩ := Coding.length?_of_sublist sub hb.length?_eq
  calc e.coding.segments e.length
      ≤ f.coding.segments m := (Coding.cost_le_of_ofText ha.ofText ha.length?_eq hm).2
    _ ≤ f.coding.segments f.length := Coding.segments_mono le

/-- **Whether a message fits one segment is exact and outlasts shortening.** An envelope says that
it fits if and only if its text is not longer in its coding than one segment has room for. If the
message of a text fits, so does every message of that text with some characters deleted. -/
theorem fitsSingleSegment_shortened :
    (∀ (text : String) (e : Envelope), e.Carries text →
      ∃ n, e.coding.length? text = some n ∧
        (e.fitsSingleSegment = true ↔ n ≤ e.coding.singleRoom)) ∧
    ∀ (a b : String) (e f : Envelope), a.toList.Sublist b.toList → e.Carries a → f.Carries b →
      f.fitsSingleSegment = true → e.fitsSingleSegment = true := by
  constructor
  · intro text e carries
    exact ⟨e.length, carries.length?_eq, fitsSingleSegment_iff_length_le⟩
  · intro a b e f sub ha hb fits
    rw [fitsSingleSegment_iff_segments_le] at fits ⊢
    exact (segments_le_of_sublist sub ha hb).trans fits

/-- Without its first character the text is written in the other coding, and is longer in it. -/
theorem fitsSingleSegment_shortened_euro :
    ∃ e f : Envelope,
      (address Config.standard (some (.ofString "ACME")) [] "€€").result = .ok e ∧
      (address { Config.standard with defaultFrom := some .empty } none [.ofString "+33618160160"]
        "ç€€").result = .ok f ∧
      "€€".toList.Sublist "ç€€".toList ∧ (e.coding, e.length) = (.gsm7, 4) ∧
      (f.coding, f.length) = (.unicode, 3) ∧ f.fitsSingleSegment = true ∧
      (∃ n, f.coding.length? "ç€€" = some n ∧
        (f.fitsSingleSegment = true ↔ n ≤ f.coding.singleRoom)) ∧ e.fitsSingleSegment = true := by
  have ha : (address Config.standard (some (.ofString "ACME")) [] "€€").result =
      .ok ⟨⟨some "ACME", .alphanumeric, .unknown⟩, [], .gsm7, [0x1B, 0x65, 0x1B, 0x65]⟩ := by
    decide +kernel
  have hb : (address { Config.standard with defaultFrom := some .empty } none
      [.ofString "+33618160160"] "ç€€").result =
      .ok ⟨.unaddressed, [⟨some "+33618160160", .international, .isdnTelephone⟩], .unicode,
        [0x00, 0xE7, 0x20, 0xAC, 0x20, 0xAC]⟩ := by
    decide +kernel
  have shorter : "€€".toList.Sublist "ç€€".toList := List.sublist_cons_self _ _
  exact ⟨_, _, ha, hb, shorter, rfl, rfl, rfl,
    fitsSingleSegment_shortened.1 _ _ ⟨_, _, _, hb⟩,
    fitsSingleSegment_shortened.2 _ _ _ _ shorter ⟨_, _, _, ha⟩ ⟨_, _, _, hb⟩ rfl⟩

end Envelope

end ShortMessage
