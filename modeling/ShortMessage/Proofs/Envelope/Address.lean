import ShortMessage.Envelope
import ShortMessage.Proofs.Body.Septets
import ShortMessage.Proofs.Classification

/-!
# When a message can be addressed, and as what

The only thing that can be missing from a message is its sender. Everything after the sender is
total: each phone has an address, and each text can be written in the coding that is chosen for it.

* `Envelope.Addresses` says what the envelope of a message is, part by part.
* `Envelope.address_result` says that addressing gives this envelope, and fails exactly when neither
  the message nor the configuration names a sender.
-/

namespace ShortMessage

namespace Attempt

variable {α β : Type} {f : α → Attempt β}

/-- A list of attempts ends well if and only if each of them does, with their values in order. -/
theorem result_mapM_eq_ok_iff {as : List α} {bs : List β} :
    (as.mapM f).result = .ok bs ↔ List.Forall₂ (fun a b => (f a).result = .ok b) as bs := by
  induction as generalizing bs with
  | nil => cases bs <;> simp
  | cons a as ih =>
    simp only [List.mapM_cons, result_bind_eq_ok_iff, List.forall₂_cons_left_iff, ih]
    constructor
    · rintro ⟨b, hb, more, hmore, h⟩
      cases h
      exact ⟨b, more, hb, hmore, rfl⟩
    · rintro ⟨b, more, hb, hmore, rfl⟩
      exact ⟨b, hb, more, hmore, rfl⟩

end Attempt

namespace Envelope

/-- The envelope of a message. The sender that is given comes before the default one, even if it
holds no number, and the default recipient stands in only for an empty list. -/
structure Addresses (c : Config) (sender : Option Phone) (receivers : List Phone) (text : String)
    (e : Envelope) : Prop where
  source : ∃ phone, (sender = some phone ∨ sender = none ∧ c.defaultFrom = some phone) ∧
    (c.sender.classify (some phone)).result = .ok e.source
  destinations : ∃ phones, (receivers ≠ [] ∧ phones = receivers ∨
      receivers = [] ∧ phones = c.defaultTo.toList) ∧
    List.Forall₂ (fun phone a => (c.recipient.classify (some phone)).result = .ok a) phones
      e.destinations
  coding : (Coding.ofText text).result = .ok e.coding
  payload : e.coding.encode text = .ok e.payload

theorem eq_recipients_iff {c : Config} {receivers phones : List Phone} :
    phones = recipients c receivers ↔ receivers ≠ [] ∧ phones = receivers ∨
      receivers = [] ∧ phones = c.defaultTo.toList := by
  cases receivers <;> simp [recipients]

section

variable {c : Config} {sender : Option Phone} {receivers : List Phone} {text : String}

/-- Addressing is the sender, the recipients and the body, one after another. -/
theorem address_result_eq_ok_iff {e : Envelope} :
    (address c sender receivers text).result = .ok e ↔
      (c.sender.classify (sender <|> c.defaultFrom)).result = .ok e.source ∧
      List.Forall₂ (fun phone a => (c.recipient.classify (some phone)).result = .ok a)
        (recipients c receivers) e.destinations ∧
      (encodeBody text).result = .ok (e.coding, e.payload) := by
  simp only [address, Attempt.result_bind_eq_ok_iff, Attempt.result_mapM_eq_ok_iff]
  constructor
  · rintro ⟨source, hs, destinations, hd, body, hb, -, -, h⟩
    cases h
    exact ⟨hs, hd, hb⟩
  · rintro ⟨hs, hd, hb⟩
    exact ⟨_, hs, _, hd, _, hb, (), rfl, rfl⟩

/-- Without a sender a message is refused. -/
theorem address_result_of_none (h : (sender <|> c.defaultFrom) = none) :
    (address c sender receivers text).result = .error .missingPhone := by
  rw [address, h]
  rfl

/-- With a sender a message has an envelope. -/
theorem exists_address_of_some {phone : Phone} (h : (sender <|> c.defaultFrom) = some phone) :
    ∃ e, (address c sender receivers text).result = .ok e := by
  obtain ⟨source, hs⟩ := c.sender.exists_classify_some phone
  choose a ha using c.recipient.exists_classify_some
  obtain ⟨⟨coding, payload⟩, hb⟩ := exists_encodeBody text
  refine ⟨⟨source, (recipients c receivers).map a, coding, payload⟩, ?_⟩
  rw [address_result_eq_ok_iff, h, List.forall₂_map_right_iff, List.forall₂_same]
  exact ⟨hs, fun phone _ => ha phone, hb⟩

theorem address_result_eq_error_iff {error : Error} :
    (address c sender receivers text).result = .error error ↔
      (sender <|> c.defaultFrom) = none ∧ error = .missingPhone := by
  rcases h : (sender <|> c.defaultFrom) with _ | phone
  · simp [address_result_of_none h, eq_comm]
  · have addressed : ∃ e, (address c sender receivers text).result = .ok e :=
      exists_address_of_some h
    obtain ⟨e, he⟩ := addressed
    simp [he]

theorem addresses_iff {e : Envelope} :
    Addresses c sender receivers text e ↔ (address c sender receivers text).result = .ok e := by
  have given : ∀ phone, (sender <|> c.defaultFrom) = some phone ↔
      sender = some phone ∨ sender = none ∧ c.defaultFrom = some phone := by
    intro phone
    cases sender <;> simp
  have source : (c.sender.classify (sender <|> c.defaultFrom)).result = .ok e.source ↔
      ∃ phone, (sender <|> c.defaultFrom) = some phone ∧
        (c.sender.classify (some phone)).result = .ok e.source := by
    cases (sender <|> c.defaultFrom) <;> simp
  rw [address_result_eq_ok_iff, encodeBody_result_iff, source]
  constructor
  · rintro ⟨⟨phone, hp, hs⟩, ⟨phones, hphones, hd⟩, hc, hb⟩
    rw [← eq_recipients_iff] at hphones
    subst hphones
    exact ⟨⟨phone, (given phone).2 hp, hs⟩, hd, hc, hb⟩
  · rintro ⟨⟨phone, hp, hs⟩, hd, hc, hb⟩
    exact ⟨⟨phone, (given phone).1 hp, hs⟩, ⟨_, eq_recipients_iff.1 rfl, hd⟩, hc, hb⟩

end

/-- **A message is refused only for want of a sender.** It fails if and only if neither the message
nor the configuration names one, and then for that reason; otherwise it has an envelope, whose parts
are those of the message. -/
theorem address_result (c : Config) (sender : Option Phone) (receivers : List Phone)
    (text : String) :
    (∀ error, (address c sender receivers text).result = .error error ↔
      sender = none ∧ c.defaultFrom = none ∧ error = .missingPhone) ∧
    ((∃ e, (address c sender receivers text).result = .ok e) ↔
      sender ≠ none ∨ c.defaultFrom ≠ none) ∧
    ∀ e, (address c sender receivers text).result = .ok e ↔
      Addresses c sender receivers text e := by
  have absent : (sender <|> c.defaultFrom) = none ↔ sender = none ∧ c.defaultFrom = none := by
    cases sender <;> simp
  refine ⟨fun error => ?_, ?_, fun e => addresses_iff.symm⟩
  · rw [address_result_eq_error_iff, absent, and_assoc]
  · rw [← not_and_or, ← absent]
    constructor
    · rintro ⟨e, he⟩ missing
      rw [address_result_of_none missing] at he
      cases he
    · intro h
      obtain ⟨phone, hp⟩ := Option.ne_none_iff_exists'.1 h
      exact exists_address_of_some hp

end Envelope

end ShortMessage
