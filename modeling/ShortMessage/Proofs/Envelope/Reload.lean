import ShortMessage.Proofs.Config.Reload
import ShortMessage.Proofs.Envelope.Address

/-!
# Sending with a reloaded configuration

A message does not see that a configuration was written and loaded again, unless it falls back on a
default phone without a number: there the configuration has a sender, or a recipient, and the
reloaded one has none.

* `Envelope.address_reloaded` says which messages see it.
* `Envelope.address_reloaded_differs` is the smallest of them.
-/

namespace ShortMessage.Envelope

open Config (documentedPhone)

variable {c : Config} {sender : Option Phone} {receivers : List Phone} {text : String}

/-- A message sees of the defaults only what stands in for its sender and its recipients. -/
theorem address_congr {d : Config} (hs : d.sender = c.sender) (hr : d.recipient = c.recipient)
    (source : (sender <|> d.defaultFrom) = (sender <|> c.defaultFrom))
    (destinations : recipients d receivers = recipients c receivers) :
    address d sender receivers text = address c sender receivers text := by
  rw [address, address, hs, hr, source, destinations]

/-- The sender is the same, unless it is a default without a number. -/
theorem source_documented_eq_iff :
    (sender <|> c.documented.defaultFrom) = (sender <|> c.defaultFrom) ↔
      (sender = none → c.defaultFrom ≠ some .empty) := by
  cases sender with
  | some phone => simp
  | none => simpa [Config.documented] using Config.documentedPhone_eq_self_iff

/-- The recipients are the same, unless the only one is a default without a number. -/
theorem recipients_documented_eq_iff :
    recipients c.documented receivers = recipients c receivers ↔
      (receivers = [] → c.defaultTo ≠ some .empty) := by
  cases receivers with
  | cons phone receivers => simp [recipients]
  | nil =>
    rw [← Config.documentedPhone_eq_self_iff]
    show (documentedPhone c.defaultTo).toList = c.defaultTo.toList ↔ _
    cases documentedPhone c.defaultTo <;> cases c.defaultTo <;> simp

theorem length_destinations {e : Envelope}
    (h : (address c sender receivers text).result = .ok e) :
    (recipients c receivers).length = e.destinations.length :=
  (address_result_eq_ok_iff.1 h).2.1.length_eq

/-- The document never has more recipients, and if it has as many, they are the same. -/
theorem recipients_documented_eq_of_length
    (h : (recipients c.documented receivers).length = (recipients c receivers).length) :
    recipients c.documented receivers = recipients c receivers := by
  rw [recipients_documented_eq_iff]
  rintro rfl empty
  simp [recipients, Config.documented, documentedPhone, empty] at h

/-- A configuration as its document keeps it gives the same result, unless the message falls back on
a default without a number for its sender, or for its recipients while it has a sender. -/
theorem address_documented_iff :
    (address c.documented sender receivers text).result = (address c sender receivers text).result ↔
      (sender = none → c.defaultFrom ≠ some .empty) ∧
      (receivers = [] → c.defaultTo = some .empty → sender = none ∧ c.defaultFrom = none) := by
  have absent : (sender <|> c.defaultFrom) = none ↔ sender = none ∧ c.defaultFrom = none := by
    cases sender <;> simp
  rw [← source_documented_eq_iff, ← absent]
  by_cases source : (sender <|> c.documented.defaultFrom) = (sender <|> c.defaultFrom)
  · rw [and_iff_right source]
    rcases missing : (sender <|> c.defaultFrom) with _ | phone
    · -- both are refused before the recipients matter
      rw [address_result_of_none missing, address_result_of_none (source.trans missing)]
      simp
    · have kept : (receivers = [] → c.defaultTo = some .empty → some phone = none) ↔
          recipients c.documented receivers = recipients c receivers := by
        rw [recipients_documented_eq_iff]
        simp
      rw [kept]
      constructor
      · intro same
        have addressed : ∃ e, (address c sender receivers text).result = .ok e :=
          exists_address_of_some missing
        obtain ⟨e, he⟩ := addressed
        refine recipients_documented_eq_of_length ?_
        rw [length_destinations he, length_destinations (same.trans he)]
      · intro destinations
        have same : address c.documented sender receivers text = address c sender receivers text :=
          address_congr rfl rfl source destinations
        rw [same]
  · refine iff_of_false ?_ fun h => source h.1
    rw [source_documented_eq_iff] at source
    push Not at source
    obtain ⟨rfl, empty⟩ := source
    -- the configuration has a sender, and its document has none
    have lost : (none <|> c.documented.defaultFrom) = none := by
      rw [Config.documented, documentedPhone, if_pos empty]
      rfl
    have addressed : ∃ e, (address c none receivers text).result = .ok e :=
      exists_address_of_some empty
    obtain ⟨e, he⟩ := addressed
    rw [address_result_of_none lost, he]
    intro h
    cases h

/-- **Reloading shows only through a default without a number.** A valid configuration can be
reloaded, and the reloaded one gives the same result to every message but to one that falls back on
such a default: for its sender, or for its recipients while it has a sender. -/
theorem address_reloaded (c : Config) (valid : c.validate = .ok ()) :
    ∃ reloaded, c.reload.result = .ok reloaded ∧ ∀ sender receivers text,
      (address reloaded sender receivers text).result = (address c sender receivers text).result ↔
        (sender = none → c.defaultFrom ≠ some .empty) ∧
        (receivers = [] → c.defaultTo = some .empty → sender = none ∧ c.defaultFrom = none) := by
  refine ⟨c.documented, ?_, fun sender receivers text => address_documented_iff⟩
  rw [Config.reload_result_eq_map, valid]
  rfl

/-- With a default recipient that holds no number, and a default sender, only the empty list of
recipients shows the reload. -/
theorem address_reloaded_defaultTo :
    ∃ c : Config,
      c = { Config.standard with defaultFrom := some ⟨some "ACME"⟩, defaultTo := some .empty } ∧
      c.validate = .ok () ∧ ∃ reloaded, c.reload.result = .ok reloaded ∧ ∀ receivers text,
        (address reloaded none receivers text).result = (address c none receivers text).result ↔
          receivers ≠ [] := by
  refine ⟨_, rfl, rfl, ?_⟩
  obtain ⟨reloaded, h, same⟩ := address_reloaded
    { Config.standard with defaultFrom := some ⟨some "ACME"⟩, defaultTo := some .empty } rfl
  refine ⟨reloaded, h, fun receivers text => (same none receivers text).trans ?_⟩
  simp [Phone.empty]

/-- A sender that is a default without a number is lost when the configuration is reloaded. -/
theorem address_reloaded_differs :
    ({ Config.standard with defaultFrom := some .empty } : Config).validate = .ok () ∧
    ({ Config.standard with defaultFrom := some .empty } : Config).reload.result =
      .ok Config.standard ∧
    (address { Config.standard with defaultFrom := some .empty } none [] "").result =
      .ok ⟨.unaddressed, [], .gsm7, []⟩ ∧
    (address Config.standard none [] "").result = .error .missingPhone := by
  refine ⟨rfl, ?_, rfl, rfl⟩
  rw [Config.reload_result_eq_map]
  rfl

end ShortMessage.Envelope
