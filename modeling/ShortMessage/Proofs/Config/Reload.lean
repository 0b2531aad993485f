import ShortMessage.Config.Document
import ShortMessage.Proofs.Rules.Document

/-!
# Writing a configuration and reading it back

A document keeps everything of a configuration but one distinction: a default phone without a number
is written as a null, like an absent one, and a null is read as absent.

* `Config.documented` is a configuration as its document keeps it.
* `Config.ofJson_toJson` reads a written configuration.
* `Config.reload_result` says what comes of writing a configuration and loading it again.
-/

namespace ShortMessage.Config

open Json

/-- A default phone as a document keeps it: without a number it is absent. -/
def documentedPhone (phone : Option Phone) : Option Phone :=
  if phone = some .empty then none else phone

/-- A configuration as its document keeps it. -/
def documented (c : Config) : Config :=
  { c with
    defaultFrom := documentedPhone c.defaultFrom
    defaultTo := documentedPhone c.defaultTo }

theorem documentedPhone_eq_map (phone : Option Phone) :
    documentedPhone phone = (phone.bind Phone.number).map Phone.ofString := by
  rcases phone with _ | ⟨_ | number⟩ <;> rfl

theorem documentedPhone_eq_self_iff {phone : Option Phone} :
    documentedPhone phone = phone ↔ phone ≠ some .empty := by
  rcases phone with _ | ⟨_ | number⟩ <;> simp [documentedPhone, Phone.empty]

theorem documented_eq_self_iff {c : Config} :
    c.documented = c ↔ c.defaultFrom ≠ some .empty ∧ c.defaultTo ≠ some .empty := by
  rw [← documentedPhone_eq_self_iff, ← documentedPhone_eq_self_iff]
  constructor
  · intro h
    exact ⟨congrArg defaultFrom h, congrArg defaultTo h⟩
  · rintro ⟨hf, ht⟩
    rw [documented, hf, ht]

/-- The members that a configuration is written as. -/
def writtenMembers (c : Config) : List (Record.WrittenMember Config) :=
  [⟨"sender", c.sender.write, fun x => { x with sender := c.sender }⟩,
    ⟨"recipient", c.recipient.write, fun x => { x with recipient := c.recipient }⟩,
    ⟨"default_from", writeDefault c.defaultFrom,
      fun x => { x with defaultFrom := documentedPhone c.defaultFrom }⟩,
    ⟨"default_to", writeDefault c.defaultTo,
      fun x => { x with defaultTo := documentedPhone c.defaultTo }⟩]

theorem writes_writtenMembers (c : Config) : ∀ m ∈ c.writtenMembers, record.Writes m := by
  simp only [writtenMembers, List.forall_mem_cons, List.not_mem_nil, false_implies, implies_true,
    and_true]
  refine ⟨⟨_, rfl, fun rest _ => ?_⟩, ⟨_, rfl, fun rest _ => ?_⟩, ⟨_, rfl, fun rest _ => ?_⟩,
    ⟨_, rfl, fun rest _ => ?_⟩⟩
  · simp [Reader.map, Rules.overrides_write]
  · simp [Reader.map, Rules.overrides_write]
  · simp [Reader.map, writeDefault, optional_string_writeOptional, documentedPhone_eq_map]
  · simp [Reader.map, writeDefault, optional_string_writeOptional, documentedPhone_eq_map]

/-- **A written configuration is read back** as its document keeps it. -/
theorem ofJson_toJson (c : Config) : ofJson c.toJson = .ok c.documented := by
  have distinct : (c.writtenMembers.map Record.WrittenMember.name).Nodup := by
    simp [writtenMembers]
  have read : record.reader.run (c.write ++ []) = .ok (c.documented, []) :=
    Record.ofObject_written (writes_writtenMembers c) distinct rfl []
  have written : c.toJson.toList = c.write ++ [] := by
    rw [List.append_nil]
    exact String.toList_ofList
  rw [ofJson, Reader.readAll, written, read]
  rfl

theorem load_result_of_ofJson {text : String} {c : Config} (h : ofJson text = .ok c) :
    (load text).result = c.validate.map fun _ => c := by
  rw [load, h]
  show (Attempt.ofExcept c.validate >>= fun _ => _).result = _
  cases c.validate <;> rfl

/-- A document is loaded if it can be read and its rules are sound. -/
theorem load_result_eq_ok_iff {text : String} {c : Config} :
    (load text).result = .ok c ↔ ofJson text = .ok c ∧ c.validate = .ok () := by
  cases read : ofJson text with
  | error fault =>
    have refused : (load text).result = .error (.badDocument fault) := by
      rw [load, read]
      rfl
    rw [refused]
    constructor
    · intro h
      cases h
    · rintro ⟨h, -⟩
      cases h
  | ok d =>
    rw [load_result_of_ofJson read]
    constructor
    · intro h
      cases hv : d.validate with
      | error e =>
        rw [hv] at h
        cases h
      | ok u =>
        rw [hv] at h
        cases h
        exact ⟨rfl, hv⟩
    · rintro ⟨same, valid⟩
      cases same
      rw [valid]
      rfl

theorem validate_eq_ok_iff {c : Config} :
    c.validate = .ok () ↔ c.sender.validate = .ok () ∧ c.recipient.validate = .ok () := by
  rw [validate]
  cases c.sender.validate <;> simp [bind, Except.bind]

/-- Rules are refused for one reason only. -/
theorem validate_eq_error {c : Config} {e : Error} (h : c.validate = .error e) :
    e = .deadShortCodeRule := by
  have refused : ∀ r : Rules, ∀ e, r.validate = .error e → e = .deadShortCodeRule := by
    intro r e
    rw [Rules.validate]
    split
    · exact fun h => nomatch h
    · exact fun h => (Except.error.inj h).symm
  rw [validate] at h
  cases hs : c.sender.validate with
  | error d =>
    rw [hs] at h
    cases h
    exact refused _ _ hs
  | ok u =>
    rw [hs] at h
    exact refused _ _ h

/-- What comes of reloading is decided by the rules alone. -/
theorem reload_result_eq_map (c : Config) :
    c.reload.result = c.validate.map fun _ => c.documented :=
  load_result_of_ofJson c.ofJson_toJson

/-- **Reloading keeps a valid configuration but for defaults without a number.** It fails if and
only if the configuration is not valid, and then because of its rules; otherwise it gives the
configuration where a default phone without a number is absent. So it gives the configuration itself
if and only if there is no such phone. -/
theorem reload_result (c : Config) :
    (∀ e, c.reload.result = .error e ↔ c.validate = .error e ∧ e = .deadShortCodeRule) ∧
    (∀ c', c.reload.result = .ok c' ↔ c.validate = .ok () ∧ c' = c.documented) ∧
    (c.reload.result = .ok c ↔
      c.validate = .ok () ∧ c.defaultFrom ≠ some .empty ∧ c.defaultTo ≠ some .empty) := by
  rw [reload_result_eq_map, ← documented_eq_self_iff]
  cases hv : c.validate with
  | error d =>
    have := validate_eq_error hv
    subst this
    simp [Except.map, eq_comm]
  | ok u => simp [Except.map, eq_comm]

end ShortMessage.Config
