import ShortMessage.Proofs.Config.Acceptance
import ShortMessage.Proofs.Config.Reload
import ShortMessage.Session

/-!
# Configurations that outlast a session

A configuration outlasts being written and loaded again if its rules are sound and no default phone
is without a number. A session that starts with such a configuration goes through such ones only: no
document gives a default phone without a number, so a step that brings one in, or rules that are not
sound, has to be asked for.

* `Config.IsStable` are the configurations that outlast a reload, by `Config.reload_eq_self_iff`.
* `Step.isStable_next` says that a step keeps them, `Session.isStable_run` that a session does.
* `Session.reload_run` says that the configuration of a session can be saved at any time.
-/

namespace ShortMessage

namespace Config

variable {c : Config} {text : String}

/-- The rules are sound and no default phone is without a number. -/
structure IsStable (c : Config) : Prop where
  sender : c.sender.validate = .ok ()
  recipient : c.recipient.validate = .ok ()
  defaultFrom : c.defaultFrom ≠ some .empty
  defaultTo : c.defaultTo ≠ some .empty

theorem isStable_iff : c.IsStable ↔ c.validate = .ok () ∧ c.documented = c := by
  rw [validate_eq_ok_iff, documented_eq_self_iff]
  constructor
  · rintro ⟨sender, recipient, hf, ht⟩
    exact ⟨⟨sender, recipient⟩, hf, ht⟩
  · rintro ⟨⟨sender, recipient⟩, hf, ht⟩
    exact ⟨sender, recipient, hf, ht⟩

theorem reload_eq_self_iff : c.reload.result = .ok c ↔ c.IsStable := by
  rw [isStable_iff, reload_result_eq_map]
  cases c.validate <;> simp [Except.map]

theorem isStable_standard : standard.IsStable :=
  ⟨rfl, rfl, nofun, nofun⟩

theorem map_ofString_ne_empty (number : Option String) :
    number.map Phone.ofString ≠ some .empty := by
  cases number <;> simp [Phone.ofString, Phone.empty]

/-- A number in a document is the text of it, so no default phone is without one. -/
theorem isStable_of_load (h : (load text).result = .ok c) : c.IsStable := by
  obtain ⟨read, valid⟩ := load_result_eq_ok_iff.1 h
  obtain ⟨sender, recipient⟩ := validate_eq_ok_iff.1 valid
  obtain ⟨v, document⟩ := record_takes.exists_document read
  obtain ⟨-, rfl⟩ := (record_takes.readAll_eq_ok_iff document c).1 read
  exact ⟨sender, recipient, map_ofString_ne_empty _, map_ofString_ne_empty _⟩

end Config

namespace Step

/-- A step that brings in neither rules that are not sound nor a default phone without a number. -/
def Keeps : Step → Prop
  | setRules _ rules => rules.validate = .ok ()
  | setDefaultFrom phone | setDefaultTo phone =>
    phone = none ∨ ∃ number, phone = some (Phone.ofString number)
  | _ => True

/-- The configuration after a step, which is as it was if the step failed. -/
def next (c : Config) (step : Step) : Config :=
  match (step.take c).result with
  | .ok (d, _) => d
  | .error _ => c

variable {c d : Config} {step : Step} {reply : Reply}

theorem isStable_of_take (stable : c.IsStable) (keeps : step.Keeps)
    (h : (step.take c).result = .ok (d, reply)) : d.IsStable := by
  obtain ⟨sender, recipient, defaultFrom, defaultTo⟩ := stable
  have given : ∀ {phone : Option Phone},
      phone = none ∨ (∃ number, phone = some (Phone.ofString number)) → phone ≠ some .empty := by
    rintro _ (rfl | ⟨number, rfl⟩) <;> nofun
  cases step with
  | load text | reload =>
    obtain ⟨_, loaded, same⟩ := Attempt.result_map_eq_ok_iff.1 h
    cases same
    exact Config.isStable_of_load loaded
  | reset =>
    cases h
    exact Config.isStable_standard
  | setRules side rules =>
    cases side <;> cases h
    · exact ⟨keeps, recipient, defaultFrom, defaultTo⟩
    · exact ⟨sender, keeps, defaultFrom, defaultTo⟩
  | swap =>
    cases h
    exact ⟨recipient, sender, defaultFrom, defaultTo⟩
  | setDefaultFrom phone =>
    cases h
    exact ⟨sender, recipient, given keeps, defaultTo⟩
  | setDefaultTo phone =>
    cases h
    exact ⟨sender, recipient, defaultFrom, given keeps⟩
  | describe =>
    cases h
    exact ⟨sender, recipient, defaultFrom, defaultTo⟩
  | validate | send _ _ _ | classify _ _ =>
    -- these use the configuration and do not change it
    obtain ⟨_, -, same⟩ := Attempt.result_map_eq_ok_iff.1 h
    cases same
    exact ⟨sender, recipient, defaultFrom, defaultTo⟩

theorem isStable_next (stable : c.IsStable) (keeps : step.Keeps) : (next c step).IsStable := by
  unfold next
  split
  · next h => exact isStable_of_take stable keeps h
  · exact stable

end Step

namespace Session

variable {start : Config} {steps : List Step}

/-- The configuration goes from step to step, past those that fail. -/
theorem config_run (c : Config) (steps : List Step) :
    (run c steps).config = steps.foldl Step.next c := by
  induction steps generalizing c with
  | nil => rfl
  | cons step steps ih =>
    rw [List.foldl_cons, ← ih, run, Step.next]
    rcases step.take c with ⟨e | ⟨d, reply⟩, events⟩ <;> rfl

theorem isStable_run (stable : start.IsStable) (keeps : ∀ step ∈ steps, step.Keeps) :
    (run start steps).config.IsStable := by
  rw [config_run]
  -- what one step keeps is where the rest of the session starts
  induction steps generalizing start with
  | nil => exact stable
  | cons step steps ih =>
    obtain ⟨first, others⟩ := List.forall_mem_cons.1 keeps
    exact ih (Step.isStable_next stable first) others

/-- **The configuration of a session can be saved at any time.** A session that starts with the
ready-made configuration, or with one that was loaded, may take any steps that bring in neither
rules that are not sound nor a default phone without a number. Wherever they lead, the configuration
is valid, and to write it and load it again does not fail and does not change it. -/
theorem reload_run (start : Config) (steps : List Step)
    (begins : start = .standard ∨ ∃ text, (Config.load text).result = .ok start)
    (keeps : ∀ step ∈ steps, step.Keeps) :
    (run start steps).config.validate = .ok () ∧
    (run start steps).config.reload.result = .ok (run start steps).config ∧
    (Step.reload.take (run start steps).config).result =
      .ok (Step.become (run start steps).config) := by
  have stable : start.IsStable := by
    rcases begins with rfl | ⟨text, loaded⟩
    · exact Config.isStable_standard
    · exact Config.isStable_of_load loaded
  have kept := isStable_run stable keeps
  have same := Config.reload_eq_self_iff.2 kept
  exact ⟨(Config.isStable_iff.1 kept).1, same, Attempt.result_map_eq_ok_iff.2 ⟨_, same, rfl⟩⟩

/-- A default phone may hold a number without characters or with a quote, and a document that is
refused leaves the configuration as it was. -/
theorem reload_run_refused :
    ∃ start steps, (Config.load "\x7b\"default_to\": \"42\"\x7d").result = .ok start ∧
      steps = [.setDefaultFrom (some (.ofString "\"\n")), .setRules .sender .disabled, .swap,
        .load "\x7b\"default_from\": null", .setDefaultTo (some (.ofString ""))] ∧
      (∀ step ∈ steps, step.Keeps) ∧
      (run start steps).config =
        ⟨.recipient, .disabled, some (.ofString "\"\n"), some (.ofString "")⟩ ∧
      (run start steps).config.reload.result = .ok (run start steps).config := by
  have loaded : (Config.load "\x7b\"default_to\": \"42\"\x7d").result =
      .ok { Config.standard with defaultTo := some (.ofString "42") } := by
    decide +kernel
  refine ⟨_, _, loaded, rfl, ?keeps, by decide +kernel,
    (reload_run _ _ (.inr ⟨_, loaded⟩) ?keeps).2.1⟩
  simp [Step.Keeps, Rules.validate, Rules.isSound_disabled]

end Session

end ShortMessage
