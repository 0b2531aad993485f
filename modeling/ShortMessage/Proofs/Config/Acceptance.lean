import ShortMessage.Config.Document
import ShortMessage.Proofs.Rules.Overlay

/-!
# Which texts are configurations

* `Config.IsDocument` are the values that stand for a configuration.
* `Config.ofDocument` is the configuration that such a value stands for.
* `Config.ofJson_iff_isDocument` says that the texts of these values are read as configurations, and
  no other texts.
-/

namespace ShortMessage.Config

open Json

/-- The names of the fields of a configuration. -/
def names : List String := ["sender", "recipient", "default_from", "default_to"]

/-- The text of a number, or a null where no number is given. -/
def IsDefault (v : Value String) : Prop :=
  v = .null ∨ ∃ t, v = .string t

/-- An object or an array that gives some of the fields of a configuration, with rules for two of
them and default numbers for the others. -/
structure IsDocument (v : Value String) : Prop where
  fills : v.Fills names
  rules : ∀ name ∈ ["sender", "recipient"], ∀ x, (name, x) ∈ v.entries names → Rules.IsOverlay x
  defaults : ∀ name ∈ ["default_from", "default_to"], ∀ x, (name, x) ∈ v.entries names →
    IsDefault x

/-- The configuration that a value stands for. Rules are laid over the ready-made ones of their
side, and a default number that is not given or null is absent. -/
def ofDocument (v : Value String) : Config where
  sender := (v.given names "sender").elim .sender (Rules.overlaid .sender)
  recipient := (v.given names "recipient").elim .recipient (Rules.overlaid .recipient)
  defaultFrom := ((v.given names "default_from").bind Value.text?).map Phone.ofString
  defaultTo := ((v.given names "default_to").bind Value.text?).map Phone.ofString

/-- The forms of the fields of a configuration. -/
def forms : List (Form Config) :=
  [⟨"sender", Rules.IsOverlay, fun v c => { c with sender := Rules.overlaid .sender v }⟩,
    ⟨"recipient", Rules.IsOverlay, fun v c => { c with recipient := Rules.overlaid .recipient v }⟩,
    ⟨"default_from", IsDefault,
      fun v c => { c with defaultFrom := v.text?.map Phone.ofString }⟩,
    ⟨"default_to", IsDefault, fun v c => { c with defaultTo := v.text?.map Phone.ofString }⟩]

theorem default_takes : (optional string).Takes IsDefault Value.text? := by
  refine string_takes.optional.congr (fun v => Iff.rfl) ?_
  rintro v (rfl | ⟨t, rfl⟩) <;> rfl

theorem hasForms_record : record.HasForms forms where
  fields := .cons ⟨rfl, rfl, (Rules.overrides_takes _).map _⟩
    (.cons ⟨rfl, rfl, (Rules.overrides_takes _).map _⟩
      (.cons ⟨rfl, rfl, default_takes.map _⟩ (.cons ⟨rfl, rfl, default_takes.map _⟩ .nil)))
  closed := rfl
  partly := rfl
  nonempty := nofun
  distinct := (by decide : names.Nodup)

theorem fits_forms_iff {e : String × Value String} :
    Fits forms e ↔ (e.1 ∈ ["sender", "recipient"] ∧ Rules.IsOverlay e.2) ∨
      (e.1 ∈ ["default_from", "default_to"] ∧ IsDefault e.2) := by
  rw [fits_iff hasForms_record.distinct]
  simp only [forms, List.mem_cons, List.not_mem_nil, or_false, or_and_right, exists_or,
    exists_eq_left, or_assoc, @eq_comm _ e.1]

theorem isDocument_iff {v : Value String} :
    IsDocument v ↔ v.Fills names ∧ ∀ e ∈ v.entries names, Fits forms e := by
  constructor
  · intro h
    refine ⟨h.fills, ?_⟩
    rintro ⟨name, x⟩ mem
    have known : name ∈ ["sender", "recipient"] ++ ["default_from", "default_to"] :=
      h.fills.name_mem mem
    rcases List.mem_append.1 known with known | known
    · exact fits_forms_iff.2 (.inl ⟨known, h.rules name known x mem⟩)
    · exact fits_forms_iff.2 (.inr ⟨known, h.defaults name known x mem⟩)
  · rintro ⟨fills, fits⟩
    have disjoint : List.Disjoint ["sender", "recipient"] ["default_from", "default_to"] := by
      simp
    refine ⟨fills, ?_, ?_⟩
    · intro name known x mem
      rcases fits_forms_iff.1 (fits _ mem) with ⟨-, rules⟩ | ⟨other, -⟩
      · exact rules
      · exact (disjoint known other).elim
    · intro name known x mem
      rcases fits_forms_iff.1 (fits _ mem) with ⟨other, -⟩ | ⟨-, default⟩
      · exact (disjoint other known).elim
      · exact default

/-- The edits of all values make the configuration. -/
theorem foldl_editBy_eq_ofDocument {v : Value String} (fills : v.Fills names) :
    (v.entries names).foldl (editBy forms) standard = ofDocument v := by
  -- no field is given twice, and each field edits its own part only
  have distinct := fills.nodup_entries (by decide)
  have sender := foldl_editBy_part Config.sender (fun x _ => Rules.overlaid .sender x)
    (rfl : forms.find? (·.name == "sender") = some _)
    (fun _ _ => rfl) (by simp [forms]) distinct standard
  have recipient := foldl_editBy_part Config.recipient (fun x _ => Rules.overlaid .recipient x)
    (rfl : forms.find? (·.name == "recipient") = some _)
    (fun _ _ => rfl) (by simp [forms]) distinct standard
  have defaultFrom := foldl_editBy_part Config.defaultFrom
    (fun x _ => x.text?.map Phone.ofString)
    (rfl : forms.find? (·.name == "default_from") = some _)
    (fun _ _ => rfl) (by simp [forms]) distinct standard
  have defaultTo := foldl_editBy_part Config.defaultTo
    (fun x _ => x.text?.map Phone.ofString)
    (rfl : forms.find? (·.name == "default_to") = some _)
    (fun _ _ => rfl) (by simp [forms]) distinct standard
  have eta : ∀ c : Config, c = ⟨c.sender, c.recipient, c.defaultFrom, c.defaultTo⟩ := fun _ => rfl
  have absent : ∀ o : Option (Value String), (o.elim none fun x => x.text?.map Phone.ofString) =
      (o.bind Value.text?).map Phone.ofString := by
    intro o
    cases o <;> rfl
  rw [eta (List.foldl _ _ _), sender, recipient, defaultFrom, defaultTo]
  show Config.mk _ _ (Option.elim _ none _) (Option.elim _ none _) = _
  rw [absent, absent]
  rfl

theorem record_takes : record.reader.Takes IsDocument ofDocument :=
  hasForms_record.reader_takes.congr (fun _ => isDocument_iff.symm)
    fun _ h => foldl_editBy_eq_ofDocument h.1

/-- **A text is a configuration if and only if it spells a value that stands for one.** A text that
spells no value is refused. A text that spells a value is read as the configuration that the value
stands for, and refused if it stands for none, however the value is spelled. -/
theorem ofJson_iff_isDocument (text : String) :
    (∀ c, ofJson text = .ok c → ∃ v, Document v text) ∧
      ∀ v, Document v text → ∀ c, ofJson text = .ok c ↔ IsDocument v ∧ c = ofDocument v :=
  ⟨fun _ => record_takes.exists_document,
    fun _ document c => record_takes.readAll_eq_ok_iff document c⟩

/-- A key may be escaped, and the rules of a side may stand in an array. -/
theorem ofJson_iff_isDocument_escaped :
    ∃ v, Document v "\x7b\"recipient\" : [null, true], \"default\\u005Fto\": \"42\"\x7d " ∧
      IsDocument v ∧ ofDocument v = { standard with
        recipient := { Rules.recipient with shortCode := true }
        defaultTo := some (Phone.ofString "42") } := by
  have read :
      ofJson "\x7b\"recipient\" : [null, true], \"default\\u005Fto\": \"42\"\x7d " =
        .ok { standard with
          recipient := { Rules.recipient with shortCode := true }
          defaultTo := some (Phone.ofString "42") } := by
    decide +kernel
  obtain ⟨v, document⟩ := (ofJson_iff_isDocument _).1 _ read
  obtain ⟨isDocument, same⟩ := ((ofJson_iff_isDocument _).2 v document _).1 read
  exact ⟨v, document, isDocument, same.symm⟩

end ShortMessage.Config
