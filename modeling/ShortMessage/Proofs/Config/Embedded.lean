import ShortMessage.Proofs.Config.Acceptance
import ShortMessage.Proofs.Json.Open

/-!
# Rules alone and rules inside a configuration

Rules are read in two ways: alone, where unknown members are passed over and no field may be null,
and as one side of a configuration, where unknown members are refused and a null leaves a field as
it was. On the texts of rules alone the two agree but for unknown members.

* `Rules.record_strict_takes` says which values the closed record of rules takes.
* `Rules.ofJson_cases` says that a text of rules alone spells such a value or has an unknown key.
* `Config.enclose` puts a text inside a configuration, as the rules of one side.
* `Config.ofJson_enclose` compares the two readings.
-/

namespace ShortMessage

open Json

/-! ### Rules alone -/

namespace Rules

variable {v : Value String} {text : String} {r : Rules}

/-- No field is given as a null. -/
def NoNull (v : Value String) : Prop :=
  ∀ e ∈ v.entries names, e.2 ≠ .null

/-- The rules that have the fields that are given from one choice of rules, and the others from
another. -/
def mix (given : String → Bool) (r base : Rules) : Rules where
  alphanumeric := if given "alphanumeric" then r.alphanumeric else base.alphanumeric
  shortCode := if given "short_code" then r.shortCode else base.shortCode
  international := if given "international" then r.international else base.international
  shortCodeLimit := if given "short_code_max_length" then r.shortCodeLimit else base.shortCodeLimit

/-- Whether a value gives a field. -/
def gives (v : Value String) (name : String) : Bool :=
  (v.given names name).isSome

/-- The forms of the fields of rules alone. -/
def aloneForms : List (Form Rules) :=
  forms (fun v => ∃ b, v = .boolean b) fun v => ∃ n : Numeral, v = .number n ∧ n.IsWord

theorem hasForms_record_strict : record.strict.HasForms aloneForms where
  fields := by
    refine forall₂_forms ?_ ?_
    · refine (boolean_takes.map some).congr (fun v => Iff.rfl) ?_
      rintro v ⟨b, rfl⟩
      rfl
    · refine (natural_takes.map some).congr (fun v => Iff.rfl) ?_
      rintro v ⟨n, rfl, -⟩
      rfl
  closed := rfl
  partly := rfl
  nonempty := nofun
  distinct := nodup_names_forms _ _

/-- What a field of rules alone takes is what it takes of rules that are laid over others, without
the nulls. -/
theorem fits_aloneForms_iff {e : String × Value String} :
    Fits aloneForms e ↔ Fits (forms IsSwitch IsLimit) e ∧ e.2 ≠ .null := by
  rw [aloneForms, fits_forms_iff, fits_forms_iff]
  have switch : (∃ b, e.2 = .boolean b) ↔ IsSwitch e.2 ∧ e.2 ≠ .null := by
    cases e.2 <;> simp [IsSwitch]
  have limit : (∃ n : Numeral, e.2 = .number n ∧ n.IsWord) ↔ IsLimit e.2 ∧ e.2 ≠ .null := by
    cases e.2 <;> simp [IsLimit]
  rw [switch, limit]
  tauto

/-- The closed record of rules takes what can be laid over the rules of a sender and has no null. -/
theorem record_strict_takes :
    record.strict.reader.Takes (fun v => IsOverlay v ∧ NoNull v) (overlaid .sender) := by
  refine hasForms_record_strict.reader_takes.congr (fun v => ?_) fun v h => ?_
  · show (v.Fills names ∧ ∀ e ∈ v.entries names, Fits aloneForms e) ↔ _
    simp only [isOverlay_iff, NoNull, fits_aloneForms_iff, forall_and, and_assoc]
  · exact foldl_editBy_eq_overlaid h.1 _ _ _

/-- A text of rules alone spells a value that can be laid over rules, or it has an unknown key. Then
rules that are laid over others are refused, whatever follows the text. -/
theorem ofJson_cases (h : ofJson text = .ok r) (base : Rules) :
    ((∃ v, Document v text) ∧ (∀ k, HasKey text k → k ∈ names) ∧
      ∀ v, Document v text → IsOverlay v ∧ NoNull v ∧ r = overlaid .sender v) ∨
    ∃ k, HasKey text k ∧ k ∉ names ∧ ∀ t, ∃ e,
      (overrides base).reader.run (text.toList ++ t) = .error e ∧
        e.cause = .unknownField k names := by
  have wider : ∀ e, Fits aloneForms e → Fits (forms IsSwitch IsLimit) e :=
    fun e fits => (fits_aloneForms_iff.1 fits).1
  rcases Record.readAll_strict_or hasForms_record_strict (hasForms_overrides base) rfl wider h with
    ⟨read, known⟩ | unknown
  · refine .inl ⟨record_strict_takes.exists_document read, known, fun v document => ?_⟩
    obtain ⟨⟨overlay, noNull⟩, same⟩ := (record_strict_takes.readAll_eq_ok_iff document r).1 read
    exact ⟨overlay, noNull, same⟩
  · exact .inr unknown

theorem mem_entries_of_given {name : String} {x : Value String}
    (h : v.given names name = some x) : (name, x) ∈ v.entries names := by
  obtain ⟨before, after, split, -⟩ := List.lookup_eq_some_iff.1 h
  rw [split]
  exact List.mem_append_right _ List.mem_cons_self

/-- A field that is given has a value of its own, if what is given is no null. -/
theorem getD_given {α : Type} {get : Value String → Option α} {name : String}
    (own : ∀ x, v.given names name = some x → ∃ a, get x = some a) (a b : α) :
    ((v.given names name).bind get).getD b =
      if gives v name then ((v.given names name).bind get).getD a else b := by
  unfold gives
  cases h : v.given names name with
  | none => simp
  | some x =>
    obtain ⟨y, hy⟩ := own x h
    simp [hy]

/-- Without nulls, the fields that are given do not depend on the rules below. -/
theorem overlaid_eq_mix (overlay : IsOverlay v) (noNull : NoNull v) (r base : Rules) :
    overlaid base v = mix (gives v) (overlaid r v) base := by
  have switch : ∀ name ∈ ["alphanumeric", "short_code", "international"],
      ∀ x, v.given names name = some x → ∃ b, x.switch? = some b := by
    intro name known x hx
    have mem := mem_entries_of_given hx
    rcases overlay.switches name known x mem with null | ⟨b, rfl⟩
    · exact absurd null (noNull _ mem)
    · exact ⟨b, rfl⟩
  have limit : ∀ x, v.given names "short_code_max_length" = some x → ∃ n, x.limit? = some n := by
    intro x hx
    have mem := mem_entries_of_given hx
    rcases overlay.limit x mem with null | ⟨n, rfl, -⟩
    · exact absurd null (noNull _ mem)
    · exact ⟨_, rfl⟩
  simp only [overlaid, mix]
  rw [← getD_given (switch _ (by simp)), ← getD_given (switch _ (by simp)),
    ← getD_given (switch _ (by simp)), ← getD_given limit]

end Rules

/-! ### Rules inside a configuration -/

namespace Config

variable {side text : String} {v : Value String} {c : Config}

/-- The text of a configuration that gives the rules of one side. -/
def enclose (side text : String) : String :=
  "\x7b\"" ++ side ++ "\":" ++ text ++ "\x7d"

/-- The empty lists stand where the grammar has blank space. -/
theorem toList_enclose (side text : String) :
    (enclose side text).toList =
      '{' :: ([] ++ '"' :: (side.toList ++ '"' :: ([] ++ ':' :: (text.toList ++ ['}'])))) := by
  simp [enclose, String.toList_append]

/-- The names of the two sides. -/
def sides : List String := ["sender", "recipient"]

theorem spellsText_side (mem : side ∈ sides) : SpellsText side side.toList := by
  refine Literal.spells_self ?_
  obtain rfl | rfl : side = "sender" ∨ side = "recipient" := by simpa [sides] using mem
  · simp
  · simp

/-- A text that spells a value is enclosed as a text that spells an object with this value. -/
theorem document_enclose (mem : side ∈ sides) (document : Document v text) :
    Document (.object [(side, v)]) (enclose side text) := by
  obtain ⟨a, cs, b, htext, blank, spelled, after⟩ := document
  have member := SpellsMember.mk Blank.nil (spellsText_side mem) Blank.nil blank spelled
  refine ⟨[], _, [], ?_, Blank.nil, .object member (.close after), Blank.nil⟩
  rw [toList_enclose, htext]
  simp

/-- An object with the rules of one side stands for a configuration if they can be laid over
others. -/
theorem isDocument_side (mem : side ∈ sides) :
    IsDocument (.object [(side, v)]) ↔ Rules.IsOverlay v := by
  constructor
  · intro h
    exact h.rules side mem v List.mem_cons_self
  · intro overlay
    refine ⟨⟨List.nodup_singleton _, ?_⟩, ?_, ?_⟩
    · intro m hm
      rw [List.mem_singleton.1 hm]
      exact List.mem_append_left ["default_from", "default_to"] mem
    · intro name _ x hx
      obtain ⟨-, rfl⟩ := Prod.mk.inj (List.mem_singleton.1 hx)
      exact overlay
    · intro name other x hx
      obtain ⟨rfl, -⟩ := Prod.mk.inj (List.mem_singleton.1 hx)
      have disjoint : List.Disjoint sides ["default_from", "default_to"] := by
        simp [sides]
      exact (disjoint mem other).elim

theorem ofDocument_sender :
    ofDocument (.object [("sender", v)]) = ofRules (Rules.overlaid .sender v) .recipient := rfl

theorem ofDocument_recipient :
    ofDocument (.object [("recipient", v)]) = ofRules .sender (Rules.overlaid .recipient v) := rfl

/-- Rules that fail are refused inside a configuration, for the same reason. -/
theorem ofJson_enclose_error (mem : side ∈ sides) {p : Reader Rules}
    {edit : Rules → Config → Config}
    (found : fields.find? (·.name == side) = some ⟨side, false, p.map edit⟩) {e : Failure}
    (fails : p.run (text.toList ++ ['}']) = .error e) :
    ∃ fault, ofJson (enclose side text) = .error fault ∧ fault.cause = e.cause := by
  have next : nextKey (List.isEmpty ([] : List String))
      ([] ++ '"' :: (side.toList ++ '"' :: ([] ++ ':' :: (text.toList ++ ['}'])))) =
        .ok (some side, [] ++ ':' :: (text.toList ++ ['}'])) :=
          nextKey_first Blank.nil (spellsText_side mem) _
  have member : record.member [] side ([] ++ ':' :: (text.toList ++ ['}'])) = .error e := by
    simp only [Record.member, record, found, List.contains_nil, Bool.false_eq_true, if_false,
      Reader.afterColon, passColon_append Blank.nil, Reader.map, fails]
  have run : record.reader.run (enclose side text).toList = .error e := by
    rw [toList_enclose]
    show record.read ([] ++ '{' :: _) = .error e
    rw [Record.read_brace record Blank.nil, Record.ofObject]
    simp only [Record.members_error next member]
  refine ⟨e.inText (enclose side text).toList, ?_, rfl⟩
  simp only [ofJson, Reader.readAll, run]

/-- Rules alone are read as one side of a configuration, or they have an unknown key, and then the
configuration is refused because of one. -/
theorem ofJson_enclose_cases {base r : Rules} {edit : Rules → Config → Config}
    (mem : side ∈ sides)
    (found : fields.find? (·.name == side) =
      some ⟨side, false, (Rules.overrides base).reader.map edit⟩)
    (h : Rules.ofJson text = .ok r) :
    ((∃ v, Document v text) ∧ (∀ k, HasKey text k → k ∈ Rules.names) ∧
      ∀ v, Document v text → Rules.IsOverlay v ∧ Rules.NoNull v ∧ r = Rules.overlaid .sender v ∧
        ofJson (enclose side text) = .ok (ofDocument (.object [(side, v)]))) ∨
    ∃ k, HasKey text k ∧ k ∉ Rules.names ∧ ∃ fault, ofJson (enclose side text) = .error fault ∧
      fault.cause = .unknownField k Rules.names := by
  rcases Rules.ofJson_cases h base with ⟨some, known, alone⟩ | ⟨k, hk, unknown, fails⟩
  · refine .inl ⟨some, known, fun v document => ?_⟩
    obtain ⟨overlay, noNull, same⟩ := alone v document
    have enclosed := (record_takes.readAll_eq_ok_iff (document_enclose mem document) _).2
      ⟨(isDocument_side mem).2 overlay, rfl⟩
    exact ⟨overlay, noNull, same, enclosed⟩
  · obtain ⟨e, refused, cause⟩ := fails ['}']
    obtain ⟨fault, hfault, same⟩ := ofJson_enclose_error mem found refused
    exact .inr ⟨k, hk, unknown, fault, hfault, same.trans cause⟩

/-- **The two readings of rules agree.** A text of rules alone, taken as the rules of the sender of a
configuration, gives the same rules beside the ready-made ones of a recipient, or is refused because
of an unknown key. It is refused if and only if it is an object with a key that is no name of a
field. As the rules of the recipient the same texts are read. The fields that the text gives then
have the values that they have alone, and the others those of the ready-made rules of a
recipient. -/
theorem ofJson_enclose {r : Rules} (h : Rules.ofJson text = .ok r) :
    (ofJson (enclose "sender" text) = .ok (ofRules r .recipient) ∨
      ∃ fault k, ofJson (enclose "sender" text) = .error fault ∧
        fault.cause = .unknownField k Rules.names ∧ fault.cause.category = .mismatched ∧
        HasKey text k ∧ k ∉ Rules.names) ∧
    ((∃ fault, ofJson (enclose "sender" text) = .error fault) ↔
      ∃ k, HasKey text k ∧ k ∉ Rules.names) ∧
    ((∃ c, ofJson (enclose "recipient" text) = .ok c) ↔
      ∃ c, ofJson (enclose "sender" text) = .ok c) ∧
    ∀ c, ofJson (enclose "recipient" text) = .ok c →
      (∃ v, Document v text) ∧ ∀ v, Document v text →
        c = ofRules .sender (Rules.mix (Rules.gives v) r .recipient) := by
  have sender := ofJson_enclose_cases (List.mem_cons_self : "sender" ∈ sides) rfl h
  have recipient := ofJson_enclose_cases (by simp [sides] : "recipient" ∈ sides) rfl h
  rcases sender with ⟨⟨v, document⟩, known, asSender⟩ | ⟨k, hk, unknown, fault, refused, cause⟩
  · obtain ⟨-, -, same, read⟩ := asSender v document
    rw [ofDocument_sender, ← same] at read
    rcases recipient with ⟨-, -, asRecipient⟩ | ⟨k, hk, unknown, -⟩
    · refine ⟨.inl read, iff_of_false ?_ ?_, iff_of_true ?_ ⟨_, read⟩, fun c hc => ?_⟩
      · simp [read]
      · rintro ⟨k, hk, unknown⟩
        exact unknown (known k hk)
      · exact ⟨_, (asRecipient v document).2.2.2⟩
      · refine ⟨⟨v, document⟩, fun w spelled => ?_⟩
        obtain ⟨overlay, noNull, same, read⟩ := asRecipient w spelled
        rw [hc] at read
        rw [Except.ok.inj read, ofDocument_recipient, same,
          Rules.overlaid_eq_mix overlay noNull .sender .recipient]
    · exact absurd (known k hk) unknown
  · rcases recipient with ⟨-, known, -⟩ | ⟨_, _, _, other, refused', -⟩
    · exact absurd (known k hk) unknown
    · have noSender : ¬ ∃ c, ofJson (enclose "sender" text) = .ok c := by simp [refused]
      have noRecipient : ¬ ∃ c, ofJson (enclose "recipient" text) = .ok c := by simp [refused']
      have mismatched : fault.cause.category = .mismatched := by rw [cause]; rfl
      exact ⟨.inr ⟨fault, k, refused, cause, mismatched, hk, unknown⟩,
        iff_of_true ⟨fault, refused⟩ ⟨k, hk, unknown⟩, iff_of_false noRecipient noSender,
        fun c hc => absurd ⟨c, hc⟩ noRecipient⟩

/-- A text that gives one field keeps the others of a recipient, and has no other key. -/
theorem ofJson_enclose_escaped :
    Rules.ofJson " \x7b\"short\\u005Fcode\": true\x7d" = .ok .sender ∧
    ofJson (enclose "recipient" " \x7b\"short\\u005Fcode\": true\x7d") =
      .ok (ofRules .sender { Rules.recipient with shortCode := true }) ∧
    ¬ ∃ k, HasKey " \x7b\"short\\u005Fcode\": true\x7d" k ∧ k ∉ Rules.names := by
  have alone : Rules.ofJson " \x7b\"short\\u005Fcode\": true\x7d" = .ok .sender := by
    decide +kernel
  have enclosed : ofJson (enclose "recipient" " \x7b\"short\\u005Fcode\": true\x7d") =
      .ok (ofRules .sender { Rules.recipient with shortCode := true }) := by
    decide +kernel
  obtain ⟨-, refused, same, -⟩ := ofJson_enclose alone
  obtain ⟨c, read⟩ := same.1 ⟨_, enclosed⟩
  refine ⟨alone, enclosed, fun unknown => ?_⟩
  obtain ⟨fault, hfault⟩ := refused.2 unknown
  rw [read] at hfault
  cases hfault

end Config

end ShortMessage
