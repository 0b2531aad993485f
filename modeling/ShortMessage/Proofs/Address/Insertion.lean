import ShortMessage.Address.Document
import ShortMessage.Proofs.Json.Insertion
import ShortMessage.Rules.Document

/-!
# Rules and addresses with further members

Rules that stand alone and addresses are read by open records, so their documents may have members
that nobody knows of. A document that is an object is read alike with such members and without them.

* `Rules.isLocal_record` and `Address.isLocal_record` say that no field looks behind its value.
* `ofJson_inserts` says that members with foreign keys may be put in anywhere.
-/

namespace ShortMessage

open Json

theorem Rules.isLocal_record : Rules.record.IsLocal := by
  have switch := (boolean_takes.map some).isLocal
  have limit := (natural_takes.map some).isLocal
  intro field member
  simp only [record, fields, List.mem_cons, List.not_mem_nil, or_false] at member
  rcases member with rfl | rfl | rfl | rfl
  · exact switch.map _
  · exact switch.map _
  · exact switch.map _
  · exact limit.map _

theorem Address.isLocal_record : Address.record.IsLocal := by
  intro field member
  simp only [record, fields, List.mem_cons, List.not_mem_nil, or_false] at member
  rcases member with rfl | rfl | rfl
  · exact string_takes.optional.isLocal.map _
  · exact (isLocal_variant _).map _
  · exact (isLocal_variant _).map _

/-- **Documents of rules and of addresses may have further members.** Take any object, with members
of any keys and any values, however deep, as long as it is well formed. Put members in at any
places, each with a key that stands for a text and is no name of a field, and with any well-formed
value. Then the same rules are read from it as before, and the same address, or none as before. -/
theorem ofJson_inserts :
    (∀ text, (∃ ms, Outline (.object ms) text) ↔ ∃ o : ObjectText, o.text = text) ∧
    (∀ o o' : ObjectText, Inserts Rules.record.names o.members o'.members →
      ∀ r, Rules.ofJson o'.text = .ok r ↔ Rules.ofJson o.text = .ok r) ∧
    ∀ o o' : ObjectText, Inserts Address.record.names o.members o'.members →
      ∀ a, Address.ofJson o'.text = .ok a ↔ Address.ofJson o.text = .ok a := by
  refine ⟨fun text => exists_objectText_iff, ?_, ?_⟩
  · intro o o' inserts r
    exact Record.readAll_iff_of_inserts rfl Rules.isLocal_record inserts
  · intro o o' inserts a
    exact Record.readAll_iff_of_inserts rfl Address.isLocal_record inserts

/-! ### A member that is put in -/

/-- A member whose key and value are strings of characters that stand for themselves. -/
def plainMember (key value : List Char)
    (plain : ∀ c ∈ key ++ value, c ≠ '"' ∧ c ≠ '\\' ∧ 0x20 ≤ c.toNat) : MemberText where
  front := []
  key := key
  before := []
  after := []
  value := '"' :: (value ++ ['"'])
  back := []
  blank_front := Blank.nil
  raw_key := (Literal.spells_self fun c hc => plain c (List.mem_append_left _ hc)).isRaw
  blank_before := Blank.nil
  blank_after := Blank.nil
  spells_value :=
    ⟨_, .string (.mk (Literal.spells_self fun c hc => plain c (List.mem_append_right _ hc)).isRaw)⟩
  blank_back := Blank.nil

/-- A key may be escaped, and is the same key then. -/
theorem spellsText_escaped :
    SpellsText "ton " ['t', '\\', 'u', '0', '0', '6', 'F', 'n', ' '] := by
  have unit : Literal.SpellsUnit (((0 * 16 + 0) * 16 + 6) * 16 + 15) ['0', '0', '6', 'F'] :=
    .mk rfl rfl rfl rfl
  have code : Literal.SpellsUnit 'o'.toNat ['0', '0', '6', 'F'] := unit
  have escaped : Literal.Spells ['o', 'n', ' '] ['\\', 'u', '0', '0', '6', 'F', 'n', ' '] :=
    .unit code (Literal.spells_self (by simp))
  have letters : "ton ".toList = ['t', 'o', 'n', ' '] := by decide +kernel
  rw [SpellsText, letters]
  exact .plain (by simp) (by simp) (by simp) escaped

/-- Half of a pair of units is well formed, and so is a number of any size. -/
theorem exists_spells_nested : ∃ v, Spells Verbatim v "[\"\\uD800\" ,1e999]".toList := by
  have half : Literal.IsRaw ['\\', 'u', 'D', '8', '0', '0'] := .unit (.mk rfl rfl rfl rfl) .nil
  have whole : Numeral.WholeDigits ['1'] := ⟨⟨by simp, by simp⟩, by simp⟩
  have nines : Numeral.Digits ['9', '9', '9'] := ⟨by simp, by simp⟩
  let n : Numeral := ⟨false, ['1'], [], some (false, ['9', '9', '9'])⟩
  have unsigned : n.SpellsUnsigned (['1'] ++ ([] ++ 'e' :: ([] ++ ['9', '9', '9']))) :=
    .mk whole .absent (.power (.inl rfl) .absent nines)
  have space : Blank [' '] := by simp [Blank, isBlank]
  exact ⟨_, .array Blank.nil (.string (Verbatim.mk half))
    (.next space Blank.nil (.number (.positive rfl unsigned)) (.close Blank.nil))⟩

/-- A member that no rules and no address know. -/
def foreignMember : MemberText where
  front := [' ']
  key := ['t', '\\', 'u', '0', '0', '6', 'F', 'n', ' ']
  before := []
  after := []
  value := "[\"\\uD800\" ,1e999]".toList
  back := []
  blank_front := by simp [Blank, isBlank]
  raw_key := spellsText_escaped.isRaw
  blank_before := Blank.nil
  blank_after := Blank.nil
  spells_value := exists_spells_nested
  blank_back := Blank.nil

/-- The key of a member that is put in may differ from a name by a space. -/
theorem ofJson_inserts_nested :
    ∃ o o' p p' : ObjectText, o.text = "\x7b\"ton\":\"National\",\"npi\":\"Data\"\x7d" ∧
      o'.text =
        "\x7b\"ton\":\"National\", \"t\\u006Fn \":[\"\\uD800\" ,1e999],\"npi\":\"Data\"\x7d" ∧
      p.text = "\x7b\x7d" ∧ p'.text = "\x7b \"t\\u006Fn \":[\"\\uD800\" ,1e999]\x7d" ∧
      Inserts Address.record.names o.members o'.members ∧
      Inserts Rules.record.names p.members p'.members ∧
      Address.ofJson o'.text = .ok ⟨none, .national, .data⟩ ∧
      Rules.ofJson p'.text = .ok .sender := by
  let ton := plainMember ['t', 'o', 'n'] ['N', 'a', 't', 'i', 'o', 'n', 'a', 'l'] (by simp)
  let npi := plainMember ['n', 'p', 'i'] ['D', 'a', 't', 'a'] (by simp)
  let object := fun ms => ObjectText.mk [] [] ms [] Blank.nil Blank.nil Blank.nil
  have address : Inserts Address.record.names [ton, npi] [ton, foreignMember, npi] :=
    .keep (.insert spellsText_escaped (by decide) (.keep .nil))
  have rules : Inserts Rules.record.names [] [foreignMember] :=
    .insert spellsText_escaped (by decide) .nil
  have short : (object [ton, npi]).text = "\x7b\"ton\":\"National\",\"npi\":\"Data\"\x7d" := rfl
  have empty : (object []).text = "\x7b\x7d" := rfl
  have known : Address.ofJson (object [ton, npi]).text = .ok ⟨none, .national, .data⟩ := by
    rw [short]
    decide +kernel
  have none : Rules.ofJson (object []).text = .ok .sender := by
    rw [empty]
    decide +kernel
  exact ⟨object [ton, npi], object [ton, foreignMember, npi], object [], object [foreignMember],
    short, rfl, empty, rfl, address, rules, (ofJson_inserts.2.2 _ _ address _).2 known,
    (ofJson_inserts.2.1 _ _ rules _).2 none⟩

end ShortMessage
