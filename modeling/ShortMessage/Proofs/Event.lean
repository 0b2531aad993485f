import ShortMessage.Event
import ShortMessage.Proofs.Text.Legible
import ShortMessage.Proofs.Text.Quoted

/-!
# What the text of an event tells

An event is reported by one sentence. The sentence says what the event is about, in words, in numbers
and in quotes, and no sentence about something else is the same.

* `Event.Tells` says what the sentences are, and `Event.tells_message` that every event has one of
  them for its text.
* `Event.told` is what the text tells of an event: the limit only where short codes are tried, and
  the mark for no number as if it were a number.
* `Event.message_eq_iff` says that the text tells this much, and no more.
-/

namespace ShortMessage

open Text

/-! ### Names -/

theorem TypeOfNumber.legible_display : Legible TypeOfNumber.display :=
  legible_coded fun _ _ same => code_injective (UInt8.toNat_inj.1 same)

theorem NumberingPlan.legible_display : Legible NumberingPlan.display :=
  legible_coded fun _ _ same => code_injective (UInt8.toNat_inj.1 same)

/-- The names of the codings differ in their last letters. -/
theorem Coding.legible_label : Legible Coding.label := by
  intro s t a b same
  have letters := congrArg (fun text => text.toList.reverse) same
  cases a <;> cases b
  case gsm7.gsm7 | unicode.unicode => exact ⟨(String.append_left_inj _).1 same, rfl⟩
  case gsm7.unicode | unicode.gsm7 => simp [label] at letters

theorem Rules.legible_describeSwitch : Legible Rules.describeSwitch := by
  intro s t a b same
  have letters := congrArg (fun text => text.toList.reverse) same
  cases a <;> cases b
  case false.false | true.true => exact ⟨(String.append_left_inj _).1 same, rfl⟩
  case false.true | true.false => simp [describeSwitch] at letters

theorem Rules.legible_describe : Legible Rules.describe := by
  have colon : ", short_code_max_length: ".toList =
      ", short_code_max_length:".toList ++ [' '] := by decide
  intro s t a b same
  unfold describe at same
  simp only [← String.append_assoc, String.append_left_inj] at same
  obtain ⟨before, limit⟩ := eq_of_append_number_eq colon rfl same
  obtain ⟨before, international⟩ := legible_describeSwitch before
  obtain ⟨before, shortCode⟩ := legible_describeSwitch ((String.append_left_inj _).1 before)
  obtain ⟨before, alphanumeric⟩ := legible_describeSwitch ((String.append_left_inj _).1 before)
  refine ⟨(String.append_left_inj _).1 before, ?_⟩
  cases a
  cases b
  cases alphanumeric
  cases shortCode
  cases international
  cases UInt64.toNat_inj.1 limit
  rfl

namespace Event

/-! ### Sentences -/

/-- What the text of an event says. The number of a phone is quoted, a character is quoted and given
by its code point in base sixteen, and counts, limits and codes are in base ten. The source of a
message is shown with its number as it is, or with a mark that it has none. -/
inductive Tells : Event → String → Prop
  | phoneMissing : Tells phoneMissing "Rejecting address classification without a phone number"
  | phoneEmpty : Tells phoneEmpty "Empty phone number, using default addressing"
  | alphanumericTried {limit : UInt64} :
      Tells (ruleTried .alphanumeric limit) "Checking alphanumeric rule"
  | shortCodeTried {limit : UInt64} :
      Tells (ruleTried .shortCode limit)
        ("Checking short code rule (max " ++ toString limit.toNat ++ " digits)")
  | internationalTried {limit : UInt64} :
      Tells (ruleTried .international limit) "Checking international rule"
  | classified {number quoted : String} {ton : TypeOfNumber} {plan : NumberingPlan}
      (shown : Quotes '"' number.toList quoted.toList) :
      Tells (classified number ton plan)
        ("Classified " ++ quoted ++
          " as TON " ++ (ton.label ++ " (" ++ toString ton.code.toNat ++ ")") ++
          ", NPI " ++ (plan.label ++ " (" ++ toString plan.code.toNat ++ ")"))
  | unicodeNeeded {c : Char} {quoted digits : String} (shown : Quotes '\'' [c] quoted.toList)
      (code : IsHex capitalDigits 4 c.toNat digits.toList) :
      Tells (unicodeNeeded c)
        ("Character " ++ quoted ++ " (U+" ++ digits ++ ") needs Unicode encoding")
  | encoded {characters octets : ℕ} {coding : Coding} :
      Tells (encoded characters coding octets)
        ("Encoded " ++ toString characters ++ " chars as " ++ coding.label ++
          " (" ++ toString octets ++ " bytes)")
  | addressed {source : Address} {number : String} {recipients : ℕ} {coding : Coding}
      (shown : source.number = some number ∨ source.number = none ∧ number = "<none>") :
      Tells (addressed source recipients coding)
        ("Addressed message from " ++ (number ++
          " [TON: " ++ (source.ton.label ++ " (" ++ toString source.ton.code.toNat ++ ")") ++
          ", NPI: " ++ (source.plan.label ++ " (" ++ toString source.plan.code.toNat ++ ")") ++
          "]") ++ " to " ++ toString recipients ++ " recipient(s) using " ++ coding.label)
  | loaded {sender recipient : Rules} :
      Tells (loaded sender recipient)
        ("Loaded addressing configuration: sender " ++ sender.describe ++
          ", recipient " ++ recipient.describe)

/-! ### Texts

The text of each event with data, so that a proof about one of them need not unfold them all. -/

theorem message_shortCodeTried (limit : UInt64) : (ruleTried .shortCode limit).message =
    "Checking short code rule (max " ++ toString limit.toNat ++ " digits)" := rfl

theorem message_classified (number : String) (ton : TypeOfNumber) (plan : NumberingPlan) :
    (classified number ton plan).message =
      "Classified " ++ quote number ++ " as TON " ++ ton.display ++ ", NPI " ++ plan.display := rfl

theorem message_unicodeNeeded (c : Char) : (unicodeNeeded c).message =
    "Character " ++ quoteChar c ++ " (U+" ++ String.ofList (hexUpper 4 c.toNat) ++
      ") needs Unicode encoding" := rfl

theorem message_encoded (characters : ℕ) (coding : Coding) (octets : ℕ) :
    (encoded characters coding octets).message =
      "Encoded " ++ toString characters ++ " chars as " ++ coding.label ++ " (" ++
        toString octets ++ " bytes)" := rfl

theorem message_addressed (source : Address) (recipients : ℕ) (coding : Coding) :
    (addressed source recipients coding).message =
      "Addressed message from " ++ source.display ++ " to " ++ toString recipients ++
        " recipient(s) using " ++ coding.label := rfl

theorem message_loaded (sender recipient : Rules) : (loaded sender recipient).message =
    "Loaded addressing configuration: sender " ++ sender.describe ++ ", recipient " ++
      recipient.describe := rfl

/-- The text of an event tells it. -/
theorem tells_message (e : Event) : e.Tells e.message := by
  cases e with
  | phoneMissing => exact .phoneMissing
  | phoneEmpty => exact .phoneEmpty
  | ruleTried rule limit =>
    cases rule with
    | alphanumeric => exact .alphanumericTried
    | shortCode => exact .shortCodeTried
    | international => exact .internationalTried
  | classified number ton plan =>
    rw [message_classified]
    exact .classified (quotes_quote number)
  | unicodeNeeded c =>
    have code : IsHex capitalDigits 4 c.toNat (String.ofList (hexUpper 4 c.toNat)).toList := by
      rw [String.toList_ofList]
      exact isHex_hexUpper (by decide) c.toNat
    rw [message_unicodeNeeded]
    exact .unicodeNeeded (quotes_quoteChar c) code
  | encoded =>
    rw [message_encoded]
    exact .encoded
  | addressed source recipients coding =>
    have shown : source.number = some (Phone.display ⟨source.number⟩) ∨
        source.number = none ∧ Phone.display ⟨source.number⟩ = "<none>" := by
      cases source.number with
      | none => exact .inr ⟨rfl, rfl⟩
      | some number => exact .inl rfl
    rw [message_addressed]
    exact .addressed shown
  | loaded =>
    rw [message_loaded]
    exact .loaded

/-- What names a character names it in quotes and by its code point. -/
theorem exists_of_tells_unicodeNeeded {c : Char} {text : String} (h : (unicodeNeeded c).Tells text) :
    ∃ quoted digits : String,
      text = "Character " ++ quoted ++ " (U+" ++ digits ++ ") needs Unicode encoding" ∧
      Quotes '\'' [c] quoted.toList ∧ IsHex capitalDigits 4 c.toNat digits.toList := by
  cases h with
  | unicodeNeeded shown code => exact ⟨_, _, rfl, shown, code⟩

/-! ### Which event a sentence is about -/

/-- The kinds of events whose texts have different words. -/
inductive Kind
  | phoneMissing
  | phoneEmpty
  | ruleTried (rule : Rule)
  | classified
  | unicodeNeeded
  | encoded
  | addressed
  | loaded

/-- The kind of events whose texts start like this one. -/
def Kind.ofText? : List Char → Option Kind
  | 'R' :: _ => some phoneMissing
  | 'E' :: 'm' :: _ => some phoneEmpty
  | 'C' :: 'h' :: 'e' :: 'c' :: 'k' :: 'i' :: 'n' :: 'g' :: ' ' :: 'a' :: _ =>
    some (ruleTried .alphanumeric)
  | 'C' :: 'h' :: 'e' :: 'c' :: 'k' :: 'i' :: 'n' :: 'g' :: ' ' :: 's' :: _ =>
    some (ruleTried .shortCode)
  | 'C' :: 'h' :: 'e' :: 'c' :: 'k' :: 'i' :: 'n' :: 'g' :: ' ' :: 'i' :: _ =>
    some (ruleTried .international)
  | 'C' :: 'l' :: _ => some classified
  | 'C' :: 'h' :: 'a' :: _ => some unicodeNeeded
  | 'E' :: 'n' :: _ => some encoded
  | 'A' :: _ => some addressed
  | 'L' :: _ => some loaded
  | _ => none

/-- What an event is about, without the data. -/
def kind : Event → Kind
  | phoneMissing => .phoneMissing
  | phoneEmpty => .phoneEmpty
  | ruleTried rule _ => .ruleTried rule
  | classified .. => .classified
  | unicodeNeeded _ => .unicodeNeeded
  | encoded .. => .encoded
  | addressed .. => .addressed
  | loaded .. => .loaded

/-- The first words tell the kind. -/
theorem ofText?_message (e : Event) : Kind.ofText? e.message.toList = some e.kind := by
  cases e with
  | ruleTried rule =>
    cases rule <;>
    · unfold message
      simp [kind, Kind.ofText?]
  | _ =>
    unfold message
    simp [kind, Kind.ofText?]

theorem kind_eq_of_message_eq {e f : Event} (same : e.message = f.message) : e.kind = f.kind := by
  have kinds := e.ofText?_message
  rw [same, f.ofText?_message] at kinds
  exact (Option.some.inj kinds).symm

section

variable {characters characters' octets octets' recipients recipients' : ℕ}
  {coding coding' : Coding} {source source' : Address}

theorem message_shortCodeTried_inj {limit limit' : UInt64}
    (same : (ruleTried .shortCode limit).message = (ruleTried .shortCode limit').message) :
    limit = limit' := by
  rw [message_shortCodeTried, message_shortCodeTried, String.append_left_inj,
    String.append_right_inj] at same
  exact UInt64.toNat_inj.1 (eq_of_toString_eq same)

theorem message_classified_inj {number number' : String} {ton ton' : TypeOfNumber}
    {plan plan' : NumberingPlan}
    (same : (classified number ton plan).message = (classified number' ton' plan').message) :
    number = number' ∧ ton = ton' ∧ plan = plan' := by
  rw [message_classified, message_classified] at same
  obtain ⟨beforePlan, plans⟩ := NumberingPlan.legible_display same
  rw [String.append_left_inj] at beforePlan
  obtain ⟨beforeType, types⟩ := TypeOfNumber.legible_display beforePlan
  rw [String.append_left_inj, String.append_right_inj, quote_inj] at beforeType
  exact ⟨beforeType, types, plans⟩

theorem message_unicodeNeeded_inj {c d : Char}
    (same : (unicodeNeeded c).message = (unicodeNeeded d).message) : c = d := by
  -- the quoted character stands behind the first word, which is the same
  rw [message_unicodeNeeded, message_unicodeNeeded] at same
  simp only [String.append_assoc, String.append_right_inj, quoteChar] at same
  have characters := congrArg String.toList same
  simp only [String.toList_append, String.toList_ofList, List.cons_append, List.append_assoc,
    List.cons.injEq, true_and] at characters
  exact ((shows_shown '\'' c).unique (.inr rfl) (shows_shown '\'' d) characters).1

theorem message_encoded_inj
    (same : (encoded characters coding octets).message =
      (encoded characters' coding' octets').message) :
    characters = characters' ∧ coding = coding' ∧ octets = octets' := by
  have bracket : " (".toList = [' '] ++ ['('] := by decide
  rw [message_encoded, message_encoded, String.append_left_inj] at same
  obtain ⟨beforeOctets, counts⟩ := eq_of_append_number_eq bracket rfl same
  obtain ⟨beforeCoding, codings⟩ := Coding.legible_label beforeOctets
  rw [String.append_left_inj, String.append_right_inj] at beforeCoding
  exact ⟨eq_of_toString_eq beforeCoding, codings, counts⟩

theorem message_addressed_inj
    (same : (addressed source recipients coding).message =
      (addressed source' recipients' coding').message) :
    Phone.display ⟨source.number⟩ = Phone.display ⟨source'.number⟩ ∧ source.ton = source'.ton ∧
      source.plan = source'.plan ∧ recipients = recipients' ∧ coding = coding' := by
  have space : " to ".toList = [' ', 't', 'o'] ++ [' '] := by decide
  rw [message_addressed, message_addressed] at same
  obtain ⟨beforeCoding, codings⟩ := Coding.legible_label same
  rw [String.append_left_inj] at beforeCoding
  obtain ⟨beforeCount, counts⟩ := eq_of_append_number_eq space rfl beforeCoding
  rw [String.append_right_inj, Address.display, Address.display, String.append_left_inj]
    at beforeCount
  obtain ⟨beforePlan, plans⟩ := NumberingPlan.legible_display beforeCount
  rw [String.append_left_inj] at beforePlan
  obtain ⟨beforeType, types⟩ := TypeOfNumber.legible_display beforePlan
  rw [String.append_left_inj] at beforeType
  exact ⟨beforeType, types, plans, counts, codings⟩

theorem message_loaded_inj {sender sender' recipient recipient' : Rules}
    (same : (loaded sender recipient).message = (loaded sender' recipient').message) :
    sender = sender' ∧ recipient = recipient' := by
  rw [message_loaded, message_loaded] at same
  obtain ⟨beforeRecipient, recipients⟩ := Rules.legible_describe same
  rw [String.append_left_inj] at beforeRecipient
  exact ⟨(Rules.legible_describe beforeRecipient).2, recipients⟩

end

/-- What the text tells of an event. The limit is told only if short codes are tried, and the mark
that stands for no number may be a number. -/
def told : Event → Event
  | ruleTried .alphanumeric _ => ruleTried .alphanumeric 0
  | ruleTried .international _ => ruleTried .international 0
  | addressed source recipients coding =>
    addressed { source with number := some (Phone.display ⟨source.number⟩) } recipients coding
  | event => event

theorem message_told (e : Event) : e.told.message = e.message := by
  cases e with
  | ruleTried rule => cases rule <;> rfl
  | _ => rfl

/-- **The text of an event tells it from all others.** Two events have the same text if and only if
they are about the same, up to a limit that the text leaves out, and up to a source whose number is
the mark for none. -/
theorem message_eq_iff {e f : Event} : e.message = f.message ↔ e.told = f.told := by
  constructor
  · intro same
    have kinds := kind_eq_of_message_eq same
    cases e with
    | phoneMissing =>
      cases f with
      | phoneMissing => rfl
      | _ => cases kinds
    | phoneEmpty =>
      cases f with
      | phoneEmpty => rfl
      | _ => cases kinds
    | ruleTried rule limit =>
      cases f with
      | ruleTried other otherLimit =>
        cases kinds
        cases rule with
        | alphanumeric | international => rfl
        | shortCode => rw [message_shortCodeTried_inj same]
      | _ => cases kinds
    | classified number ton plan =>
      cases f with
      | classified number' ton' plan' =>
        obtain ⟨rfl, rfl, rfl⟩ := message_classified_inj same
        rfl
      | _ => cases kinds
    | unicodeNeeded c =>
      cases f with
      | unicodeNeeded d => rw [message_unicodeNeeded_inj same]
      | _ => cases kinds
    | encoded characters coding octets =>
      cases f with
      | encoded characters' coding' octets' =>
        obtain ⟨rfl, rfl, rfl⟩ := message_encoded_inj same
        rfl
      | _ => cases kinds
    | addressed source recipients coding =>
      cases f with
      | addressed source' recipients' coding' =>
        obtain ⟨numbers, types, plans, rfl, rfl⟩ := message_addressed_inj same
        simp only [told, numbers, types, plans]
      | _ => cases kinds
    | loaded sender recipient =>
      cases f with
      | loaded sender' recipient' =>
        obtain ⟨rfl, rfl⟩ := message_loaded_inj same
        rfl
      | _ => cases kinds
  · intro same
    rw [← e.message_told, ← f.message_told, same]

end Event

end ShortMessage
