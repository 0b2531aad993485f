import ShortMessage.Proofs.Body.Foreign
import ShortMessage.Proofs.Classification.Log
import ShortMessage.Proofs.Envelope.Address

/-!
# What addressing a message reports

The steps that lead to an envelope each leave a log, and the log of the message is these logs one
after another, closed by a line of its own. Nothing is reported by a step that is not made, so a
message that is refused for want of a sender leaves the warning and nothing else.

* `Coding.Names` is what the choice of a coding reports, and `log_encodeBody` adds the outcome.
* `Envelope.events_address_of_ok` puts the events of the steps together.
* `Envelope.address_log` is the whole account, with what the lines say.
-/

namespace ShortMessage

namespace Attempt

variable {α β : Type} {f : α → Attempt β}

/-- A list of attempts that all end well reports their events in order. -/
theorem events_mapM {as : List α} {bs : List β}
    (h : List.Forall₂ (fun a b => (f a).result = .ok b) as bs) :
    (as.mapM f).events = as.flatMap fun a => (f a).events := by
  induction h with
  | nil => rfl
  | cons first rest ih =>
    rw [List.mapM_cons, events_bind first, events_bind (result_mapM_eq_ok_iff.2 rest), ih,
      List.flatMap_cons]
    -- the values are put together without a report
    exact congrArg _ (List.append_nil _)

end Attempt

/-! ### The body -/

/-- What is reported when a coding is chosen for a text: the first character that rules septets
out, if there is one. -/
inductive Coding.Names (text : String) : Coding → List (Level × String) → Prop
  | nothing (known : ∀ c ∈ text.toList, Alphabet.contains c = true) : Names text .gsm7 []
  | character {c : Char} {position : ℕ} (first : IsFirstForeign text.toList c position) :
      Names text .unicode [(.debug, (Event.unicodeNeeded c).message)]

/-- The choice of a coding leaves the log of the text. -/
theorem Coding.names_ofText (text : String) :
    ∃ coding, (ofText text).result = .ok coding ∧ Names text coding (ofText text).log := by
  cases found : text.toList.find? fun c => !Alphabet.contains c with
  | none =>
    rw [ofText_eq_silent_iff.2 found]
    refine ⟨gsm7, rfl, .nothing fun c hc => ?_⟩
    simpa using List.find?_eq_none.1 found c hc
  | some c =>
    rw [ofText_eq_unicodeNeeded_iff.2 found]
    obtain ⟨position, first⟩ := find?_eq_some_iff_isFirstForeign.1 found
    exact ⟨unicode, rfl, .character first⟩

/-- Writing a body reports the choice of its coding, and then how long the text and the octets
are. -/
theorem log_encodeBody {text : String} {coding : Coding} {bytes : List UInt8}
    (h : (encodeBody text).result = .ok (coding, bytes)) :
    ∃ naming, coding.Names text naming ∧ (encodeBody text).log =
      naming ++ [(.trace, (Event.encoded text.toList.length coding bytes.length).message)] := by
  obtain ⟨chosen, written⟩ := encodeBody_result_iff.1 h
  obtain ⟨other, result, names⟩ := Coding.names_ofText text
  cases chosen.symm.trans result
  refine ⟨_, names, ?_⟩
  rw [encodeBody, Attempt.log_bind chosen, written]
  rfl

/-! ### The message -/

namespace Envelope

variable {c : Config} {sender : Option Phone} {receivers : List Phone} {text : String}

/-- A message without a sender reports that the phone is missing, and no more. -/
theorem events_address_of_none (h : (sender <|> c.defaultFrom) = none) :
    (address c sender receivers text).events = [.phoneMissing] := by
  rw [address, h]
  rfl

/-- A message with an envelope reports the events of its parts, and one for the whole. -/
theorem events_address_of_ok {e : Envelope}
    (h : (address c sender receivers text).result = .ok e) :
    (address c sender receivers text).events =
      (c.sender.classify (sender <|> c.defaultFrom)).events ++
      (recipients c receivers).flatMap (fun phone => (c.recipient.classify (some phone)).events) ++
      (encodeBody text).events ++
      [.addressed e.source e.destinations.length e.coding] := by
  obtain ⟨source, destinations, body⟩ := address_result_eq_ok_iff.1 h
  rw [address, Attempt.events_bind source,
    Attempt.events_bind (Attempt.result_mapM_eq_ok_iff.2 destinations),
    Attempt.events_mapM destinations, Attempt.events_bind body]
  simp only [List.append_assoc]
  rfl

/-- A message with an envelope leaves the logs of its parts, and a line for the whole. -/
theorem log_address_of_ok {e : Envelope} (h : (address c sender receivers text).result = .ok e) :
    (address c sender receivers text).log =
      (c.sender.classify (sender <|> c.defaultFrom)).log ++
      (recipients c receivers).flatMap (fun phone => (c.recipient.classify (some phone)).log) ++
      (encodeBody text).log ++
      [(.debug, (Event.addressed e.source e.destinations.length e.coding).message)] := by
  rw [Attempt.log, events_address_of_ok h, List.map_append, List.map_append, List.map_append,
    List.map_flatMap]
  rfl

/-- **The log of a message is a faithful account of it.** A message that is refused leaves one
warning and nothing else. A message with an envelope leaves, in this order, the log of the
classification of its source, those of its destinations, the first character that is not in the
alphabet if and only if the coding is that of UTF-16 units, the count of characters in the text and
of octets in the body, and the source with the count of destinations. The log of a classification in
turn tells which rules were tried and what came of it. Each line says in words what it is about, and
says it of no other event. -/
theorem address_log (c : Config) (sender : Option Phone) (receivers : List Phone) (text : String) :
    (∀ error, (address c sender receivers text).result = .error error →
      (address c sender receivers text).log = [(.warn, Event.phoneMissing.message)]) ∧
    (∀ e, (address c sender receivers text).result = .ok e →
      ∃ phone naming, (sender <|> c.defaultFrom) = some phone ∧ e.coding.Names text naming ∧
        (address c sender receivers text).log =
          (c.sender.classify (some phone)).log ++
          (recipients c receivers).flatMap (fun phone => (c.recipient.classify (some phone)).log) ++
          naming ++
          [(.trace, (Event.encoded text.toList.length e.coding e.payload.length).message),
            (.debug, (Event.addressed e.source e.destinations.length e.coding).message)]) ∧
    (∀ (r : Rules) phone, ∃ a, (r.classify (some phone)).result = .ok a ∧
      r.Reports phone a (r.classify (some phone)).log) ∧
    ∀ event : Event, event.Tells event.message ∧
      ∀ other : Event, event.message = other.message ↔ event.told = other.told := by
  refine ⟨fun error h => ?_, fun e h => ?_, Rules.reports_classify,
    fun event => ⟨event.tells_message, fun other => Event.message_eq_iff⟩⟩
  · rw [Attempt.log, events_address_of_none (address_result_eq_error_iff.1 h).1]
    rfl
  · obtain ⟨-, -, body⟩ := address_result_eq_ok_iff.1 h
    obtain ⟨naming, names, written⟩ := log_encodeBody body
    rcases given : (sender <|> c.defaultFrom) with _ | phone
    · rw [address_result_of_none given] at h
      cases h
    · refine ⟨phone, naming, rfl, names, ?_⟩
      rw [log_address_of_ok h, given, written]
      simp only [List.append_assoc, List.cons_append, List.nil_append]

/-- A message without a sender, and one with a default sender, whose number is too long for a short
code, with an empty recipient and with a text that needs UTF-16 units. -/
theorem address_log_default :
    (∃ error, (address .standard none [] "").result = .error error) ∧
    (address .standard none [] "").log =
      [(.warn, "Rejecting address classification without a phone number")] ∧
    (∃ e, (address { Config.standard with defaultFrom := some (.ofString "+123456") } none
      [.ofString "", .ofString "A"] "€ç").result = .ok e) ∧
    (address { Config.standard with defaultFrom := some (.ofString "+123456") } none
      [.ofString "", .ofString "A"] "€ç").log =
      [(.trace, "Checking alphanumeric rule"),
        (.trace, "Checking short code rule (max 5 digits)"),
        (.trace, "Checking international rule"),
        (.debug, "Classified \"+123456\" as TON international (1), NPI ISDN/telephone (1)"),
        (.trace, "Empty phone number, using default addressing"),
        (.trace, "Checking international rule"),
        (.debug, "Classified \"A\" as TON unknown (0), NPI ISDN/telephone (1)"),
        (.debug, "Character 'ç' (U+00E7) needs Unicode encoding"),
        (.trace, "Encoded 2 chars as UCS-2 (4 bytes)"),
        (.debug, "Addressed message from +123456 [TON: international (1), NPI: ISDN/telephone " ++
          "(1)] to 2 recipient(s) using UCS-2")] := by
  have refused : (address .standard none [] "").result = .error .missingPhone := rfl
  have addressed : (address { Config.standard with defaultFrom := some (.ofString "+123456") } none
      [.ofString "", .ofString "A"] "€ç").result =
      .ok ⟨⟨some "+123456", .international, .isdnTelephone⟩,
        [.unaddressed, ⟨some "A", .unknown, .isdnTelephone⟩], .unicode,
        [0x20, 0xAC, 0x00, 0xE7]⟩ := by
    decide +kernel
  refine ⟨⟨_, refused⟩, (address_log _ _ _ _).1 _ refused, ⟨_, addressed⟩, ?_⟩
  obtain ⟨phone, naming, given, names, log⟩ := (address_log _ _ _ _).2.1 _ addressed
  cases given
  cases names with
  | character first =>
    have foreign : "€ç".toList.find? (fun c => !Alphabet.contains c) = some 'ç' := by
      decide +kernel
    cases foreign.symm.trans (find?_eq_some_iff_isFirstForeign.2 ⟨_, first⟩)
    rw [log]
    decide +kernel

end Envelope

end ShortMessage
