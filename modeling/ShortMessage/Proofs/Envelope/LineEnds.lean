import ShortMessage.Proofs.Envelope.Log
import ShortMessage.Proofs.Text.LineEnds

/-!
# Line ends in what is reported

A reader of reports takes every line for an event. So a line end in a number must not reach the text
of an event as it is: quotes write it with a backslash. Only the event of a whole message shows a
number without quotes, that of its source.

* `Event.not_breaks_message` says that the text of every other event stands on one line, and
  `Event.breaks_message_addressed` when that of this event does not.
* `Attempt.OnLines` says so of everything that an attempt reports.
* `Envelope.breaks_address_iff` says which messages report a line end, and where.
-/

namespace ShortMessage

open Text

/-! ### What is shown -/

/-- A label on one line may have a code behind it. -/
theorem not_breaks_coded {label : String} (h : ¬ Breaks label) (code : ℕ) :
    ¬ Breaks (label ++ " (" ++ toString code ++ ")") := by
  have opened := not_breaks_append h (by decide : ¬ Breaks " (")
  exact not_breaks_append (not_breaks_append opened (not_breaks_toString code)) (by decide)

theorem TypeOfNumber.not_breaks_display (t : TypeOfNumber) : ¬ Breaks t.display := by
  have label : ¬ Breaks t.label := by cases t <;> decide
  exact not_breaks_coded label _

theorem NumberingPlan.not_breaks_display (p : NumberingPlan) : ¬ Breaks p.display := by
  have label : ¬ Breaks p.label := by cases p <;> decide
  exact not_breaks_coded label _

theorem Coding.not_breaks_label (coding : Coding) : ¬ Breaks coding.label := by
  cases coding <;> decide

theorem Rules.not_breaks_describe (r : Rules) : ¬ Breaks r.describe := by
  have switch : ∀ b, ¬ Breaks (Rules.describeSwitch b) := by decide
  unfold describe
  refine not_breaks_append (not_breaks_append ?_ (not_breaks_toString _)) (by decide)
  refine not_breaks_append (not_breaks_append ?_ (switch _)) (by decide)
  refine not_breaks_append (not_breaks_append ?_ (switch _)) (by decide)
  refine not_breaks_append (not_breaks_append ?_ (switch _)) (by decide)
  decide

/-- An address is shown with its number as it is. -/
theorem Address.breaks_display_iff {a : Address} :
    Breaks a.display ↔ ∃ number, a.number = some number ∧ Breaks number := by
  rw [display, breaks_append_left (by decide), breaks_append_left a.plan.not_breaks_display,
    breaks_append_left (by decide), breaks_append_left a.ton.not_breaks_display,
    breaks_append_left (by decide)]
  cases a.number with
  | none =>
    have mark : ¬ Breaks (Phone.display ⟨none⟩) := by decide
    simp [mark]
  | some number => simp [Phone.display]

namespace Event

variable {e : Event}

/-- What tells an event, if not that of a whole message, stands on one line. -/
theorem not_breaks_of_tells {text : String} (h : e.Tells text)
    (other : ∀ source recipients coding, e ≠ .addressed source recipients coding) :
    ¬ Breaks text := by
  cases h with
  | phoneMissing | phoneEmpty | alphanumericTried | internationalTried => decide
  | shortCodeTried =>
    exact not_breaks_append (not_breaks_append (by decide) (not_breaks_toString _)) (by decide)
  | @classified number quoted ton plan shown =>
    refine not_breaks_append (not_breaks_append ?_ (by decide)) plan.not_breaks_display
    refine not_breaks_append (not_breaks_append ?_ (by decide)) ton.not_breaks_display
    exact not_breaks_append (by decide) (shown.not_breaks rfl)
  | unicodeNeeded shown code =>
    refine not_breaks_append (not_breaks_append ?_ code.not_breaks) (by decide)
    exact not_breaks_append (not_breaks_append (by decide) (shown.not_breaks rfl)) (by decide)
  | @encoded characters octets coding =>
    refine not_breaks_append (not_breaks_append ?_ (not_breaks_toString _)) (by decide)
    refine not_breaks_append (not_breaks_append ?_ coding.not_breaks_label) (by decide)
    exact not_breaks_append (not_breaks_append (by decide) (not_breaks_toString _)) (by decide)
  | @addressed source number recipients coding => exact absurd rfl (other source recipients coding)
  | @loaded sender recipient =>
    refine not_breaks_append (not_breaks_append ?_ (by decide)) recipient.not_breaks_describe
    exact not_breaks_append (by decide) sender.not_breaks_describe

/-- Every event but that of a whole message stands on one line. -/
theorem not_breaks_message
    (other : ∀ source recipients coding, e ≠ .addressed source recipients coding) :
    ¬ Breaks e.message :=
  not_breaks_of_tells e.tells_message other

/-- The event of a whole message has the line ends of the number of its source. -/
theorem breaks_message_addressed {source : Address} {recipients : ℕ} {coding : Coding} :
    Breaks (addressed source recipients coding).message ↔
      ∃ number, source.number = some number ∧ Breaks number := by
  rw [message_addressed, breaks_append_left coding.not_breaks_label, breaks_append_left (by decide),
    breaks_append_left (not_breaks_toString _), breaks_append_left (by decide),
    breaks_append_right (by decide), Address.breaks_display_iff]

end Event

/-! ### What is reported -/

/-- Everything that an attempt reports stands on one line. -/
def Attempt.OnLines {α : Type} (x : Attempt α) : Prop :=
  ∀ event ∈ x.events, ¬ Breaks event.message

theorem Attempt.onLines_iff {α : Type} {x : Attempt α} :
    x.OnLines ↔ ∀ line ∈ x.log, ¬ Breaks line.2 := by
  rw [OnLines, log, List.forall_mem_map]

/-- A classification quotes the number, whatever it is. -/
theorem Rules.onLines_classify (r : Rules) (phone : Option Phone) : (r.classify phone).OnLines := by
  cases phone with
  | none =>
    intro event member
    rw [List.mem_singleton.1 member]
    exact Event.not_breaks_message nofun
  | some phone =>
    obtain ⟨a, -, reports⟩ := r.reports_classify phone
    rw [Attempt.onLines_iff]
    generalize (r.classify (some phone)).log = log at reports
    intro line member
    cases reports with
    | empty =>
      rw [List.mem_singleton.1 member]
      exact Event.not_breaks_message nofun
    | numbered =>
      rcases List.mem_append.1 member with tried | outcome
      · obtain ⟨rule, -, rfl⟩ := List.mem_map.1 tried
        exact Event.not_breaks_message nofun
      · rw [List.mem_singleton.1 outcome]
        exact Event.not_breaks_message nofun

theorem Coding.Names.not_breaks {text : String} {coding : Coding} {naming : List (Level × String)}
    (h : coding.Names text naming) : ∀ line ∈ naming, ¬ Breaks line.2 := by
  intro line member
  cases h with
  | nothing => cases member
  | character =>
    rw [List.mem_singleton.1 member]
    exact Event.not_breaks_message nofun

theorem Coding.onLines_ofText (text : String) : (ofText text).OnLines := by
  obtain ⟨coding, -, names⟩ := names_ofText text
  exact Attempt.onLines_iff.2 names.not_breaks

theorem onLines_encodeBody (text : String) : (encodeBody text).OnLines := by
  obtain ⟨⟨coding, bytes⟩, body⟩ := exists_encodeBody text
  obtain ⟨naming, names, log⟩ := log_encodeBody body
  rw [Attempt.onLines_iff, log]
  intro line member
  rcases List.mem_append.1 member with chosen | written
  · exact names.not_breaks line chosen
  · rw [List.mem_singleton.1 written]
    exact Event.not_breaks_message nofun

/-- An address has a number if and only if its phone has one that is not empty. -/
theorem Rules.Reports.number_eq_some_iff {r : Rules} {phone : Phone} {a : Address}
    {log : List (Level × String)} (h : r.Reports phone a log) {number : String} :
    a.number = some number ↔ phone = .ofString number ∧ number ≠ "" := by
  cases h with
  | empty blank =>
    constructor
    · rintro ⟨⟩
    · rintro ⟨rfl, characters⟩
      exact absurd (by simpa using blank) characters
  | numbered characters =>
    constructor
    · rintro ⟨⟩
      exact ⟨rfl, characters⟩
    · rintro ⟨same, -⟩
      cases same
      rfl

namespace Envelope

variable {c : Config} {sender : Option Phone} {receivers : List Phone} {text : String}

/-- Before the event of the whole message everything stands on one line. -/
theorem eq_addressed_of_breaks {event : Event}
    (member : event ∈ (address c sender receivers text).events) (breaks : Breaks event.message) :
    ∃ e, (address c sender receivers text).result = .ok e ∧
      event = .addressed e.source e.destinations.length e.coding := by
  rcases given : (sender <|> c.defaultFrom) with _ | phone
  · rw [events_address_of_none given, List.mem_singleton] at member
    rw [member] at breaks
    exact absurd breaks (Event.not_breaks_message nofun)
  · have addressed : ∃ e, (address c sender receivers text).result = .ok e :=
      exists_address_of_some given
    obtain ⟨e, he⟩ := addressed
    rw [events_address_of_ok he] at member
    simp only [List.mem_append, List.mem_flatMap, List.mem_singleton] at member
    rcases member with ((source | ⟨phone, -, destination⟩) | body) | whole
    · exact absurd breaks (Rules.onLines_classify _ _ _ source)
    · exact absurd breaks (Rules.onLines_classify _ _ _ destination)
    · exact absurd breaks (onLines_encodeBody text _ body)
    · exact ⟨e, he, whole⟩

/-- The number of the source is that of the sender. -/
theorem number_source_eq_some_iff {e : Envelope} {number : String}
    (h : (address c sender receivers text).result = .ok e) :
    e.source.number = some number ↔
      (sender <|> c.defaultFrom) = some (.ofString number) ∧ number ≠ "" := by
  obtain ⟨source, -, -⟩ := address_result_eq_ok_iff.1 h
  rcases given : (sender <|> c.defaultFrom) with _ | phone
  · rw [address_result_of_none given] at h
    cases h
  · obtain ⟨a, classified, reports⟩ := c.sender.reports_classify phone
    rw [given, classified] at source
    cases source
    rw [reports.number_eq_some_iff, Option.some.injEq]

/-- **Only the event of a whole message can stand on more than one line.** Whatever the numbers and
the text are, no event of a classification, of the choice of a coding and of the writing of a body
has a line end in its text. Of the events of a message only the last one can have one, and it does
if and only if the number of the sender, given or default, has one. -/
theorem breaks_address_iff (c : Config) (sender : Option Phone) (receivers : List Phone)
    (text : String) :
    (∀ (r : Rules) phone, (r.classify phone).OnLines) ∧ (Coding.ofText text).OnLines ∧
    (encodeBody text).OnLines ∧
    (∀ event ∈ (address c sender receivers text).events, Breaks event.message →
      ∃ e, (address c sender receivers text).result = .ok e ∧
        event = .addressed e.source e.destinations.length e.coding) ∧
    ((∃ event ∈ (address c sender receivers text).events, Breaks event.message) ↔
      ∃ number, (sender <|> c.defaultFrom) = some (.ofString number) ∧ Breaks number) := by
  refine ⟨Rules.onLines_classify, Coding.onLines_ofText text, onLines_encodeBody text,
    fun event member breaks => eq_addressed_of_breaks member breaks, ?_, ?_⟩
  · rintro ⟨event, member, breaks⟩
    obtain ⟨e, he, rfl⟩ := eq_addressed_of_breaks member breaks
    obtain ⟨number, numbered, ends⟩ := Event.breaks_message_addressed.1 breaks
    exact ⟨number, ((number_source_eq_some_iff he).1 numbered).1, ends⟩
  · rintro ⟨number, given, ends⟩
    have addressed : ∃ e, (address c sender receivers text).result = .ok e :=
      exists_address_of_some given
    obtain ⟨e, he⟩ := addressed
    have characters : number ≠ "" := by
      rintro rfl
      revert ends
      decide
    have numbered := (number_source_eq_some_iff he).2 ⟨given, characters⟩
    -- the event of the whole message is the last one
    have last : Event.addressed e.source e.destinations.length e.coding ∈
        (address c sender receivers text).events := by
      rw [events_address_of_ok he]
      exact List.mem_append_right _ (List.mem_singleton_self _)
    exact ⟨_, last, Event.breaks_message_addressed.2 ⟨number, numbered, ends⟩⟩

/-- A line end in the default sender reaches the text of the last event. One in a recipient and one
in the text of the message do not. -/
theorem breaks_address_iff_default :
    (∃ event ∈ (address { Config.standard with defaultFrom := some (.ofString "\r") } none []
      "ç").events, Breaks event.message) ∧
    ¬ ∃ event ∈ (address .standard (some (.ofString "A")) [.ofString "\n"] "\r\nç").events,
      Breaks event.message := by
  have carriage : Breaks "\r" := by decide
  have letter : ¬ Breaks "A" := by decide
  refine ⟨(breaks_address_iff _ _ _ _).2.2.2.2.2 ⟨"\r", rfl, carriage⟩, fun breaks => ?_⟩
  obtain ⟨number, given, ends⟩ := (breaks_address_iff _ _ _ _).2.2.2.2.1 breaks
  cases given
  exact letter ends

/-- Not every message is reported on lines of its own: the number of its sender is shown as it
is. -/
theorem not_onLines_address :
    ¬ ∀ (c : Config) (sender : Option Phone) (receivers : List Phone) (text : String),
      (address c sender receivers text).OnLines := by
  intro all
  have events : (address .standard (some (.ofString "A\nB")) [] "").events =
      [.ruleTried .alphanumeric 5, .classified "A\nB" .alphanumeric .unknown, .encoded 0 .gsm7 0,
        .addressed ⟨some "A\nB", .alphanumeric, .unknown⟩ 0 .gsm7] := by
    decide +kernel
  have last : Event.addressed ⟨some "A\nB", .alphanumeric, .unknown⟩ 0 .gsm7 ∈
      (address .standard (some (.ofString "A\nB")) [] "").events := by
    rw [events]
    simp
  have feed : Breaks "A\nB" := by decide
  exact all _ _ _ _ _ last (Event.breaks_message_addressed.2 ⟨"A\nB", rfl, feed⟩)

end Envelope

end ShortMessage
