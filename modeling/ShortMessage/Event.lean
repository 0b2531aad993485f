import ShortMessage.Address
import ShortMessage.Body.Coding
import ShortMessage.Rules
import ShortMessage.Text.Quoted

/-!
# Events

What is decided on the way to a message is reported by events. Each has a level and a text of one
sentence; a number in it is quoted, except in the event of a whole message, which shows the source as
it is.
-/

namespace ShortMessage

/-- How much an event matters, from the least to the most. -/
inductive Level
  | trace
  | debug
  | warn
  deriving DecidableEq, Repr

/-- The name of a level in a report. -/
def Level.label : Level → String
  | trace => "TRACE"
  | debug => "DEBUG"
  | warn => "WARN"

/-- Something that was decided. -/
inductive Event
  /-- No phone was given. -/
  | phoneMissing
  /-- An empty phone was given the address without a number. -/
  | phoneEmpty
  /-- A rule is tried, where `limit` is the most digits of a short code. -/
  | ruleTried (rule : Rule) (limit : UInt64)
  | classified (number : String) (ton : TypeOfNumber) (plan : NumberingPlan)
  /-- The first character of a text that is not in the seven-bit alphabet. -/
  | unicodeNeeded (character : Char)
  | encoded (characters : Nat) (coding : Coding) (octets : Nat)
  | addressed (source : Address) (recipients : Nat) (coding : Coding)
  | loaded (sender recipient : Rules)
  deriving DecidableEq, Repr

/-- A switch in a report. -/
def Rules.describeSwitch (b : Bool) : String :=
  if b then "true" else "false"

/-- Rules in a report, with every switch and the limit. -/
def Rules.describe (r : Rules) : String :=
  "RuleSet \x7b alphanumeric: " ++ describeSwitch r.alphanumeric ++
    ", short_code: " ++ describeSwitch r.shortCode ++
    ", international: " ++ describeSwitch r.international ++
    ", short_code_max_length: " ++ toString r.shortCodeLimit.toNat ++ " \x7d"

namespace Event

/-- How much an event matters. -/
def level : Event → Level
  | phoneMissing => .warn
  | phoneEmpty | ruleTried .. | encoded .. => .trace
  | classified .. | unicodeNeeded _ | addressed .. | loaded .. => .debug

/-- The text of an event. -/
def message : Event → String
  | phoneMissing => "Rejecting address classification without a phone number"
  | phoneEmpty => "Empty phone number, using default addressing"
  | ruleTried .alphanumeric _ => "Checking alphanumeric rule"
  | ruleTried .shortCode limit =>
    "Checking short code rule (max " ++ toString limit.toNat ++ " digits)"
  | ruleTried .international _ => "Checking international rule"
  | classified number ton plan =>
    "Classified " ++ Text.quote number ++ " as TON " ++ ton.display ++ ", NPI " ++ plan.display
  | unicodeNeeded c =>
    "Character " ++ Text.quoteChar c ++ " (U+" ++ String.ofList (Text.hexUpper 4 c.toNat) ++
      ") needs Unicode encoding"
  | encoded characters coding octets =>
    "Encoded " ++ toString characters ++ " chars as " ++ coding.label ++ " (" ++
      toString octets ++ " bytes)"
  | addressed source recipients coding =>
    "Addressed message from " ++ source.display ++ " to " ++ toString recipients ++
      " recipient(s) using " ++ coding.label
  | loaded sender recipient =>
    "Loaded addressing configuration: sender " ++ sender.describe ++ ", recipient " ++
      recipient.describe

end Event

end ShortMessage
