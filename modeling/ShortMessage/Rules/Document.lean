import ShortMessage.Json.Record
import ShortMessage.Json.Writer
import ShortMessage.Rules

/-!
# Rules in documents

Rules are an object with three switches and the limit of the short code rule. Whatever is left out
stays as it was at the start of reading. There are two ways to read rules:

* `Rules.record` reads rules that stand alone. They start as those of a sender, every field that is
  given has a value, and members of other names are passed over.
* `Rules.overrides` reads rules that are laid over given ones. A null leaves a field as it was, and
  members of other names are refused.
-/

namespace ShortMessage.Rules

/-- The fields of rules, with the ways to read a switch and the limit. None leaves a field as it
was. -/
def fields (switch : Json.Reader (Option Bool)) (limit : Json.Reader (Option UInt64)) :
    List (Json.Field Rules) :=
  [{ name := "alphanumeric"
     required := false
     edit := switch.map fun b r => { r with alphanumeric := b.getD r.alphanumeric } },
   { name := "short_code"
     required := false
     edit := switch.map fun b r => { r with shortCode := b.getD r.shortCode } },
   { name := "international"
     required := false
     edit := switch.map fun b r => { r with international := b.getD r.international } },
   { name := "short_code_max_length"
     required := false
     edit := limit.map fun n r => { r with shortCodeLimit := n.getD r.shortCodeLimit } }]

/-- What rules that stand alone are read as. -/
def record : Json.Record Rules where
  title := "RuleSet"
  start := sender
  fields := fields (Json.boolean.map some) (Json.natural.map some)
  closed := false
  whole := false

/-- What rules that are laid over given ones are read as. -/
def overrides (base : Rules) : Json.Record Rules where
  title := "RuleSetOverrides"
  start := base
  fields := fields (Json.optional Json.boolean) (Json.optional Json.natural)
  closed := true
  whole := false

/-- Writes rules. -/
def write (r : Rules) : List Char :=
  Json.writeObject
    [("alphanumeric", Json.writeBool r.alphanumeric), ("short_code", Json.writeBool r.shortCode),
      ("international", Json.writeBool r.international),
      ("short_code_max_length", Json.writeNat r.shortCodeLimit.toNat)]

/-- The document of rules. -/
def toJson (r : Rules) : String :=
  String.ofList r.write

/-- The rules of a document that stands alone. -/
def ofJson (text : String) : Except Json.Fault Rules :=
  record.reader.readAll text

end ShortMessage.Rules
