import ShortMessage.Json.Variant
import ShortMessage.Json.Writer
import ShortMessage.Numbering

/-!
# Types of number and numbering plans in documents

Both are written as the name of the choice.
-/

namespace ShortMessage

namespace TypeOfNumber

/-- Reads a type of number. -/
def reader : Json.Reader TypeOfNumber :=
  Json.variant (all.map fun t => (t.identifier, t))

/-- Writes a type of number. -/
def write (t : TypeOfNumber) : List Char :=
  Json.Literal.write t.identifier

end TypeOfNumber

namespace NumberingPlan

/-- Reads a numbering plan. -/
def reader : Json.Reader NumberingPlan :=
  Json.variant (all.map fun p => (p.identifier, p))

/-- Writes a numbering plan. -/
def write (p : NumberingPlan) : List Char :=
  Json.Literal.write p.identifier

end NumberingPlan

end ShortMessage
