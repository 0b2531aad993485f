import ShortMessage.Body.Coding
import ShortMessage.Json.Variant

/-!
# Codings in documents

A coding is written as the name of the choice.
-/

namespace ShortMessage.Coding

/-- Reads a coding. -/
def reader : Json.Reader Coding :=
  Json.variant (all.map fun coding => (coding.identifier, coding))

/-- The coding of a document. -/
def ofJson (text : String) : Except Json.Fault Coding :=
  reader.readAll text

end ShortMessage.Coding
