import ShortMessage.Attempt
import ShortMessage.Body.Septets

/-!
# Choosing a coding and writing a body

A text is written in septets if all its characters are in the seven-bit alphabet, and else in UTF-16
units.

* `Coding.encode` writes a text in a given coding.
* `Coding.ofText` chooses the coding, and reports the character that rules out septets.
* `encodeBody` does both.
-/

namespace ShortMessage

/-- The octets of a text in a coding. -/
def Coding.encode (coding : Coding) (text : String) : Except Error (List UInt8) :=
  match coding with
  | gsm7 => Septets.encode text.toList
  | unicode => .ok (Units.encode text.toList)

/-- The coding of a text: septets, unless a character is not in the alphabet. -/
def Coding.ofText (text : String) : Attempt Coding :=
  match text.toList.find? fun c => !Alphabet.contains c with
  | none => pure .gsm7
  | some c => do
    Attempt.report (.unicodeNeeded c)
    pure .unicode

/-- The coding of a text and its octets in it. -/
def encodeBody (text : String) : Attempt (Coding × List UInt8) := do
  let coding ← Coding.ofText text
  let bytes ← Attempt.ofExcept (coding.encode text)
  Attempt.report (.encoded text.toList.length coding bytes.length)
  pure (coding, bytes)

end ShortMessage
