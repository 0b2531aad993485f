import ShortMessage.Json.Fault

/-!
# Errors

Every phone and every text can be sent. What can go wrong is that no phone was given at all, that a
text is forced into an alphabet that lacks a character of it, or that a configuration is bad.
-/

namespace ShortMessage

/-- Why something was refused. -/
inductive Error
  /-- No phone was given where one is needed. -/
  | missingPhone
  /-- A character that is not in the seven-bit alphabet, and how many characters stand before it. -/
  | unrepresentable (character : Char) (position : Nat)
  /-- The short code rule is on and allows no digit. -/
  | deadShortCodeRule
  /-- A configuration document that cannot be read. -/
  | badDocument (fault : Json.Fault)
  deriving DecidableEq, Repr

/-- The report on an error. -/
def Error.message : Error → String
  | missingPhone => "Invalid argument: phone number is required"
  | unrepresentable c position =>
    "Character " ++ Text.quoteChar c ++ " at position " ++ toString position ++
      " is not in the GSM 7-bit alphabet"
  | deadShortCodeRule =>
    "Invalid configuration: short_code_max_length must be at least 1 " ++
      "when the short code rule is enabled"
  | badDocument fault => "Configuration error: " ++ fault.message

end ShortMessage
