import ShortMessage.Attempt

/-!
# Configurations

A configuration has the rules for the two sides of a message, and may have a phone for a message
without a sender and one for a message without recipients.
-/

namespace ShortMessage

/-- What a message is addressed with. -/
structure Config where
  sender : Rules
  recipient : Rules
  defaultFrom : Option Phone
  defaultTo : Option Phone
  deriving DecidableEq, Repr

/-- The rules are sound, or else the error says why they are not. -/
def Rules.validate (r : Rules) : Except Error Unit :=
  if r.isSound then .ok () else .error .deadShortCodeRule

namespace Config

/-- The configuration of some rules, without default phones. -/
def ofRules (sender recipient : Rules) : Config := ⟨sender, recipient, none, none⟩

/-- The configuration of the ready-made rules. -/
def standard : Config := ofRules .sender .recipient

instance : Inhabited Config := ⟨standard⟩

/-- The rules of both sides are sound. -/
def validate (c : Config) : Except Error Unit := do
  c.sender.validate
  c.recipient.validate

/-- The configuration with the rules of its two sides exchanged. -/
def swap (c : Config) : Config :=
  { c with sender := c.recipient, recipient := c.sender }

end Config

end ShortMessage
