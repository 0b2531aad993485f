import ShortMessage.Body.Encoding
import ShortMessage.Classification
import ShortMessage.Config

/-!
# Envelopes

An envelope is a message with the addresses of its source and its destinations and with its body
written out. `Envelope.address` makes one from phones and a text: the default phones of the
configuration stand in for a missing sender and for an empty list of recipients.
-/

namespace ShortMessage

/-- A message ready to be sent. -/
structure Envelope where
  source : Address
  destinations : List Address
  coding : Coding
  payload : List UInt8
  deriving DecidableEq, Repr

namespace Envelope

/-- The recipients of a message: those that are given, or the default one if none is. -/
def recipients (c : Config) (receivers : List Phone) : List Phone :=
  if receivers.isEmpty then c.defaultTo.toList else receivers

/-- Addresses a message. -/
def address (c : Config) (sender : Option Phone) (receivers : List Phone) (text : String) :
    Attempt Envelope := do
  let source ← c.sender.classify (sender <|> c.defaultFrom)
  let destinations ← (recipients c receivers).mapM fun phone => c.recipient.classify (some phone)
  let (coding, payload) ← encodeBody text
  Attempt.report (.addressed source destinations.length coding)
  pure ⟨source, destinations, coding, payload⟩

/-- The length of the body in septets or units. -/
def length (e : Envelope) : Nat :=
  match e.coding with
  | .gsm7 => e.payload.length
  | .unicode => e.payload.length / 2

/-- Whether the body has room in one segment. -/
def fitsSingleSegment (e : Envelope) : Bool :=
  e.length ≤ e.coding.singleRoom

end Envelope

end ShortMessage
