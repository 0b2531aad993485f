import ShortMessage.Address
import ShortMessage.Json.Record
import ShortMessage.Numbering.Document

/-!
# Phones and addresses in documents

A phone is written as its number, or as a null if it holds none. An address is an object with the
number, the type and the plan. In an object the number may be left out; an array has to give all
three. Further members of an object are passed over.
-/

namespace ShortMessage

namespace Phone

/-- Reads a phone. -/
def reader : Json.Reader Phone :=
  (Json.optional Json.string).map Phone.mk

/-- Writes a phone. -/
def write (p : Phone) : List Char :=
  Json.writeOptional p.number

/-- The document of a phone. -/
def toJson (p : Phone) : String :=
  String.ofList p.write

/-- The phone of a document. -/
def ofJson (text : String) : Except Json.Fault Phone :=
  reader.readAll text

end Phone

namespace Address

/-- The fields of an address. -/
def fields : List (Json.Field Address) :=
  [{ name := "number"
     required := false
     edit := (Json.optional Json.string).map fun number a => { a with number } },
   { name := "ton"
     required := true
     edit := TypeOfNumber.reader.map fun ton a => { a with ton } },
   { name := "npi"
     required := true
     edit := NumberingPlan.reader.map fun plan a => { a with plan } }]

/-- What an address is read as. -/
def record : Json.Record Address where
  title := "AddressedPhoneNumber"
  start := ⟨none, .unknown, .unknown⟩
  fields := fields
  closed := false
  whole := true

/-- Writes an address. -/
def write (a : Address) : List Char :=
  Json.writeObject
    [("number", Json.writeOptional a.number), ("ton", a.ton.write), ("npi", a.plan.write)]

/-- The document of an address. -/
def toJson (a : Address) : String :=
  String.ofList a.write

/-- The address of a document. -/
def ofJson (text : String) : Except Json.Fault Address :=
  record.reader.readAll text

end Address

end ShortMessage
