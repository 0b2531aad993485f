import ShortMessage.Address.Document
import ShortMessage.Config
import ShortMessage.Rules.Document

/-!
# Configurations in documents

A configuration is an object with the rules of both sides and the two default phones. Rules are laid
over the ready-made rules of their side, and a default phone that is null is absent.

* `Config.ofJson` reads a configuration; `Config.toJson` writes one.
* `Config.load` reads one, takes it only if its rules are sound, and reports it.
-/

namespace ShortMessage.Config

/-- The fields of a configuration. -/
def fields : List (Json.Field Config) :=
  [{ name := "sender"
     required := false
     edit := (Rules.overrides .sender).reader.map fun sender c => { c with sender } },
   { name := "recipient"
     required := false
     edit := (Rules.overrides .recipient).reader.map fun recipient c => { c with recipient } },
   { name := "default_from"
     required := false
     edit := (Json.optional Json.string).map fun number c =>
       { c with defaultFrom := number.map Phone.ofString } },
   { name := "default_to"
     required := false
     edit := (Json.optional Json.string).map fun number c =>
       { c with defaultTo := number.map Phone.ofString } }]

/-- What a configuration is read as. -/
def record : Json.Record Config where
  title := "RawAddressingConfig"
  start := standard
  fields := fields
  closed := true
  whole := false

/-- Writes a default phone, where absent and without a number look the same. -/
def writeDefault (phone : Option Phone) : List Char :=
  Json.writeOptional (phone.bind Phone.number)

/-- Writes a configuration. -/
def write (c : Config) : List Char :=
  Json.writeObject
    [("sender", c.sender.write), ("recipient", c.recipient.write),
      ("default_from", writeDefault c.defaultFrom), ("default_to", writeDefault c.defaultTo)]

/-- The document of a configuration. -/
def toJson (c : Config) : String :=
  String.ofList c.write

/-- The configuration of a document. -/
def ofJson (text : String) : Except Json.Fault Config :=
  record.reader.readAll text

/-- The configuration of a document, if its rules are sound. -/
def load (text : String) : Attempt Config := do
  let c ← Attempt.ofExcept ((ofJson text).mapError .badDocument)
  Attempt.ofExcept c.validate
  Attempt.report (.loaded c.sender c.recipient)
  pure c

/-- The configuration that is read from the document of a configuration. -/
def reload (c : Config) : Attempt Config :=
  load c.toJson

end ShortMessage.Config
