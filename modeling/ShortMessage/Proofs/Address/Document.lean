import ShortMessage.Address.Document
import ShortMessage.Proofs.Rules.Document

/-!
# Writing phones, rules and addresses and reading them back

What is written is read back as it was: a phone without a number stays apart from the phone whose
number is empty, and rules are kept whether they are sound or not.

* `Json.variant_write` reads a choice that is written as its name.
* `Reader.readAll_written` goes from the front of a text to the whole of it.
* `ofJson_toJson_eq_ok` says that nothing is lost.
-/

namespace ShortMessage

namespace Json

variable {α : Type}

/-- A choice is read back from its name, if it is the first one of that name. -/
theorem variant_write {variants : List (String × α)} {name : String} {a : α}
    (found : variants.find? (·.1 == name) = some (name, a)) (rest : List Char) :
    (variant variants).run (Literal.write name ++ rest) = .ok (a, rest) := by
  have body := Literal.stringBody_written name rest
  have blank : isBlank '"' = false := rfl
  simp [variant, readVariant, Literal.write_eq_cons, skipBlank_cons blank, variantName, body,
    choose, found]

/-- A value that is read from the front of every text that starts with what was written is read from
the written text itself. -/
theorem Reader.readAll_written {p : Reader α} {a : α} {s : List Char}
    (read : ∀ rest, p.run (s ++ rest) = .ok (a, rest)) : p.readAll (String.ofList s) = .ok a := by
  have run := read []
  rw [List.append_nil] at run
  simp only [readAll, String.toList_ofList, run]
  rfl

end Json

open Json

namespace TypeOfNumber

theorem reader_write (t : TypeOfNumber) (rest : List Char) :
    reader.run (t.write ++ rest) = .ok (t, rest) := by
  have found : (all.map fun t => (t.identifier, t)).find? (·.1 == t.identifier) =
      some (t.identifier, t) := by
    cases t <;> rfl
  exact variant_write found rest

end TypeOfNumber

namespace NumberingPlan

theorem reader_write (p : NumberingPlan) (rest : List Char) :
    reader.run (p.write ++ rest) = .ok (p, rest) := by
  have found : (all.map fun p => (p.identifier, p)).find? (·.1 == p.identifier) =
      some (p.identifier, p) := by
    cases p <;> rfl
  exact variant_write found rest

end NumberingPlan

theorem Phone.ofJson_toJson (p : Phone) : ofJson p.toJson = .ok p := by
  refine Reader.readAll_written fun rest => ?_
  simp [reader, Reader.map, write, optional_string_writeOptional]

namespace Rules

/-- Rules that stand alone are read back. -/
theorem record_write (r : Rules) (rest : List Char) :
    record.reader.run (r.write ++ rest) = .ok (r, rest) := by
  refine reader_write rfl ?_ ?_ r rest
  · intro b rest
    simp [Reader.map, boolean_writeBool]
  · intro n rest stop
    simp [Reader.map, natural_writeNat n stop]

theorem ofJson_toJson (r : Rules) : ofJson r.toJson = .ok r :=
  Reader.readAll_written r.record_write

end Rules

namespace Address

/-- The members that an address is written as. -/
def writtenMembers (a : Address) : List (Record.WrittenMember Address) :=
  [⟨"number", writeOptional a.number, fun x => { x with number := a.number }⟩,
    ⟨"ton", a.ton.write, fun x => { x with ton := a.ton }⟩,
    ⟨"npi", a.plan.write, fun x => { x with plan := a.plan }⟩]

theorem writes_writtenMembers (a : Address) : ∀ m ∈ a.writtenMembers, record.Writes m := by
  simp only [writtenMembers, List.forall_mem_cons, List.not_mem_nil, false_implies, implies_true,
    and_true]
  refine ⟨⟨_, rfl, fun rest _ => ?_⟩, ⟨_, rfl, fun rest _ => ?_⟩, ⟨_, rfl, fun rest _ => ?_⟩⟩
  · simp [Reader.map, optional_string_writeOptional]
  · simp [Reader.map, TypeOfNumber.reader_write]
  · simp [Reader.map, NumberingPlan.reader_write]

/-- All three members are written, so the two that have to be given are there. -/
theorem record_write (a : Address) (rest : List Char) :
    record.reader.run (a.write ++ rest) = .ok (a, rest) := by
  have distinct : (a.writtenMembers.map Record.WrittenMember.name).Nodup := by
    simp [writtenMembers]
  exact Record.ofObject_written (writes_writtenMembers a) distinct rfl rest

theorem ofJson_toJson (a : Address) : ofJson a.toJson = .ok a :=
  Reader.readAll_written a.record_write

end Address

/-- **Documents of phones, rules and addresses lose nothing.** Each is read back as it was written:
every phone, with or without a number, all rules, sound or not, and every address. -/
theorem ofJson_toJson_eq_ok :
    (∀ p : Phone, Phone.ofJson p.toJson = .ok p) ∧
    (∀ r : Rules, Rules.ofJson r.toJson = .ok r) ∧
    ∀ a : Address, Address.ofJson a.toJson = .ok a :=
  ⟨Phone.ofJson_toJson, Rules.ofJson_toJson, Address.ofJson_toJson⟩

end ShortMessage
