import ShortMessage.Json.Record.Lemmas
import ShortMessage.Proofs.Json.Scalar
import ShortMessage.Rules.Document

/-!
# Reading written rules

Rules are written with all their fields, so whatever reading starts from, the written rules are what
comes out. This holds of both ways to read rules, since it needs only that a switch and a limit are
read back.
-/

namespace ShortMessage

namespace Json

/-- A value that does not start like a null is read as itself where a null may stand. -/
theorem optional_run_of_ne {α : Type} {p : Reader α} {s rest : List Char} {a : α}
    (hs : ∀ t, skipBlank s ≠ 'n' :: t) (ha : p.run s = .ok (a, rest)) :
    (optional p).run s = .ok (some a, rest) :=
  (readOptional_of_ne hs).trans (Reader.map_run_eq_ok_iff.2 ⟨a, ha, rfl⟩)

theorem optional_boolean_writeBool (b : Bool) (rest : List Char) :
    (optional boolean).run (writeBool b ++ rest) = .ok (some b, rest) := by
  refine optional_run_of_ne ?_ (boolean_writeBool b rest)
  intro t
  cases b <;> exact fun h => absurd (List.cons.inj h).1 (by decide)

theorem optional_natural_writeNat (n : UInt64) {rest : List Char} (stop : EndsNumeral rest) :
    (optional natural).run (writeNat n.toNat ++ rest) = .ok (some n, rest) := by
  refine optional_run_of_ne ?_ (natural_writeNat n stop)
  intro t
  obtain ⟨d, ds, hd⟩ := List.exists_cons_of_ne_nil (Nat.toDigits_ne_nil : Nat.toDigits 10 n.toNat ≠ [])
  have digit : d.isDigit = true :=
    Numeral.isDigit_of_mem_toDigits (by rw [hd]; exact List.mem_cons_self)
  rw [writeNat, hd, List.cons_append, skipBlank_cons (isBlank_of_isDigit digit)]
  exact fun h => ne_of_isDigit digit rfl (List.cons.inj h).1

end Json

namespace Rules

open Json

/-- The members that rules are written as. -/
def writtenMembers (r : Rules) : List (Record.WrittenMember Rules) :=
  [⟨"alphanumeric", writeBool r.alphanumeric, fun x => { x with alphanumeric := r.alphanumeric }⟩,
    ⟨"short_code", writeBool r.shortCode, fun x => { x with shortCode := r.shortCode }⟩,
    ⟨"international", writeBool r.international,
      fun x => { x with international := r.international }⟩,
    ⟨"short_code_max_length", writeNat r.shortCodeLimit.toNat,
      fun x => { x with shortCodeLimit := r.shortCodeLimit }⟩]

section

variable {record : Record Rules} {switch : Reader (Option Bool)} {limit : Reader (Option UInt64)}

theorem writes_writtenMembers (hf : record.fields = fields switch limit)
    (hs : ∀ b rest, switch.run (writeBool b ++ rest) = .ok (some b, rest))
    (hl : ∀ n rest, EndsNumeral rest →
      limit.run (writeNat (UInt64.toNat n) ++ rest) = .ok (some n, rest))
    (r : Rules) : ∀ m ∈ r.writtenMembers, record.Writes m := by
  unfold Record.Writes
  rw [hf]
  simp only [writtenMembers, List.forall_mem_cons, List.not_mem_nil, false_implies, implies_true,
    and_true]
  refine ⟨⟨_, rfl, fun rest _ => ?_⟩, ⟨_, rfl, fun rest _ => ?_⟩, ⟨_, rfl, fun rest _ => ?_⟩,
    ⟨_, rfl, fun rest stop => ?_⟩⟩
  · simp [Reader.map, hs]
  · simp [Reader.map, hs]
  · simp [Reader.map, hs]
  · simp [Reader.map, hl _ _ stop]

/-- Written rules are read back, whatever reading starts from. -/
theorem reader_write (hf : record.fields = fields switch limit)
    (hs : ∀ b rest, switch.run (writeBool b ++ rest) = .ok (some b, rest))
    (hl : ∀ n rest, EndsNumeral rest →
      limit.run (writeNat (UInt64.toNat n) ++ rest) = .ok (some n, rest))
    (r : Rules) (rest : List Char) : record.reader.run (r.write ++ rest) = .ok (r, rest) := by
  have complete : record.missing? (r.writtenMembers.map Record.WrittenMember.name).reverse =
      none := by
    rw [Record.missing?, hf]
    rfl
  have distinct : (r.writtenMembers.map Record.WrittenMember.name).Nodup := by
    simp [writtenMembers]
  exact Record.ofObject_written (writes_writtenMembers hf hs hl r) distinct complete rest

end

/-- Rules that are laid over others are read back, whatever they are laid over. -/
theorem overrides_write (base r : Rules) (rest : List Char) :
    (overrides base).reader.run (r.write ++ rest) = .ok (r, rest) :=
  reader_write rfl optional_boolean_writeBool (fun n _ stop => optional_natural_writeNat n stop) r
    rest

end Rules

end ShortMessage
