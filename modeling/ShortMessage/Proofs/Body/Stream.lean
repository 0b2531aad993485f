import ShortMessage.Proofs.Body.Septets

/-!
# Septet streams and the texts they spell

The octets of a body in septets fall into units: a septet of the base table, or the escape with a
septet of the extension table behind it. No character has two units and no unit two characters, so
writing a text and reading octets undo each other.

* `Alphabet.septet?_eq_some_iff` says that the base table can be searched in both directions;
  `Alphabet.extension?_eq_some_iff` and `Alphabet.extensionChar?_eq_some_iff` say so of the
  extension table.
* `Septets.IsStream` are the octets that are a sequence of units.
* `Septets.encode_gsm7_bijective` says that writing is a bijection between the texts that can be
  written and the streams.
-/

namespace ShortMessage

namespace Alphabet

variable {c : Char} {b : UInt8}

/-- A character of any slot but the one of the escape is found in that slot. -/
theorem septet?_of_mem_zipIdx :
    ∀ e ∈ baseTable.zipIdx, e.2 ≠ escape.toNat → septet? e.1 = some e.2.toUInt8 := by
  decide +kernel

/-- The extension table holds no character and no septet twice, and no character of the base
table. -/
theorem lookup_of_mem_extensionTable :
    ∀ e ∈ extensionTable,
      extension? e.1 = some e.2 ∧ extensionChar? e.2 = some e.1 ∧ septet? e.1 = none := by
  decide +kernel

theorem baseChar?_eq_some_iff :
    baseChar? b = some c ↔ b ≠ escape ∧ (c, b.toNat) ∈ baseTable.zipIdx := by
  rw [baseChar?, List.mem_zipIdx_iff_getElem?]
  by_cases h : b = escape <;> simp [h]

theorem exists_baseChar?_iff : (∃ c, baseChar? b = some c) ↔ b < 0x80 ∧ b ≠ escape := by
  rw [← Option.isSome_iff_exists, baseChar?]
  by_cases h : b = escape
  · simp [h]
  · simp [h, length_baseTable, UInt8.lt_iff_toNat_lt]

/-- What a search gives is made of an entry that it looks for. -/
theorem exists_mem_of_map_find? {α β : Type} {l : List α} {p : α → Bool} {f : α → β} {y : β}
    (h : (l.find? p).map f = some y) : ∃ e ∈ l, p e = true ∧ f e = y := by
  obtain ⟨e, found, rfl⟩ := Option.map_eq_some_iff.1 h
  exact ⟨e, List.mem_of_find?_eq_some found, List.find?_some found, rfl⟩

theorem septet?_eq_some_iff : septet? c = some b ↔ baseChar? b = some c := by
  rw [baseChar?_eq_some_iff]
  constructor
  · intro h
    obtain ⟨⟨d, i⟩, mem, hit, rfl⟩ := exists_mem_of_map_find? h
    simp only [Bool.and_eq_true, bne_iff_ne, beq_iff_eq] at hit
    obtain ⟨ne, rfl⟩ := hit
    have lt : i < 128 := by
      simpa [length_baseTable] using List.snd_lt_of_mem_zipIdx mem
    have same : i.toUInt8.toNat = i := UInt8.toNat_ofNat_of_lt' (Nat.lt_trans lt (by decide))
    show i.toUInt8 ≠ escape ∧ (d, i.toUInt8.toNat) ∈ _
    rw [same]
    exact ⟨fun h => ne (same ▸ congrArg UInt8.toNat h), mem⟩
  · rintro ⟨ne, mem⟩
    have found := septet?_of_mem_zipIdx _ mem fun h => ne (UInt8.toNat_inj.1 h)
    simpa using found

theorem extension?_eq_some_iff : extension? c = some b ↔ (c, b) ∈ extensionTable := by
  refine ⟨fun h => ?_, fun mem => (lookup_of_mem_extensionTable _ mem).1⟩
  obtain ⟨⟨d, x⟩, mem, hit, rfl⟩ := exists_mem_of_map_find? h
  have same : d = c := by simpa using hit
  exact same ▸ mem

theorem extensionChar?_eq_some_iff : extensionChar? b = some c ↔ (c, b) ∈ extensionTable := by
  refine ⟨fun h => ?_, fun mem => (lookup_of_mem_extensionTable _ mem).2.1⟩
  obtain ⟨⟨d, x⟩, mem, hit, rfl⟩ := exists_mem_of_map_find? h
  have same : x = b := by simpa using hit
  exact same ▸ mem

end Alphabet

namespace Septets

open Alphabet (escape baseChar? extensionChar? extensionTable)

variable {c : Char} {cs : List Char} {b : UInt8} {unit rest bytes : List UInt8} {position : ℕ}

/-! ### Units -/

/-- The unit of a character, said with the tables as a stream is read with them. -/
theorem ofChar?_eq_some_iff :
    ofChar? c = some unit ↔ (∃ b, baseChar? b = some c ∧ unit = [b]) ∨
      ∃ b, extensionChar? b = some c ∧ unit = [escape, b] := by
  simp only [← Alphabet.septet?_eq_some_iff, Alphabet.extensionChar?_eq_some_iff, ofChar?]
  cases base : Alphabet.septet? c with
  | some b =>
    -- a character of the base table is in no entry of the extension table
    have apart : ∀ x, (c, x) ∉ extensionTable := fun x mem => by
      simp [(Alphabet.lookup_of_mem_extensionTable _ mem).2.2] at base
    simp [apart, eq_comm]
  | none => simp [← Alphabet.extension?_eq_some_iff, eq_comm]

theorem ofChar?_of_baseChar? (h : baseChar? b = some c) : ofChar? c = some [b] :=
  ofChar?_eq_some_iff.2 (.inl ⟨b, h, rfl⟩)

theorem ofChar?_of_extensionChar? (h : extensionChar? b = some c) :
    ofChar? c = some [escape, b] :=
  ofChar?_eq_some_iff.2 (.inr ⟨b, h, rfl⟩)

theorem encodeFrom_cons_eq_ok_iff :
    encodeFrom position (c :: cs) = .ok bytes ↔
      ∃ unit more, ofChar? c = some unit ∧ encodeFrom (position + 1) cs = .ok more ∧
        bytes = unit ++ more := by
  rw [encodeFrom]
  cases ofChar? c with
  | none => simp
  | some unit => cases encodeFrom (position + 1) cs <;> simp [eq_comm]

/-- Reading takes the unit of a character off the front, whatever follows. -/
theorem decode_append (h : ofChar? c = some unit) (rest : List UInt8) :
    decode (unit ++ rest) = (decode rest).map (c :: ·) := by
  rcases ofChar?_eq_some_iff.1 h with ⟨b, base, rfl⟩ | ⟨b, extension, rfl⟩
  · have ne : b ≠ escape := (Alphabet.baseChar?_eq_some_iff.1 base).1
    rw [List.singleton_append, decode.eq_def]
    simp only [if_neg ne, base]
    cases decode rest <;> rfl
  · rw [List.cons_append, List.singleton_append, decode.eq_def]
    simp only [if_true, extension]
    cases decode rest <;> rfl

/-! ### Writing and reading -/

theorem decode_of_encodeFrom (h : encodeFrom position cs = .ok bytes) : decode bytes = some cs := by
  induction cs generalizing position bytes with
  | nil =>
    cases h
    rfl
  | cons c cs ih =>
    obtain ⟨unit, more, hc, hcs, rfl⟩ := encodeFrom_cons_eq_ok_iff.1 h
    rw [decode_append hc, ih hcs]
    rfl

theorem encodeFrom_of_decode (h : decode bytes = some cs) :
    encodeFrom position cs = .ok bytes := by
  -- the induction goes along the reading, which takes one unit at a time
  fun_induction decode bytes generalizing cs position with
  | case1 =>
    cases h
    rfl
  | case3 b rest c more hrest hc ih =>
    cases h
    exact encodeFrom_cons_eq_ok_iff.2
      ⟨[escape, b], rest, ofChar?_of_extensionChar? hc, ih hrest, rfl⟩
  | case5 b rest ne c more hrest hc ih =>
    cases h
    exact encodeFrom_cons_eq_ok_iff.2 ⟨[b], rest, ofChar?_of_baseChar? hc, ih hrest, rfl⟩
  | case2 | case4 | case6 => cases h

theorem encode_eq_ok_iff : encode cs = .ok bytes ↔ decode bytes = some cs :=
  ⟨decode_of_encodeFrom, encodeFrom_of_decode⟩

/-! ### Streams -/

/-- A sequence of units. A septet of the base table is below 0x80 and not the escape, and an escape
has a septet of the extension table behind it. -/
inductive IsStream : List UInt8 → Prop
  | nil : IsStream []
  | base {b : UInt8} {rest : List UInt8} (lt : b < 0x80) (ne : b ≠ escape) :
      IsStream rest → IsStream (b :: rest)
  | extension {c : Char} {b : UInt8} {rest : List UInt8} (mem : (c, b) ∈ extensionTable) :
      IsStream rest → IsStream (escape :: b :: rest)

theorem exists_decode_append (h : ofChar? c = some unit) (more : ∃ cs, decode rest = some cs) :
    ∃ cs, decode (unit ++ rest) = some cs := by
  obtain ⟨cs, hcs⟩ := more
  exact ⟨c :: cs, by rw [decode_append h, hcs, Option.map_some]⟩

theorem exists_decode_of_isStream (h : IsStream bytes) : ∃ cs, decode bytes = some cs := by
  induction h with
  | nil => exact ⟨[], rfl⟩
  | base lt ne _ ih =>
    obtain ⟨c, hc⟩ := Alphabet.exists_baseChar?_iff.2 ⟨lt, ne⟩
    exact exists_decode_append (ofChar?_of_baseChar? hc) ih
  | extension mem _ ih =>
    have hc := Alphabet.extensionChar?_eq_some_iff.2 mem
    exact exists_decode_append (ofChar?_of_extensionChar? hc) ih

theorem isStream_of_decode (h : decode bytes = some cs) : IsStream bytes := by
  fun_induction decode bytes generalizing cs with
  | case1 => exact .nil
  | case3 b rest c more hrest hc ih =>
    exact .extension (Alphabet.extensionChar?_eq_some_iff.1 hc) (ih hrest)
  | case5 b rest ne c more hrest hc ih =>
    exact .base (Alphabet.exists_baseChar?_iff.1 ⟨c, hc⟩).1 ne (ih hrest)
  | case2 | case4 | case6 => cases h

/-- **Writing in septets is a bijection between the texts that can be written and the streams.** Its
inverse is reading; the octets that are written are the streams; and no two texts are written as the
same octets. -/
theorem encode_gsm7_bijective :
    (∀ text bytes, Coding.gsm7.encode text = .ok bytes ↔ decode bytes = some text.toList) ∧
    (∀ bytes, (∃ text, Coding.gsm7.encode text = .ok bytes) ↔ IsStream bytes) ∧
    ∀ text other bytes, Coding.gsm7.encode text = .ok bytes →
      Coding.gsm7.encode other = .ok bytes → text = other := by
  have inverse : ∀ text bytes,
      Coding.gsm7.encode text = .ok bytes ↔ decode bytes = some text.toList :=
    fun text bytes => encode_eq_ok_iff
  refine ⟨inverse, fun bytes => ⟨?_, ?_⟩, fun text other bytes h same => ?_⟩
  · rintro ⟨text, h⟩
    exact isStream_of_decode ((inverse text bytes).1 h)
  · intro h
    obtain ⟨cs, hcs⟩ := exists_decode_of_isStream h
    refine ⟨String.ofList cs, (inverse _ bytes).2 ?_⟩
    rw [String.toList_ofList, hcs]
  · rw [inverse] at h same
    exact String.toList_injective (Option.some.inj (h.symm.trans same))

/-- A space is written as its own septet and not as the escape, whose slot holds a space too. -/
theorem encode_gsm7_bijective_space :
    Coding.gsm7.encode "€ €" = .ok [0x1B, 0x65, 0x20, 0x1B, 0x65] ∧
    decode [0x1B, 0x65, 0x20, 0x1B, 0x65] = some "€ €".toList ∧
    IsStream [0x1B, 0x65, 0x20, 0x1B, 0x65] ∧
    ∀ other, Coding.gsm7.encode other = .ok [0x1B, 0x65, 0x20, 0x1B, 0x65] → "€ €" = other := by
  have written : Coding.gsm7.encode "€ €" = .ok [0x1B, 0x65, 0x20, 0x1B, 0x65] := by
    decide +kernel
  exact ⟨written, (encode_gsm7_bijective.1 _ _).1 written,
    (encode_gsm7_bijective.2.1 _).1 ⟨_, written⟩,
    fun other => encode_gsm7_bijective.2.2 _ other _ written⟩

end Septets

end ShortMessage
