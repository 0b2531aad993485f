import Mathlib.Tactic
import ShortMessage.Body.Encoding

/-!
# UTF-16 units and the texts they spell

A character is spelled by one unit with its code, or by a pair of units for the upper and the lower
ten bits of what its code is above U+FFFF. No code of a character is half of a pair, so a reader is
never in doubt where a character starts, and writing a text and reading octets undo each other.

* `Units.Spells` says which units spell a character; `Units.spells_iff` that it has one spelling.
* `Units.IsWellFormed` are the units without a lone half of a pair.
* `Units.encode_unicode_bijective` says that writing is a bijection between all texts and the octets
  of well-formed units.
-/

namespace ShortMessage.Units

variable {c : Char} {cs : List Char} {u v : UInt16} {units rest : List UInt16} {bytes : List UInt8}

/-! ### Codes and units as numbers -/

/-- A number that is no half of a pair, and not too large, is the code of a character. -/
theorem toNat_ofNat {n : ℕ} (h : n.isValidChar) : (Char.ofNat n).toNat = n := by
  rw [Char.ofNat, dif_pos h]
  rfl

theorem toNat_toUInt8 {n : ℕ} (h : n < 0x100) : n.toUInt8.toNat = n :=
  UInt8.toNat_ofNat_of_lt' h

theorem toNat_toUInt16 {n : ℕ} (h : n < 0x10000) : n.toUInt16.toNat = n :=
  UInt16.toNat_ofNat_of_lt' h

theorem isLeading_iff : isLeading u = true ↔ ∃ x < 0x400, u.toNat = 0xD800 + x := by
  simp only [isLeading, Bool.and_eq_true, decide_eq_true_eq]
  constructor
  · rintro ⟨le, lt⟩
    exact ⟨u.toNat - 0xD800, by omega, by omega⟩
  · rintro ⟨x, hx, h⟩
    omega

theorem isTrailing_iff : isTrailing u = true ↔ ∃ y < 0x400, u.toNat = 0xDC00 + y := by
  simp only [isTrailing, Bool.and_eq_true, decide_eq_true_eq]
  constructor
  · rintro ⟨le, lt⟩
    exact ⟨u.toNat - 0xDC00, by omega, by omega⟩
  · rintro ⟨y, hy, h⟩
    omega

theorem isTrailing_of_isLeading (h : isLeading u = true) : isTrailing u = false := by
  obtain ⟨x, hx, hu⟩ := isLeading_iff.1 h
  rw [← Bool.not_eq_true, isTrailing_iff]
  rintro ⟨y, hy, hv⟩
  omega

/-- The units that can stand alone are those with the code of a character. -/
theorem isValidChar_iff :
    u.toNat.isValidChar ↔ isTrailing u = false ∧ isLeading u = false := by
  have lt : u.toNat < 0x10000 := u.toNat_lt
  simp only [← Bool.not_eq_true, isLeading, isTrailing, Bool.and_eq_true, decide_eq_true_eq]
  constructor
  · rintro (h | h) <;> omega
  · rintro ⟨ht, hl⟩
    by_cases small : u.toNat < 0xD800
    · exact .inl small
    · exact .inr (by omega)

/-! ### Units of a character -/

/-- The units that spell a character. -/
inductive Spells (c : Char) : List UInt16 → Prop
  | single {u : UInt16} (code : c.toNat = u.toNat) : Spells c [u]
  | pair {u v : UInt16} {x y : ℕ} (hx : x < 0x400) (hy : y < 0x400)
      (leading : u.toNat = 0xD800 + x) (trailing : v.toNat = 0xDC00 + y)
      (code : c.toNat = 0x10000 + x * 0x400 + y) : Spells c [u, v]

theorem spells_ofChar (c : Char) : Spells c (ofChar c) := by
  unfold ofChar
  by_cases small : c.toNat < 0x10000
  · simp only [if_pos small]
    exact .single (toNat_toUInt16 small).symm
  · simp only [if_neg small]
    have valid : c.toNat.isValidChar := c.valid
    have top : c.toNat < 0x110000 := by rcases valid with h | h <;> omega
    refine .pair ?_ ?_ (toNat_toUInt16 ?_) (toNat_toUInt16 ?_) ?_ <;> omega

theorem spells_iff : Spells c units ↔ units = ofChar c := by
  refine ⟨fun h => ?_, fun h => h ▸ spells_ofChar c⟩
  unfold ofChar
  cases h with
  | @single u code =>
    have small : c.toNat < 0x10000 := code ▸ u.toNat_lt
    simp only [if_pos small]
    rw [code, Nat.toUInt16_eq, UInt16.ofNat_toNat]
  | @pair u v x y hx hy leading trailing code =>
    have large : ¬c.toNat < 0x10000 := by omega
    have upper : (c.toNat - 0x10000) / 0x400 = x := by omega
    have lower : (c.toNat - 0x10000) % 0x400 = y := by omega
    simp only [if_neg large]
    rw [upper, lower, ← leading, ← trailing]
    simp only [Nat.toUInt16_eq, UInt16.ofNat_toNat]

/-- A unit that is no half of a pair spells the character with its code. -/
theorem spells_ofNat_single (trailing : isTrailing u = false) (leading : isLeading u = false) :
    Spells (Char.ofNat u.toNat) [u] := by
  have valid : u.toNat.isValidChar := isValidChar_iff.2 ⟨trailing, leading⟩
  exact .single (toNat_ofNat valid)

/-- A pair spells the character whose code it gives. -/
theorem spells_ofNat_pair (leading : isLeading u = true) (trailing : isTrailing v = true) :
    Spells (Char.ofNat (0x10000 + (u.toNat - 0xD800) * 0x400 + (v.toNat - 0xDC00))) [u, v] := by
  obtain ⟨x, hx, hu⟩ := isLeading_iff.1 leading
  obtain ⟨y, hy, hv⟩ := isTrailing_iff.1 trailing
  rw [hu, hv, Nat.add_sub_cancel_left, Nat.add_sub_cancel_left]
  have valid : (0x10000 + x * 0x400 + y).isValidChar := .inr (by omega)
  exact .pair hx hy hu hv (toNat_ofNat valid)

/-- Reading takes the units of a character off the front, whatever follows. -/
theorem toChars?_append (h : Spells c units) (rest : List UInt16) :
    toChars? (units ++ rest) = (toChars? rest).map (c :: ·) := by
  cases h with
  | @single u code =>
    have valid : u.toNat.isValidChar := code ▸ c.valid
    obtain ⟨trailing, leading⟩ := isValidChar_iff.1 valid
    simp [toChars?.eq_def (u :: rest), trailing, leading, ← code]
  | @pair u v x y hx hy leading trailing code =>
    have first : isLeading u = true := isLeading_iff.2 ⟨x, hx, leading⟩
    have second : isTrailing v = true := isTrailing_iff.2 ⟨y, hy, trailing⟩
    simp [toChars?.eq_def (u :: v :: rest), isTrailing_of_isLeading first, first, second, leading,
      trailing, ← code]

/-- A text that is read is empty, or its first character is spelled by the units in front. -/
theorem toChars?_cases (h : toChars? units = some cs) :
    units = [] ∧ cs = [] ∨ ∃ c unit rest more, Spells c unit ∧ units = unit ++ rest ∧
      toChars? rest = some more ∧ cs = c :: more := by
  rw [toChars?.eq_def] at h
  split at h
  · exact .inl ⟨rfl, (Option.some.inj h).symm⟩
  · next u us =>
    split at h
    · cases h
    · next trailing =>
      split at h
      · next leading =>
        split at h
        · cases h
        · next v vs =>
          split at h
          · next second =>
            obtain ⟨more, hmore, rfl⟩ := Option.map_eq_some_iff.1 h
            exact .inr ⟨_, [u, v], vs, more, spells_ofNat_pair leading second, rfl, hmore, rfl⟩
          · cases h
      · next leading =>
        obtain ⟨more, hmore, rfl⟩ := Option.map_eq_some_iff.1 h
        rw [Bool.not_eq_true] at trailing leading
        exact .inr ⟨_, [u], us, more, spells_ofNat_single trailing leading, rfl, hmore, rfl⟩

/-! ### Units of a text -/

theorem toChars?_ofChars (cs : List Char) : toChars? (ofChars cs) = some cs := by
  induction cs with
  | nil => rfl
  | cons c cs ih =>
    rw [ofChars, List.flatMap_cons, toChars?_append (spells_ofChar c)]
    exact congrArg (Option.map _) ih

theorem ofChars_of_toChars? (h : toChars? units = some cs) : ofChars cs = units := by
  induction cs generalizing units with
  | nil =>
    rcases toChars?_cases h with ⟨rfl, -⟩ | ⟨_, _, _, _, -, -, -, nonempty⟩
    · rfl
    · cases nonempty
  | cons c cs ih =>
    rcases toChars?_cases h with ⟨-, empty⟩ | ⟨_, unit, rest, _, spelled, rfl, hrest, same⟩
    · cases empty
    · cases same
      rw [ofChars, List.flatMap_cons, ← spells_iff.1 spelled]
      exact congrArg (unit ++ ·) (ih hrest)

/-- Units in which every leading one has a trailing one behind it, and no trailing one stands
elsewhere. -/
inductive IsWellFormed : List UInt16 → Prop
  | nil : IsWellFormed []
  | single {u : UInt16} {rest : List UInt16} (trailing : isTrailing u = false)
      (leading : isLeading u = false) : IsWellFormed rest → IsWellFormed (u :: rest)
  | pair {u v : UInt16} {rest : List UInt16} (leading : isLeading u = true)
      (trailing : isTrailing v = true) : IsWellFormed rest → IsWellFormed (u :: v :: rest)

theorem exists_toChars?_append (h : Spells c units) (more : ∃ cs, toChars? rest = some cs) :
    ∃ cs, toChars? (units ++ rest) = some cs := by
  obtain ⟨cs, hcs⟩ := more
  exact ⟨c :: cs, by rw [toChars?_append h, hcs, Option.map_some]⟩

theorem exists_toChars?_of_isWellFormed (h : IsWellFormed units) :
    ∃ cs, toChars? units = some cs := by
  induction h with
  | nil => exact ⟨[], rfl⟩
  | single trailing leading _ ih =>
    exact exists_toChars?_append (spells_ofNat_single trailing leading) ih
  | pair leading trailing _ ih =>
    exact exists_toChars?_append (spells_ofNat_pair leading trailing) ih

theorem IsWellFormed.spells_append (wellFormed : IsWellFormed rest) (h : Spells c units) :
    IsWellFormed (units ++ rest) := by
  cases h with
  | @single u code =>
    have valid : u.toNat.isValidChar := code ▸ c.valid
    obtain ⟨trailing, leading⟩ := isValidChar_iff.1 valid
    exact .single trailing leading wellFormed
  | pair hx hy leading trailing code =>
    exact .pair (isLeading_iff.2 ⟨_, hx, leading⟩) (isTrailing_iff.2 ⟨_, hy, trailing⟩) wellFormed

theorem isWellFormed_ofChars (cs : List Char) : IsWellFormed (ofChars cs) := by
  induction cs with
  | nil => exact .nil
  | cons c cs ih => exact ih.spells_append (spells_ofChar c)

/-! ### Octets -/

theorem ofOctets?_octets (units : List UInt16) :
    ofOctets? (units.flatMap octets) = some units := by
  induction units with
  | nil => rfl
  | cons u units ih =>
    have lt : u.toNat < 0x10000 := u.toNat_lt
    have whole : u.toNat / 0x100 * 0x100 + u.toNat % 0x100 = u.toNat := Nat.div_add_mod' _ _
    rw [List.flatMap_cons, octets, List.cons_append, List.cons_append, List.nil_append, ofOctets?,
      ih, toNat_toUInt8 (by omega), toNat_toUInt8 (by omega), whole, Nat.toUInt16_eq,
      UInt16.ofNat_toNat, Option.map_some]

theorem octets_of_ofOctets? (h : ofOctets? bytes = some units) :
    units.flatMap octets = bytes := by
  fun_induction ofOctets? bytes generalizing units with
  | case1 =>
    cases h
    rfl
  | case2 => cases h
  | case3 high low rest ih =>
    obtain ⟨more, hmore, rfl⟩ := Option.map_eq_some_iff.1 h
    have hhigh : high.toNat < 0x100 := high.toNat_lt
    have hlow : low.toNat < 0x100 := low.toNat_lt
    have upper : (high.toNat * 0x100 + low.toNat) / 0x100 = high.toNat := by omega
    have lower : (high.toNat * 0x100 + low.toNat) % 0x100 = low.toNat := by omega
    rw [List.flatMap_cons, ih hmore, octets, toNat_toUInt16 (by omega), upper, lower]
    simp

theorem length_flatMap_octets (units : List UInt16) :
    (units.flatMap octets).length = 2 * units.length := by
  induction units with
  | nil => rfl
  | cons u units ih =>
    rw [List.flatMap_cons, List.length_append, ih, List.length_cons]
    show 2 + _ = _
    omega

/-! ### Writing and reading -/

theorem decode_eq_some_iff : decode bytes = some cs ↔ encode cs = bytes := by
  rw [decode, encode, Option.bind_eq_some_iff]
  constructor
  · rintro ⟨units, hunits, hcs⟩
    rw [ofChars_of_toChars? hcs, octets_of_ofOctets? hunits]
  · rintro rfl
    exact ⟨ofChars cs, ofOctets?_octets _, toChars?_ofChars cs⟩

theorem exists_encode_eq_iff :
    (∃ cs, encode cs = bytes) ↔ ∃ units, IsWellFormed units ∧ units.flatMap octets = bytes := by
  constructor
  · rintro ⟨cs, rfl⟩
    exact ⟨ofChars cs, isWellFormed_ofChars cs, rfl⟩
  · rintro ⟨units, wellFormed, rfl⟩
    obtain ⟨cs, hcs⟩ := exists_toChars?_of_isWellFormed wellFormed
    exact ⟨cs, by rw [encode, ofChars_of_toChars? hcs]⟩

/-- **Writing in units is a bijection between all texts and the octets of well-formed units.** Every
text is written, with two octets for each unit; reading is the inverse of writing; and the octets
that are written are those of well-formed units. -/
theorem encode_unicode_bijective :
    (∀ text, ∃ bytes length, Coding.unicode.encode text = .ok bytes ∧
      Coding.unicode.length? text = some length ∧ bytes.length = 2 * length) ∧
    (∀ text bytes, Coding.unicode.encode text = .ok bytes ↔ decode bytes = some text.toList) ∧
    ∀ bytes, (∃ text, Coding.unicode.encode text = .ok bytes) ↔
      ∃ units, IsWellFormed units ∧ units.flatMap octets = bytes := by
  have written : ∀ text bytes,
      Coding.unicode.encode text = .ok bytes ↔ encode text.toList = bytes :=
    fun text bytes => ⟨Except.ok.inj, congrArg Except.ok⟩
  refine ⟨fun text => ⟨_, _, rfl, rfl, length_flatMap_octets _⟩, fun text bytes => ?_,
    fun bytes => ?_⟩
  · rw [written, decode_eq_some_iff]
  · rw [← exists_encode_eq_iff]
    constructor
    · rintro ⟨text, h⟩
      exact ⟨text.toList, (written text bytes).1 h⟩
    · rintro ⟨cs, h⟩
      exact ⟨String.ofList cs, (written _ bytes).2 (by rw [String.toList_ofList, h])⟩

end ShortMessage.Units
