import ShortMessage.Proofs.Body.Units
import ShortMessage.Proofs.Json.Grammar

/-!
# Strings are read as the grammar spells them

* `Literal.body_of_spells`: what spells some characters is read as them, up to the closing quote.
* `Literal.spells_of_body`: what is read up to a closing quote spells what it is read as.
-/

namespace ShortMessage.Json.Literal

/-! ### Codes of characters -/

/-- The code of a character is no unit of a pair. -/
theorem isLeading_toNat (c : Char) : isLeading c.toNat = false := by
  have valid : c.toNat.isValidChar := c.valid
  simp only [isLeading, Bool.and_eq_false_iff, decide_eq_false_iff_not]
  rcases valid with h | h <;> omega

theorem isTrailing_toNat (c : Char) : isTrailing c.toNat = false := by
  have valid : c.toNat.isValidChar := c.valid
  simp only [isTrailing, Bool.and_eq_false_iff, decide_eq_false_iff_not]
  rcases valid with h | h <;> omega

theorem pairUp_eq {c : Char} {x y : ℕ} (code : c.toNat = 0x10000 + x * 0x400 + y) :
    pairUp (0xD800 + x) (0xDC00 + y) = c := by
  rw [pairUp, Nat.add_sub_cancel_left, Nat.add_sub_cancel_left, ← code, Char.ofNat_toNat]

theorem toNat_pairUp {x y : ℕ} (hx : x < 0x400) (hy : y < 0x400) :
    (pairUp (0xD800 + x) (0xDC00 + y)).toNat = 0x10000 + x * 0x400 + y := by
  rw [pairUp, Nat.add_sub_cancel_left, Nat.add_sub_cancel_left]
  exact Units.toNat_ofNat (.inr (by omega))

/-! ### Escapes -/

theorem hexDigit?_lt {c : Char} {n : ℕ} (h : hexDigit? c = some n) : n < 16 := by
  have zero : '0'.toNat = 48 := rfl
  have lower : 'a'.toNat = 97 := rfl
  have upper : 'A'.toNat = 65 := rfl
  unfold hexDigit? at h
  split at h
  · next range =>
    have := Option.some.inj h
    have : c.toNat ≤ '9'.toNat := range.2
    have nine : '9'.toNat = 57 := rfl
    omega
  · split at h
    · next range =>
      have := Option.some.inj h
      have : c.toNat ≤ 'f'.toNat := range.2
      have : 'f'.toNat = 102 := rfl
      omega
    · split at h
      · next range =>
        have := Option.some.inj h
        have : c.toNat ≤ 'F'.toNat := range.2
        have : 'F'.toNat = 70 := rfl
        omega
      · cases h

theorem SpellsUnit.lt {n : ℕ} {u : List Char} (h : SpellsUnit n u) : n < 0x10000 := by
  cases h with
  | mk first second third fourth =>
    have := hexDigit?_lt first
    have := hexDigit?_lt second
    have := hexDigit?_lt third
    have := hexDigit?_lt fourth
    omega

theorem hexUnit_of_spells {n : ℕ} {u : List Char} (h : SpellsUnit n u) (rest : List Char) :
    hexUnit (u ++ rest) = .ok (n, rest) := by
  cases h with
  | mk first second third fourth => simp [hexUnit, first, second, third, fourth]

theorem spells_of_hexUnit {s rest : List Char} {n : ℕ} (h : hexUnit s = .ok (n, rest)) :
    ∃ u, s = u ++ rest ∧ SpellsUnit n u := by
  unfold hexUnit at h
  split at h
  · next a b c d t =>
    split at h
    · next first second third fourth =>
      cases h
      exact ⟨[a, b, c, d], rfl, .mk first second third fourth⟩
    · cases h
  · cases h

theorem unitEscape_of_code {c : Char} {u : List Char} (h : SpellsUnit c.toNat u)
    (rest : List Char) : unitEscape (u ++ rest) = .ok (c, rest) := by
  simp [unitEscape, hexUnit_of_spells h, isLeading_toNat, isTrailing_toNat]

theorem unitEscape_of_pair {c : Char} {x y : ℕ} {u v : List Char}
    (leading : SpellsUnit (0xD800 + x) u) (trailing : SpellsUnit (0xDC00 + y) v)
    (hx : x < 0x400) (hy : y < 0x400) (code : c.toNat = 0x10000 + x * 0x400 + y)
    (rest : List Char) :
    unitEscape (u ++ '\\' :: 'u' :: (v ++ rest)) = .ok (c, rest) := by
  have noTrailing : isTrailing (0xD800 + x) = false := by simp [isTrailing]; omega
  have isLead : isLeading (0xD800 + x) = true := by simp [isLeading]; omega
  have isTrail : isTrailing (0xDC00 + y) = true := by simp [isTrailing]; omega
  simp [unitEscape, hexUnit_of_spells leading, noTrailing, isLead, trailingUnit,
    hexUnit_of_spells trailing, isTrail, pairUp_eq code]

/-- A trailing unit is behind a backslash and a `u`, and in its range. -/
theorem spells_of_trailingUnit {s rest : List Char} {n : ℕ}
    (h : trailingUnit s = .ok (n, rest)) :
    ∃ y v, y < 0x400 ∧ n = 0xDC00 + y ∧ s = '\\' :: 'u' :: (v ++ rest) ∧ SpellsUnit n v := by
  unfold trailingUnit at h
  split at h
  · split at h
    · cases h
    · next unit more hu =>
      split at h
      · next trailing =>
        cases h
        obtain ⟨v, rfl, spelled⟩ := spells_of_hexUnit hu
        simp only [isTrailing, Bool.and_eq_true, decide_eq_true_eq] at trailing
        exact ⟨n - 0xDC00, v, by omega, by omega, rfl, spelled⟩
      · cases h
  · cases h
  · cases h

/-- An escape with units is the code of its character, or the two units of it. -/
theorem unitEscape_cases {s rest : List Char} {c : Char} (h : unitEscape s = .ok (c, rest)) :
    (∃ u, s = u ++ rest ∧ SpellsUnit c.toNat u) ∨
    ∃ x y u v, x < 0x400 ∧ y < 0x400 ∧ c.toNat = 0x10000 + x * 0x400 + y ∧
      SpellsUnit (0xD800 + x) u ∧ SpellsUnit (0xDC00 + y) v ∧
      s = u ++ '\\' :: 'u' :: (v ++ rest) := by
  unfold unitEscape at h
  split at h
  · cases h
  · next unit more hu =>
    obtain ⟨u, rfl, spelled⟩ := spells_of_hexUnit hu
    split at h
    · cases h
    · next noTrailing =>
      split at h
      · next leading =>
        split at h
        · cases h
        · next second after ht =>
          -- `cases` would compute the pair, so the equation is taken apart by hand
          obtain ⟨rfl, rfl⟩ := Prod.mk.inj (Except.ok.inj h)
          obtain ⟨y, v, hy, rfl, rfl, trailing⟩ := spells_of_trailingUnit ht
          simp only [isLeading, Bool.and_eq_true, decide_eq_true_eq] at leading
          obtain ⟨x, rfl⟩ := Nat.exists_eq_add_of_le leading.1
          have hx : x < 0x400 := by omega
          have code := toNat_pairUp hx hy
          exact .inr ⟨x, y, u, v, hx, hy, code, spelled, trailing, rfl⟩
      · next noLeading =>
        obtain ⟨rfl, rfl⟩ := Prod.mk.inj (Except.ok.inj h)
        have short := spelled.lt
        have valid : unit.isValidChar := by
          simp only [isTrailing, isLeading, Bool.and_eq_true, decide_eq_true_eq, not_and,
            not_lt] at noTrailing noLeading
          by_cases low : unit < 0xD800
          · exact .inl low
          · exact .inr (by omega)
        exact .inl ⟨u, rfl, by rw [Units.toNat_ofNat valid]; exact spelled⟩

theorem escape_of_letter {c e : Char} (h : letterEscape? e = some c) (rest : List Char) :
    escape (e :: rest) = .ok (c, rest) := by
  have noUnit : e ≠ 'u' := by
    rintro rfl
    cases h
  simp [escape, noUnit, h]

/-- An escape and what spells the characters after it spell all of them. -/
theorem spells_of_escape {s ds cs rest : List Char} {c : Char}
    (h : escape s = .ok (c, cs ++ '"' :: rest)) (more : Spells ds cs) :
    ∃ all, '\\' :: s = all ++ '"' :: rest ∧ Spells (c :: ds) all := by
  unfold escape at h
  split at h
  · cases h
  · next e s =>
    split at h
    · next isUnit =>
      subst isUnit
      rcases unitEscape_cases h with
        ⟨u, rfl, code⟩ | ⟨x, y, u, v, hx, hy, code, leading, trailing, rfl⟩
      · exact ⟨_, by simp, .unit code more⟩
      · exact ⟨_, by simp, .pair leading trailing hx hy code more⟩
    · split at h
      · next escaped =>
        cases h
        exact ⟨_, rfl, .letter escaped more⟩
      · cases h

/-! ### Strings -/

/-- Plain characters spell themselves. -/
theorem spells_self {cs : List Char} (plain : ∀ c ∈ cs, c ≠ '"' ∧ c ≠ '\\' ∧ 0x20 ≤ c.toNat) :
    Spells cs cs := by
  induction cs with
  | nil => exact .nil
  | cons c cs ih =>
    obtain ⟨⟨quote, backslash, control⟩, more⟩ := List.forall_mem_cons.1 plain
    exact .plain quote backslash control (ih more)

/-- What spells some characters is read as them. -/
theorem body_of_spells {ds cs : List Char} (h : Spells ds cs) (rest : List Char) :
    body (cs ++ '"' :: rest) = .ok (ds, rest) := by
  -- each spelling of a character is read as it, in front of what is read from the rest
  induction h with
  | nil => exact body_quote rest
  | plain quote backslash control _ ih =>
    rw [List.cons_append, body_plain quote backslash (by omega), ih]
    rfl
  | letter escaped _ ih =>
    rw [List.cons_append, List.cons_append, body_escape (escape_of_letter escaped _), ih]
    rfl
  | unit code _ ih =>
    rw [List.cons_append, List.cons_append, List.append_assoc, body_escape, ih]
    · rfl
    · exact unitEscape_of_code code _
  | pair leading trailing hx hy code _ ih =>
    simp only [List.cons_append, List.append_assoc]
    rw [body_escape, ih]
    · rfl
    · exact unitEscape_of_pair leading trailing hx hy code _

/-- What is read up to a closing quote spells what it is read as. -/
theorem spells_of_body {s ds rest : List Char} (h : body s = .ok (ds, rest)) :
    ∃ cs, s = cs ++ '"' :: rest ∧ Spells ds cs := by
  -- the cases that go on are those of the recursion: the quote, an escape and a plain character
  fun_induction body s generalizing ds rest with
  | case2 s =>
    cases h
    exact ⟨[], rfl, .nil⟩
  | case5 s d more escaped _ ds after hb _ ih =>
    cases h
    obtain ⟨cs, rfl, spelled⟩ := ih hb
    exact spells_of_escape escaped spelled
  | case8 c s quote backslash plain ds after hb ih =>
    cases h
    obtain ⟨cs, rfl, spelled⟩ := ih hb
    exact ⟨c :: cs, rfl, .plain quote backslash (Nat.le_of_not_lt plain) spelled⟩
  | _ => cases h

end ShortMessage.Json.Literal
