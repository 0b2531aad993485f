import ShortMessage.Json.Numeral.Lemmas
import ShortMessage.Proofs.Json.Grammar

/-!
# Numbers are read as the grammar spells them

* `Numeral.scan_of_spells`: what spells a number is read as it, if what follows ends a number.
* `Numeral.spells_of_scan`: what is read as a number spells it.
* `Numeral.integer?_eq_some_iff`: which numbers without sign are read as integers.
-/

namespace ShortMessage.Json.Numeral

/-! ### Digits -/

theorem someDigits_of_digits {ds rest : List Char} (h : Digits ds)
    (stop : ∀ c ∈ rest.head?, c.isDigit = false) (atEnd : Cause) :
    someDigits atEnd (ds ++ rest) = .ok (ds, rest) :=
  someDigits_append h.1 h.2 stop atEnd

theorem digits_of_someDigits {atEnd : Cause} {s ds rest : List Char}
    (h : someDigits atEnd s = .ok (ds, rest)) : s = ds ++ rest ∧ Digits ds := by
  unfold someDigits at h
  split at h
  · cases h
  · next some =>
    cases h
    exact ⟨List.takeWhile_append_dropWhile.symm, some, fun _ hd => List.mem_takeWhile_imp hd⟩

/-! ### The parts of a number -/

theorem wholeDigits_of_spells {ds rest : List Char} (h : WholeDigits ds)
    (stop : ∀ c ∈ rest.head?, c.isDigit = false) (atEnd : Cause) :
    wholeDigits atEnd (ds ++ rest) = .ok (ds, rest) := by
  obtain ⟨digits, zero⟩ := h
  unfold wholeDigits
  split
  · next t ht =>
    obtain ⟨d, ds, rfl⟩ := List.exists_cons_of_ne_nil digits.1
    rw [List.cons_append, List.cons.injEq] at ht
    obtain ⟨rfl, rfl⟩ := ht
    obtain rfl := zero ds rfl
    -- the zero is the only digit, and what follows it is none
    cases rest with
    | nil => rfl
    | cons c rest => simp [stop c rfl]
  · exact someDigits_of_digits digits stop atEnd

theorem spells_of_wholeDigits {atEnd : Cause} {s ds rest : List Char}
    (h : wholeDigits atEnd s = .ok (ds, rest)) : s = ds ++ rest ∧ WholeDigits ds := by
  have single : WholeDigits ['0'] := by
    refine ⟨⟨List.cons_ne_nil _ _, List.forall_mem_singleton.2 rfl⟩, ?_⟩
    intro t ht
    exact (List.cons.inj ht).2.symm
  unfold wholeDigits at h
  split at h
  · split at h
    · split at h
      · cases h
      · cases h
        exact ⟨rfl, single⟩
    · cases h
      exact ⟨rfl, single⟩
  · next noZero =>
    obtain ⟨rfl, digits⟩ := digits_of_someDigits h
    refine ⟨rfl, digits, ?_⟩
    rintro t rfl
    exact absurd rfl (noZero _)

/-- What spells a power of ten, before what ends a number, has no digit and no point in front. -/
theorem SpellsPower.head {power : Option (Bool × List Char)} {cs rest : List Char}
    (h : SpellsPower power cs) (stop : EndsNumeral rest) :
    ∀ c ∈ (cs ++ rest).head?, c.isDigit = false ∧ c ≠ '.' := by
  cases h with
  | absent => exact fun c hc => ⟨(stop c hc).1, (stop c hc).2.1⟩
  | power letter =>
    rintro c ⟨⟩
    rcases letter with rfl | rfl <;> decide

theorem SpellsFraction.head {fraction cs rest : List Char} (h : SpellsFraction fraction cs)
    (stop : ∀ c ∈ rest.head?, c.isDigit = false) :
    ∀ c ∈ (cs ++ rest).head?, c.isDigit = false := by
  cases h with
  | absent => exact stop
  | point =>
    rintro c ⟨⟩
    rfl

theorem fractionDigits_of_spells {fraction cs rest : List Char} (h : SpellsFraction fraction cs)
    (stop : ∀ c ∈ rest.head?, c.isDigit = false ∧ c ≠ '.') (atEnd : Cause) :
    fractionDigits atEnd (cs ++ rest) = .ok (fraction, rest) := by
  cases h with
  | absent =>
    unfold fractionDigits
    split
    · next t ht => exact absurd rfl (stop '.' (by rw [← List.nil_append rest, ht]; rfl)).2
    · rfl
  | point digits => exact someDigits_of_digits digits (fun c hc => (stop c hc).1) atEnd

theorem spells_of_fractionDigits {atEnd : Cause} {s fraction rest : List Char}
    (h : fractionDigits atEnd s = .ok (fraction, rest)) :
    ∃ cs, s = cs ++ rest ∧ SpellsFraction fraction cs := by
  unfold fractionDigits at h
  split at h
  · obtain ⟨rfl, digits⟩ := digits_of_someDigits h
    exact ⟨'.' :: fraction, rfl, .point digits⟩
  · cases h
    exact ⟨[], rfl, .absent⟩

theorem exponentSign_of_spells {negative : Bool} {sign ds : List Char}
    (h : SpellsSign negative sign) (digits : Digits ds) (rest : List Char) :
    exponentSign (sign ++ (ds ++ rest)) = (negative, ds ++ rest) := by
  cases h with
  | minus => rfl
  | plus => rfl
  | absent =>
    obtain ⟨d, ds, rfl⟩ := List.exists_cons_of_ne_nil digits.1
    have digit := digits.2 d List.mem_cons_self
    rw [List.nil_append, List.cons_append, exponentSign]
    · rintro t ht
      exact ne_of_apply_ne Char.isDigit (by rw [digit]; decide) (List.cons.inj ht).1
    · rintro t ht
      exact ne_of_apply_ne Char.isDigit (by rw [digit]; decide) (List.cons.inj ht).1

theorem spells_of_exponentSign (s : List Char) :
    ∃ sign, s = sign ++ (exponentSign s).2 ∧ SpellsSign (exponentSign s).1 sign := by
  unfold exponentSign
  split
  · exact ⟨['-'], rfl, .minus⟩
  · exact ⟨['+'], rfl, .plus⟩
  · exact ⟨[], rfl, .absent⟩

theorem powerDigits_of_spells {power : Option (Bool × List Char)} {cs rest : List Char}
    (h : SpellsPower power cs) (stop : EndsNumeral rest) (atEnd : Cause) :
    powerDigits atEnd (cs ++ rest) = .ok (power, rest) := by
  cases h with
  | absent => exact powerDigits_of_endsNumeral stop atEnd
  | power letter signed digits =>
    have taken := someDigits_of_digits digits (fun c hc => (stop c hc).1) atEnd
    simp [powerDigits, letter, exponentSign_of_spells signed digits, taken]

theorem spells_of_powerDigits {atEnd : Cause} {s rest : List Char}
    {power : Option (Bool × List Char)} (h : powerDigits atEnd s = .ok (power, rest)) :
    ∃ cs, s = cs ++ rest ∧ SpellsPower power cs := by
  unfold powerDigits at h
  split at h
  · next c t =>
    obtain ⟨sign, ht, signed⟩ := spells_of_exponentSign t
    dsimp only at h
    split at h
    · next letter =>
      split at h
      · cases h
      · next taken =>
        cases h
        obtain ⟨split, digits⟩ := digits_of_someDigits taken
        rw [split] at ht
        exact ⟨_, by rw [ht]; simp, .power letter signed digits⟩
    · cases h
      exact ⟨[], rfl, .absent⟩
  · cases h
    exact ⟨[], rfl, .absent⟩

/-! ### Numbers -/

/-- What spells a number after its sign is read as it. -/
theorem scan_of_spells {n : Numeral} {cs rest : List Char} (h : SpellsUnsigned n cs)
    (stop : EndsNumeral rest) (atEnd : Cause) :
    scan atEnd n.negative (cs ++ rest) = .ok (n, rest) := by
  obtain ⟨whole, fraction, power⟩ := h
  have head := power.head stop
  have noDigit := fraction.head fun c hc => (head c hc).1
  simp only [scan, List.append_assoc, wholeDigits_of_spells whole noDigit,
    fractionDigits_of_spells fraction head, powerDigits_of_spells power stop]

/-- What is read as a number after its sign spells it. -/
theorem spells_of_scan {atEnd : Cause} {negative : Bool} {s rest : List Char} {n : Numeral}
    (h : scan atEnd negative s = .ok (n, rest)) :
    n.negative = negative ∧ ∃ cs, s = cs ++ rest ∧ SpellsUnsigned n cs := by
  unfold scan at h
  split at h
  · cases h
  · next hw =>
    split at h
    · cases h
    · next hf =>
      split at h
      · cases h
      · next hp =>
        cases h
        obtain ⟨rfl, whole⟩ := spells_of_wholeDigits hw
        obtain ⟨fs, rfl, fraction⟩ := spells_of_fractionDigits hf
        obtain ⟨ps, rfl, power⟩ := spells_of_powerDigits hp
        exact ⟨rfl, _, by simp, .mk whole fraction power⟩

/-! ### Integers without sign -/

theorem le_ofDigitChars (ds : List Char) (n : ℕ) : n ≤ Nat.ofDigitChars 10 ds n := by
  induction ds generalizing n with
  | nil => exact Nat.le_of_eq Nat.ofDigitChars_nil.symm
  | cons d ds ih =>
    rw [Nat.ofDigitChars_cons]
    exact Nat.le_trans (by omega) (ih _)

/-- All digits are taken in if and only if the number that they make is below the bound. -/
theorem absorb_eq_iff {bound n m : ℕ} (small : n < bound) (ds : List Char) :
    absorb bound n ds = (m, []) ↔
      Nat.ofDigitChars 10 ds n < bound ∧ m = Nat.ofDigitChars 10 ds n := by
  induction ds generalizing n with
  | nil =>
    rw [absorb, Nat.ofDigitChars_nil, Prod.mk.injEq]
    exact ⟨fun h => ⟨small, h.1.symm⟩, fun h => ⟨h.2.symm, rfl⟩⟩
  | cons d ds ih =>
    have next : 10 * n + (d.toNat - '0'.toNat) = n * 10 + digit d := by rw [digit, Nat.mul_comm]
    rw [Nat.ofDigitChars_cons, next, absorb]
    by_cases fits : n * 10 + digit d < bound
    · rw [if_pos fits]
      exact ih fits
    · rw [if_neg fits]
      -- the digits that are left can only make the number larger
      have large := le_ofDigitChars ds (n * 10 + digit d)
      constructor
      · intro h
        cases h
      · rintro ⟨below, -⟩
        omega

/-- A number without sign is the integer that it spells, if it has neither fraction nor exponent and
fits sixty-four bits. -/
theorem integer?_eq_some_iff {n : Numeral} {i : ℤ} (unsigned : n.negative = false) :
    n.integer? = some i ↔ n.fraction = [] ∧ n.exponent = none ∧
      Nat.ofDigitChars 10 n.whole 0 < wordBound ∧ i = Nat.ofDigitChars 10 n.whole 0 := by
  obtain ⟨negative, whole, fraction, exponent⟩ := n
  subst unsigned
  simp only
  unfold integer?
  constructor
  · intro h
    split at h
    · next m hf he ha =>
      obtain ⟨below, rfl⟩ := (absorb_eq_iff (by decide) _).1 ha
      exact ⟨hf, he, below, (Option.some.inj h).symm⟩
    · cases h
  · rintro ⟨rfl, rfl, below, rfl⟩
    simp only [(absorb_eq_iff (by decide) whole).2 ⟨below, rfl⟩]
    rfl

/-- A number with a sign is no natural number. -/
theorem integer?_lt_zero {n : Numeral} {i : ℤ} (signed : n.negative = true)
    (h : n.integer? = some i) : i < 0 := by
  unfold integer? at h
  split at h
  · rw [signed] at h
    simp only [Bool.not_true, Bool.false_eq_true, if_false] at h
    split at h
    · cases h
      omega
    · cases h
  · cases h

end ShortMessage.Json.Numeral
