import ShortMessage.Proofs.Json.Numeral
import ShortMessage.Proofs.Json.StringLiteral

/-!
# The head of a text is read as the grammar spells it

* `Spells.exists_cons` says with which characters a value starts.
* `readHead_eq_ok_iff` says which values have a head that a reader for scalars may take.
* `readHead_cases` says what stands in front of a text that has a head.
-/

namespace ShortMessage.Json

/-! ### The first character of a value -/

theorem skipBlank_append_cons {b : List Char} {c : Char} (blank : Blank b) (h : isBlank c = false)
    (s : List Char) : skipBlank (b ++ c :: s) = c :: s := by
  rw [skipBlank_append blank, skipBlank_cons h]

theorem readHead_append_cons {b : List Char} {c : Char} (blank : Blank b) (h : isBlank c = false)
    (s : List Char) : readHead (b ++ c :: s) = headFrom c s := by
  rw [readHead, skipBlank_append_cons blank h]

/-- What spells a number starts with a digit after its sign. -/
theorem Numeral.SpellsUnsigned.exists_cons {n : Numeral} {cs : List Char}
    (h : n.SpellsUnsigned cs) : ∃ d t, cs = d :: t ∧ d.isDigit = true := by
  obtain ⟨⟨⟨some, digits⟩, -⟩, -, -⟩ := h
  obtain ⟨d, t, ht⟩ := List.exists_cons_of_ne_nil some
  exact ⟨d, _, by rw [ht, List.cons_append], digits d (by rw [ht]; exact List.mem_cons_self)⟩

/-- What spells a value starts with a character that is not blank and closes no array. It tells
nulls, arrays and objects from all other values. -/
theorem Spells.exists_cons {τ : Type} {literal : τ → List Char → Prop} {v : Value τ}
    {cs : List Char} (h : Spells literal v cs) :
    ∃ c t, cs = c :: t ∧ isBlank c = false ∧ c ≠ ']' ∧ (c = 'n' ↔ v = .null) ∧
      (c = '[' → ∃ vs, v = .array vs) ∧ (c = '{' → ∃ ms, v = .object ms) := by
  cases h with
  | number numeral =>
    cases numeral with
    | positive _ unsigned =>
      obtain ⟨d, t, rfl, digit⟩ := unsigned.exists_cons
      have other : ∀ {c : Char}, c.isDigit = false → d ≠ c := ne_of_isDigit digit
      refine ⟨d, t, rfl, isBlank_of_isDigit digit, other rfl, ?_, ?_, ?_⟩
      · exact ⟨fun h => absurd h (other rfl), nofun⟩
      · exact fun h => absurd h (other rfl)
      · exact fun h => absurd h (other rfl)
    | negative => exact ⟨'-', _, rfl, rfl, by simp⟩
  | null => exact ⟨'n', _, rfl, rfl, by simp⟩
  | isTrue => exact ⟨'t', _, rfl, rfl, by simp⟩
  | isFalse => exact ⟨'f', _, rfl, rfl, by simp⟩
  | string => exact ⟨'"', _, rfl, rfl, by simp⟩
  | emptyArray | array => exact ⟨'[', _, rfl, rfl, by simp⟩
  | emptyObject | object => exact ⟨'{', _, rfl, rfl, by simp⟩

theorem number_of_spells {n : Numeral} {cs rest : List Char} (h : n.SpellsUnsigned cs)
    (stop : EndsNumeral rest) : number n.negative (cs ++ rest) =
      (n.value rest).map fun found => (found, rest) := by
  simp only [number, Numeral.scan_of_spells h stop]
  cases n.value rest <;> rfl

/-- A number stands for an integer, or else for a double or for nothing. -/
theorem Numeral.value_cases (n : Numeral) (rest : List Char) :
    (∃ i, n.integer? = some i ∧ n.value rest = .ok (.integer i)) ∨
    n.integer? = none ∧ ∀ found, n.value rest = .ok found →
      ∃ negative x, found = .float negative x := by
  cases hi : n.integer? with
  | some i => exact .inl ⟨i, rfl, by simp only [value, hi]⟩
  | none =>
    refine .inr ⟨rfl, ?_⟩
    intro found h
    simp only [value, hi] at h
    repeat' split at h
    -- a double too large is refused, and every other one is found
    all_goals first
      | cases h; done
      | exact ⟨_, _, (Except.ok.inj h).symm⟩

/-- What the head of a value is read as. A number that is no integer is left out, since no reader
takes it. -/
def Value.found? : Value String → Option Found
  | .null => some .null
  | .boolean b => some (.boolean b)
  | .number n => n.integer?.map .integer
  | .string t => some (.text t)
  | .array _ => none
  | .object _ => none

/-- Neither a double nor a bracket. -/
def Found.IsPlain : Found → Prop
  | .float .. | .sequence | .map => False
  | _ => True

theorem stringBody_of_spells {t : String} {cs : List Char} (h : SpellsText t cs)
    (rest : List Char) : stringBody.run (cs ++ '"' :: rest) = .ok (t, rest) := by
  simp [stringBody, Literal.body_of_spells h]

theorem spells_of_stringBody {t : String} {s rest : List Char}
    (h : stringBody.run s = .ok (t, rest)) :
    ∃ cs, SpellsText t cs ∧ s = cs ++ '"' :: rest := by
  simp only [stringBody] at h
  split at h
  · cases h
  · next hb =>
    cases h
    obtain ⟨cs, rfl, spelled⟩ := Literal.spells_of_body hb
    exact ⟨cs, by rw [SpellsText, String.toList_ofList]; exact spelled, rfl⟩

section

variable {b cs rest more : List Char} {v : Value String} {found : Found}

/-- A scalar is read as what it stands for. -/
theorem readHead_scalar_iff {c : Char} {t : List Char} {other : Found} (blank : Blank b)
    (hc : isBlank c = false) (head : headFrom c (t ++ rest) = .ok (other, rest))
    (hv : v.found? = some other) :
    readHead (b ++ (c :: t ++ rest)) = .ok (found, more) ↔ v.found? = some found ∧ more = rest := by
  rw [List.cons_append, readHead_append_cons blank hc, head, hv]
  simp [eq_comm]

/-- What is not plain is read as nothing that is. -/
theorem readHead_other_iff {c : Char} {t : List Char} (blank : Blank b) (hc : isBlank c = false)
    (plain : found.IsPlain)
    (head : ∀ other more, headFrom c (t ++ rest) = .ok (other, more) → ¬ other.IsPlain)
    (hv : v.found? = none) :
    readHead (b ++ (c :: t ++ rest)) = .ok (found, more) ↔ v.found? = some found ∧ more = rest := by
  rw [List.cons_append, readHead_append_cons blank hc, hv]
  constructor
  · intro h
    exact absurd plain (head found more h)
  · rintro ⟨none, -⟩
    cases none

theorem readHead_number_iff {n : Numeral} {c : Char} {t : List Char} (blank : Blank b)
    (hc : isBlank c = false) (plain : found.IsPlain)
    (head : headFrom c (t ++ rest) = (n.value rest).map fun found => (found, rest)) :
    readHead (b ++ (c :: t ++ rest)) = .ok (found, more) ↔
      (Value.number n).found? = some found ∧ more = rest := by
  rcases n.value_cases rest with ⟨i, hi, value⟩ | ⟨hi, floats⟩
  · rw [value] at head
    exact readHead_scalar_iff blank hc head (by rw [Value.found?, hi]; rfl)
  · refine readHead_other_iff blank hc plain ?_ (by rw [Value.found?, hi]; rfl)
    intro other more h
    rw [head] at h
    cases value : n.value rest with
    | error e =>
      rw [value] at h
      cases h
    | ok float =>
      obtain ⟨negative, x, rfl⟩ := floats float value
      rw [value] at h
      cases h
      exact id

/-- A scalar that is neither a double nor too large is the head of what spells it. -/
theorem readHead_eq_ok_iff (blank : Blank b) (h : Spells SpellsText v cs) (stop : EndsNumeral rest)
    (plain : found.IsPlain) :
    readHead (b ++ (cs ++ rest)) = .ok (found, more) ↔ v.found? = some found ∧ more = rest := by
  cases h with
  | null => exact readHead_scalar_iff blank rfl rfl rfl
  | isTrue => exact readHead_scalar_iff blank rfl rfl rfl
  | isFalse => exact readHead_scalar_iff blank rfl rfl rfl
  | string text =>
    refine readHead_scalar_iff blank rfl ?_ rfl
    simp [headFrom, Reader.map, stringBody_of_spells text]
  | number spelled =>
    cases spelled with
    | positive sign unsigned =>
      obtain ⟨d, t, rfl, digit⟩ := unsigned.exists_cons
      refine readHead_number_iff blank (isBlank_of_isDigit digit) plain ?_
      rw [headFrom_digit digit, ← number_of_spells unsigned stop, sign]
      rfl
    | negative sign unsigned =>
      refine readHead_number_iff blank rfl plain ?_
      rw [← number_of_spells unsigned stop, sign]
      rfl
  -- of an array or an object only the bracket is read
  | emptyArray | array =>
    refine readHead_other_iff blank rfl plain ?_ rfl
    rintro other more ⟨⟩
    exact id
  | emptyObject | object =>
    refine readHead_other_iff blank rfl plain ?_ rfl
    rintro other more ⟨⟩
    exact id

end

/-! ### What a head spells -/

/-- What opens an array or an object. -/
def Found.IsBracket : Found → Prop
  | .sequence | .map => True
  | _ => False

theorem eq_append_of_word {letters s rest : List Char} (h : word letters s = .ok rest) :
    s = letters ++ rest := by
  fun_induction word letters s with
  | case1 =>
    cases h
    rfl
  | case3 c letters s ih => rw [ih h, List.cons_append]
  | _ => cases h

theorem eq_append_of_wordFor {other found : Found} {letters s rest : List Char}
    (h : wordFor other letters s = .ok (found, rest)) : found = other ∧ s = letters ++ rest := by
  unfold wordFor at h
  split at h
  · next hw =>
    cases h
    exact ⟨rfl, eq_append_of_word hw⟩
  · cases h

theorem spells_of_number {negative : Bool} {found : Found} {s rest : List Char}
    (h : number negative s = .ok (found, rest)) : ¬ found.IsBracket ∧
      ∃ (n : Numeral) (cs : List Char), n.negative = negative ∧ n.SpellsUnsigned cs ∧
        s = cs ++ rest := by
  unfold number at h
  split at h
  · cases h
  · next n more hs =>
    split at h
    · cases h
    · next value =>
      cases h
      obtain ⟨sign, cs, rfl, spelled⟩ := Numeral.spells_of_scan hs
      refine ⟨?_, n, cs, sign, spelled, rfl⟩
      rcases n.value_cases rest with ⟨i, -, integer⟩ | ⟨-, floats⟩
      · rw [integer] at value
        cases value
        exact id
      · obtain ⟨_, _, rfl⟩ := floats _ value
        exact id

/-- What starts with a character that is not blank is a bracket or a whole scalar. -/
theorem headFrom_cases {c : Char} {s rest : List Char} {found : Found}
    (h : headFrom c s = .ok (found, rest)) :
    (found = .sequence ∧ c = '[' ∧ s = rest) ∨ (found = .map ∧ c = '{' ∧ s = rest) ∨
      (¬ found.IsBracket ∧ ∃ v cs, Spells SpellsText v cs ∧ c :: s = cs ++ rest) := by
  unfold headFrom at h
  split at h
  · next hc =>
    obtain ⟨rfl, rfl⟩ := eq_append_of_wordFor h
    exact .inr (.inr ⟨id, _, _, .null, by rw [hc]; rfl⟩)
  split at h
  · next hc =>
    obtain ⟨rfl, rfl⟩ := eq_append_of_wordFor h
    exact .inr (.inr ⟨id, _, _, .isTrue, by rw [hc]; rfl⟩)
  split at h
  · next hc =>
    obtain ⟨rfl, rfl⟩ := eq_append_of_wordFor h
    exact .inr (.inr ⟨id, _, _, .isFalse, by rw [hc]; rfl⟩)
  split at h
  · next hc =>
    simp only [Reader.map] at h
    split at h
    · next hb =>
      cases h
      obtain ⟨cs, text, rfl⟩ := spells_of_stringBody hb
      exact .inr (.inr ⟨id, _, _, .string text, by simp [hc]⟩)
    · cases h
  split at h
  · next hc =>
    cases h
    exact .inl ⟨rfl, hc, rfl⟩
  split at h
  · next hc =>
    cases h
    exact .inr (.inl ⟨rfl, hc, rfl⟩)
  split at h
  · next hc =>
    obtain ⟨scalar, n, cs, sign, spelled, rfl⟩ := spells_of_number h
    exact .inr (.inr ⟨scalar, _, _, .number (.negative sign spelled), by rw [hc]; rfl⟩)
  split at h
  · obtain ⟨scalar, n, cs, sign, spelled, hs⟩ := spells_of_number h
    exact .inr (.inr ⟨scalar, _, cs, .number (.positive sign spelled), hs⟩)
  · cases h

theorem readHead_cases {s rest : List Char} {found : Found} (h : readHead s = .ok (found, rest)) :
    ∃ b, Blank b ∧ ((found = .sequence ∧ s = b ++ '[' :: rest) ∨
      (found = .map ∧ s = b ++ '{' :: rest) ∨
      (¬ found.IsBracket ∧ ∃ v cs, Spells SpellsText v cs ∧ s = b ++ (cs ++ rest))) := by
  unfold readHead at h
  split at h
  · cases h
  · next c t hs =>
    obtain ⟨b, blank, rfl⟩ := exists_blank_of_skipBlank hs
    refine ⟨b, blank, ?_⟩
    rcases headFrom_cases h with
      ⟨rfl, rfl, rfl⟩ | ⟨rfl, rfl, rfl⟩ | ⟨scalar, v, cs, spelled, ht⟩
    · exact .inl ⟨rfl, rfl⟩
    · exact .inr (.inl ⟨rfl, rfl⟩)
    · exact .inr (.inr ⟨scalar, v, cs, spelled, by rw [ht]⟩)

/-- A value that is neither an array nor an object has no bracket in front. -/
theorem not_isBracket_of_readHead {b cs rest more : List Char} {v : Value String} {found : Found}
    (blank : Blank b) (h : Spells SpellsText v cs) (noArray : ∀ vs, v ≠ .array vs)
    (noObject : ∀ ms, v ≠ .object ms)
    (read : readHead (b ++ (cs ++ rest)) = .ok (found, more)) : ¬ found.IsBracket := by
  obtain ⟨c, t, rfl, notBlank, -, -, array, object⟩ := h.exists_cons
  rw [List.cons_append, readHead_append_cons blank notBlank] at read
  rcases headFrom_cases read with ⟨-, hc, -⟩ | ⟨-, hc, -⟩ | ⟨scalar, -⟩
  · obtain ⟨vs, hv⟩ := array hc
    exact absurd hv (noArray vs)
  · obtain ⟨ms, hv⟩ := object hc
    exact absurd hv (noObject ms)
  · exact scalar

end ShortMessage.Json
