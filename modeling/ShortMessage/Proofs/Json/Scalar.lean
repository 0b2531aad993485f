import ShortMessage.Proofs.Json.Head

/-!
# Which values a reader takes

A reader is described by the kind of values that it takes and by what it makes of them. It must take
every spelling of these values, and nothing that spells no value.

* `Reader.Takes` is this description.
* `Reader.Takes.exists_document` and `Reader.Takes.readAll_eq_ok_iff` apply it to whole texts.
* `boolean_takes`, `natural_takes`, `string_takes` and `Reader.Takes.optional` describe the readers
  for scalars.
-/

namespace ShortMessage.Json

/-- The reader takes the values of a kind, whatever blank space stands in front, if what follows
ends a number; and whatever it takes from a text is a value with blank space in front. -/
structure Reader.Takes {α : Type} (p : Reader α) (kind : Value String → Prop)
    (get : Value String → α) : Prop where
  run_iff : ∀ {b v cs rest}, Blank b → Spells SpellsText v cs → EndsNumeral rest → ∀ {a more},
    p.run (b ++ (cs ++ rest)) = .ok (a, more) ↔ kind v ∧ a = get v ∧ more = rest
  spelled : ∀ {s a rest}, p.run s = .ok (a, rest) →
    ∃ b v cs, Blank b ∧ Spells SpellsText v cs ∧ s = b ++ (cs ++ rest)

theorem Reader.map_run_eq_ok_iff {α β : Type} {p : Reader α} {f : α → β} {s rest : List Char}
    {b : β} : (p.map f).run s = .ok (b, rest) ↔ ∃ a, p.run s = .ok (a, rest) ∧ b = f a := by
  simp only [Reader.map]
  constructor
  · intro run
    split at run
    · next ha =>
      cases run
      exact ⟨_, ha, rfl⟩
    · cases run
  · rintro ⟨a, ha, rfl⟩
    rw [ha]

/-- A whole text is read if only blank space is left of it. -/
theorem Reader.readAll_iff {α : Type} {p : Reader α} {text : String} {a : α} :
    p.readAll text = .ok a ↔ ∃ rest, p.run text.toList = .ok (a, rest) ∧ Blank rest := by
  simp only [readAll]
  constructor
  · intro read
    split at read
    · cases read
    · next run =>
      split at read
      · next hs =>
        cases read
        obtain ⟨b, blank, rfl⟩ := exists_blank_of_skipBlank hs
        exact ⟨_, run, by rw [List.append_nil]; exact blank⟩
      · cases read
  · rintro ⟨rest, run, blank⟩
    simp only [run, skipBlank_eq_nil blank]

namespace Reader.Takes

variable {α β : Type} {p : Reader α} {kind : Value String → Prop} {get : Value String → α}

/-- A reader may be described with other words. -/
theorem congr {kind' : Value String → Prop} {get' : Value String → α} (h : p.Takes kind get)
    (sameKind : ∀ v, kind v ↔ kind' v) (sameValue : ∀ v, kind v → get v = get' v) :
    p.Takes kind' get' where
  run_iff {b v cs rest} blank spelled stop {a more} := by
    rw [h.run_iff blank spelled stop, ← sameKind]
    refine and_congr_right fun hv => ?_
    rw [sameValue v hv]
  spelled := h.spelled

theorem map (h : p.Takes kind get) (f : α → β) : (p.map f).Takes kind (f ∘ get) where
  run_iff {b v cs rest} blank spelled stop {a more} := by
    rw [map_run_eq_ok_iff]
    constructor
    · rintro ⟨x, hx, rfl⟩
      obtain ⟨hv, rfl, rfl⟩ := (h.run_iff blank spelled stop).1 hx
      exact ⟨hv, rfl, rfl⟩
    · rintro ⟨hv, rfl, rfl⟩
      exact ⟨get v, (h.run_iff blank spelled stop).2 ⟨hv, rfl, rfl⟩, rfl⟩
  spelled {s a rest} run := by
    obtain ⟨x, hx, -⟩ := map_run_eq_ok_iff.1 run
    exact h.spelled hx

/-- A text that is read spells a value. -/
theorem exists_document (h : p.Takes kind get) {text : String} {a : α}
    (read : p.readAll text = .ok a) : ∃ v, Document v text := by
  obtain ⟨d, run, after⟩ := readAll_iff.1 read
  obtain ⟨b, v, cs, blank, spelled, ht⟩ := h.spelled run
  exact ⟨v, b, cs, d, ht, blank, spelled, after⟩

/-- A text that spells a value is read if and only if the reader takes the value. -/
theorem readAll_eq_ok_iff (h : p.Takes kind get) {text : String} {v : Value String}
    (document : Document v text) (a : α) : p.readAll text = .ok a ↔ kind v ∧ a = get v := by
  obtain ⟨b, cs, d, ht, blank, spelled, after⟩ := document
  have run : ∀ {a more}, p.run text.toList = .ok (a, more) ↔ kind v ∧ a = get v ∧ more = d := by
    rw [ht]
    exact h.run_iff blank spelled (endsNumeral_blank after)
  rw [readAll_iff]
  constructor
  · rintro ⟨more, hr, -⟩
    obtain ⟨hv, ha, -⟩ := run.1 hr
    exact ⟨hv, ha⟩
  · rintro ⟨hv, ha⟩
    exact ⟨d, run.2 ⟨hv, ha, rfl⟩, after⟩

end Reader.Takes

section

variable {α : Type} {accept : Found → Except Cause α}

theorem readScalar_eq_ok_iff {s rest : List Char} {a : α} :
    readScalar accept s = .ok (a, rest) ↔
      ∃ found, readHead s = .ok (found, rest) ∧ accept found = .ok a := by
  unfold readScalar
  constructor
  · intro run
    split at run
    · cases run
    · next hh =>
      split at run
      · next ha =>
        cases run
        exact ⟨_, hh, ha⟩
      · cases run
  · rintro ⟨found, hh, ha⟩
    simp only [hh, ha]

/-- A reader for scalars takes what it accepts of the heads of values. -/
theorem scalar_takes {kind : Value String → Prop} {get : Value String → α}
    (plain : ∀ found a, accept found = .ok a → found.IsPlain)
    (accepted : ∀ v a, (∃ found, v.found? = some found ∧ accept found = .ok a) ↔
      kind v ∧ a = get v) : (scalar accept).Takes kind get where
  run_iff {b v cs rest} blank spelled stop {a more} := by
    show readScalar accept (b ++ (cs ++ rest)) = .ok (a, more) ↔ _
    rw [readScalar_eq_ok_iff, ← and_assoc, ← accepted]
    constructor
    · rintro ⟨found, hh, ha⟩
      obtain ⟨hv, rfl⟩ := (readHead_eq_ok_iff blank spelled stop (plain _ _ ha)).1 hh
      exact ⟨⟨found, hv, ha⟩, rfl⟩
    · rintro ⟨⟨found, hv, ha⟩, rfl⟩
      exact ⟨found, (readHead_eq_ok_iff blank spelled stop (plain _ _ ha)).2 ⟨hv, rfl⟩, ha⟩
  spelled {s a rest} run := by
    obtain ⟨found, hh, ha⟩ := readScalar_eq_ok_iff.1 run
    obtain ⟨b, blank, ⟨rfl, -⟩ | ⟨rfl, -⟩ | ⟨-, v, cs, spelled, rfl⟩⟩ := readHead_cases hh
    · exact absurd (plain _ _ ha) id
    · exact absurd (plain _ _ ha) id
    · exact ⟨b, v, cs, blank, spelled, rfl⟩

/-- A reader that accepts one kind of heads, each with what it holds, takes the values of this
kind. -/
theorem scalar_takes_of_kind {found : α → Found} {value : α → Value String}
    {get : Value String → α} (plain : ∀ a, (found a).IsPlain)
    (accepted : ∀ f a, accept f = .ok a ↔ f = found a)
    (same : ∀ v a, v.found? = some (found a) ↔ v = value a) (held : ∀ a, get (value a) = a) :
    (scalar accept).Takes (fun v => ∃ a, v = value a) get := by
  refine scalar_takes ?_ ?_
  · intro f a h
    rw [(accepted f a).1 h]
    exact plain a
  · intro v a
    simp only [accepted, exists_eq_right, same]
    constructor
    · rintro rfl
      exact ⟨⟨a, rfl⟩, (held a).symm⟩
    · rintro ⟨⟨b, rfl⟩, rfl⟩
      rw [held]

end

/-! ### The kinds of scalars -/

/-- The number has no sign, no fraction and no exponent, and fits sixty-four bits. -/
structure Numeral.IsWord (n : Numeral) : Prop where
  unsigned : n.negative = false
  noFraction : n.fraction = []
  noExponent : n.exponent = none
  fits : Nat.ofDigitChars 10 n.whole 0 < UInt64.size

namespace Value

/-- The value of a switch, which has none if it is null. -/
def switch? : Value String → Option Bool
  | .boolean b => some b
  | _ => none

/-- The number of a limit, which has none if it is null. -/
def limit? : Value String → Option UInt64
  | .number n => some (Nat.ofDigitChars 10 n.whole 0).toUInt64
  | _ => none

/-- The text of a string, which has none if it is null. -/
def text? : Value String → Option String
  | .string t => some t
  | _ => none

/-- None for a null, and what a function makes of every other value. -/
def unlessNull {α : Type} (get : Value String → α) : Value String → Option α
  | .null => none
  | v => some (get v)

end Value

theorem found?_eq_boolean_iff {v : Value String} {b : Bool} :
    v.found? = some (.boolean b) ↔ v = .boolean b := by
  cases v <;> simp [Value.found?]

theorem found?_eq_text_iff {v : Value String} {t : String} :
    v.found? = some (.text t) ↔ v = .string t := by
  cases v <;> simp [Value.found?]

theorem found?_eq_integer_iff {v : Value String} {i : ℤ} :
    v.found? = some (.integer i) ↔ ∃ n, v = .number n ∧ n.integer? = some i := by
  cases v <;> simp [Value.found?]

theorem boolean_takes :
    boolean.Takes (fun v => ∃ b, v = .boolean b) (fun v => v.switch?.getD false) := by
  refine scalar_takes_of_kind ?_ ?_ (fun _ _ => found?_eq_boolean_iff) (fun _ => rfl)
  · exact fun _ => trivial
  · intro f b
    cases f <;> simp

theorem string_takes :
    string.Takes (fun v => ∃ t, v = .string t) (fun v => v.text?.getD "") := by
  refine scalar_takes_of_kind ?_ ?_ (fun _ _ => found?_eq_text_iff) (fun _ => rfl)
  · exact fun _ => trivial
  · intro f t
    cases f <;> simp

theorem natural_takes :
    natural.Takes (fun v => ∃ n : Numeral, v = .number n ∧ n.IsWord)
      (fun v => v.limit?.getD 0) := by
  refine scalar_takes ?_ ?_
  · intro found a h
    split at h
    · exact trivial
    · cases h
  · intro v a
    constructor
    · rintro ⟨found, hv, ha⟩
      split at ha
      · next i =>
        obtain ⟨n, rfl, hi⟩ := found?_eq_integer_iff.1 hv
        split at ha
        · next nonneg =>
          cases ha
          cases sign : n.negative with
          | true => exact absurd (Numeral.integer?_lt_zero sign hi) (by omega)
          | false =>
            obtain ⟨fraction, exponent, fits, rfl⟩ := (Numeral.integer?_eq_some_iff sign).1 hi
            exact ⟨⟨n, rfl, sign, fraction, exponent, fits⟩, rfl⟩
        · cases ha
      · cases ha
    · rintro ⟨⟨n, rfl, sign, fraction, exponent, fits⟩, rfl⟩
      have integer := (Numeral.integer?_eq_some_iff sign).2 ⟨fraction, exponent, fits, rfl⟩
      refine ⟨_, found?_eq_integer_iff.2 ⟨n, rfl, integer⟩, ?_⟩
      simp [Value.limit?]

theorem Value.unlessNull_of_ne {α : Type} {v : Value String} (h : v ≠ .null)
    (get : Value String → α) : v.unlessNull get = some (get v) := by
  cases v with
  | null => exact absurd rfl h
  | _ => rfl

theorem readOptional_of_ne {α : Type} {p : Reader α} {s : List Char}
    (h : ∀ t, skipBlank s ≠ 'n' :: t) : readOptional p s = (p.map some).run s := by
  unfold readOptional
  split
  · next t ht => exact absurd ht (h t)
  · rfl

/-- A null is none where a null may stand, and every other value is left to the reader for it. -/
theorem Reader.Takes.optional {α : Type} {p : Reader α} {kind : Value String → Prop}
    {get : Value String → α} (h : p.Takes kind get) :
    (Json.optional p).Takes (fun v => v = .null ∨ kind v) (Value.unlessNull get) where
  run_iff {b v cs rest} blank spelled stop {a more} := by
    show readOptional p (b ++ (cs ++ rest)) = .ok (a, more) ↔ _
    by_cases hv : v = .null
    · subst hv
      cases spelled
      have head := skipBlank_append_cons blank (rfl : isBlank 'n' = false)
        ('u' :: 'l' :: 'l' :: rest)
      simp only [readOptional, List.cons_append, List.nil_append, head]
      simp [word, Value.unlessNull, eq_comm]
    · -- only what spells a null starts with its letter
      obtain ⟨c, t, rfl, notBlank, -, null, -⟩ := spelled.exists_cons
      have start : ∀ t', skipBlank (b ++ (c :: t ++ rest)) ≠ 'n' :: t' := by
        intro t' ht
        rw [List.cons_append, skipBlank_append_cons blank notBlank] at ht
        exact hv (null.1 (List.cons.inj ht).1)
      rw [readOptional_of_ne start, (h.map some).run_iff blank spelled stop,
        Value.unlessNull_of_ne hv]
      simp [hv]
  spelled {s a rest} run := by
    change readOptional p s = .ok (a, rest) at run
    by_cases start : ∃ t, skipBlank s = 'n' :: t
    · obtain ⟨t, hs⟩ := start
      obtain ⟨b, blank, rfl⟩ := exists_blank_of_skipBlank hs
      simp only [readOptional, hs] at run
      split at run
      · next hw =>
        cases run
        exact ⟨b, .null, _, blank, .null, by rw [eq_append_of_word hw]; rfl⟩
      · cases run
    · rw [readOptional_of_ne fun t ht => start ⟨t, ht⟩] at run
      exact (h.map some).spelled run

end ShortMessage.Json
