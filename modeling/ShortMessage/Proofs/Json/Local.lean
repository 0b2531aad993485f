import ShortMessage.Json.Variant
import ShortMessage.Proofs.Json.Open

/-!
# Readers that look at one value only

A reader gets all of a text, but it should look at nothing behind the value that it takes. Then the
value may stand anywhere: what is read from it does not depend on what follows.

* `Reader.IsLocal` are these readers, and `Reader.IsLocal.run_iff` says that it is enough to know
  what they make of a value without anything behind it.
* `Reader.Takes.isLocal` and `isLocal_skip` say so of readers with a description and of what passes
  over a value.
* `isLocal_variant` says so of named choices, of which `readVariant_eq_ok_iff` is a description.
-/

namespace ShortMessage.Json

namespace Reader

variable {α β : Type} {p : Reader α}

/-- What is taken from a text is a value with blank space in front, and the same is taken whatever
else follows, if it ends a number. -/
structure IsLocal (p : Reader α) : Prop where
  exists_value : ∀ {s rest a}, p.run s = .ok (a, rest) → EndsNumeral rest →
    ∃ b v cs, Blank b ∧ Spells Verbatim v cs ∧ s = b ++ (cs ++ rest) ∧
      ∀ {more}, EndsNumeral more → p.run (b ++ (cs ++ more)) = .ok (a, more)

namespace IsLocal

theorem map (h : p.IsLocal) (f : α → β) : (p.map f).IsLocal where
  exists_value {s rest b} run stop := by
    obtain ⟨a, taken, rfl⟩ := map_run_eq_ok_iff.1 run
    obtain ⟨front, v, cs, blank, spelled, text, again⟩ := h.exists_value taken stop
    refine ⟨front, v, cs, blank, spelled, text, ?_⟩
    intro more ends
    exact map_run_eq_ok_iff.2 ⟨a, again ends, rfl⟩

/-- What is made of a value is what is made of it with nothing behind. -/
theorem run_iff (h : p.IsLocal) {b cs rest more : List Char} {v : Value (List Char)} {a : α}
    (blank : Blank b) (spelled : Spells Verbatim v cs) (stop : EndsNumeral rest)
    (ends : EndsNumeral more) :
    p.run (b ++ (cs ++ rest)) = .ok (a, more) ↔ p.run (b ++ cs) = .ok (a, []) ∧ more = rest := by
  constructor
  · intro run
    obtain ⟨front, w, ds, blank', spelled', text, again⟩ := h.exists_value run ends
    obtain rfl := eq_of_spells blank blank' spelled spelled' stop ends text
    rw [← List.append_assoc, ← List.append_assoc] at text
    have alone := again endsNumeral_nil
    rw [List.append_nil, ← List.append_cancel_right text] at alone
    exact ⟨alone, rfl⟩
  · rintro ⟨run, rfl⟩
    obtain ⟨front, w, ds, -, -, text, again⟩ := h.exists_value run endsNumeral_nil
    rw [List.append_nil] at text
    rw [← List.append_assoc, text, List.append_assoc]
    exact again stop

end IsLocal

/-- A reader with a description looks at one value only. -/
theorem Takes.isLocal {kind : Value String → Prop} {get : Value String → α}
    (h : p.Takes kind get) : p.IsLocal where
  exists_value {s rest a} run stop := by
    obtain ⟨b, v, cs, blank, spelled, rfl⟩ := h.spelled run
    obtain ⟨fits, rfl, -⟩ := (h.run_iff blank spelled stop).1 run
    obtain ⟨o, verbatim⟩ := spelled.verbatim
    refine ⟨b, o, cs, blank, verbatim, rfl, ?_⟩
    intro more ends
    exact (h.run_iff blank spelled ends).2 ⟨fits, rfl, rfl⟩

end Reader

/-- What passes over a value looks at nothing else. -/
theorem isLocal_skip : skip.IsLocal where
  exists_value {s rest a} run _ := by
    obtain ⟨b, v, cs, blank, spelled, rfl⟩ := spells_of_skip run
    exact ⟨b, v, cs, blank, spelled, rfl, skip_run_of_spells blank spelled⟩

/-! ### Named choices -/

theorem nothing_takes : nothing.Takes (fun v => v = .null) (fun _ => ()) := by
  refine scalar_takes ?_ ?_
  · intro found a h
    split at h
    · exact trivial
    · cases h
  · intro v a
    constructor
    · rintro ⟨found, hv, ha⟩
      split at ha
      · refine ⟨?_, rfl⟩
        cases v <;> simp [Value.found?] at hv ⊢
      · cases ha
    · rintro ⟨rfl, -⟩
      exact ⟨.null, rfl, rfl⟩

section

variable {α : Type} {variants : List (String × α)} {s rest : List Char} {a : α}

/-- The value of a name. -/
def chosen? (variants : List (String × α)) (name : String) : Option α :=
  (variants.find? (·.1 == name)).map Prod.snd

theorem choose_eq_ok_iff {name : String} :
    choose variants name rest = .ok a ↔ chosen? variants name = some a := by
  unfold choose chosen?
  split <;> rename_i found <;> simp [found]

theorem variantName_eq_ok_iff : variantName variants s = .ok (a, rest) ↔
    ∃ name ks, chosen? variants name = some a ∧ SpellsText name ks ∧ s = ks ++ '"' :: rest := by
  unfold variantName
  constructor
  · intro run
    split at run
    · cases run
    · next name more body =>
      split at run
      · cases run
      · next chosen =>
        cases run
        obtain ⟨ks, key, rfl⟩ := spells_of_stringBody body
        exact ⟨name, ks, choose_eq_ok_iff.1 chosen, key, rfl⟩
  · rintro ⟨name, ks, chosen, key, rfl⟩
    simp only [stringBody_of_spells key, choose_eq_ok_iff.2 chosen]

theorem variantEnd_eq_ok_iff : variantEnd s = .ok rest ↔
    ∃ b d e, Blank b ∧ Blank d ∧ Blank e ∧
      s = b ++ ':' :: (d ++ (['n', 'u', 'l', 'l'] ++ (e ++ '}' :: rest))) := by
  unfold variantEnd
  constructor
  · intro run
    split at run
    · cases run
    · next more read =>
      split at run
      · next brace =>
        cases run
        obtain ⟨e, behind, rfl⟩ := exists_blank_of_skipBlank brace
        simp only [Reader.afterColon] at read
        split at read
        · next colon =>
          obtain ⟨b, before, rfl⟩ := eq_append_of_passColon colon
          obtain ⟨d, v, cs, after, spelled, rfl⟩ := nothing_takes.spelled read
          have stop := endsNumeral_blank_append behind
            (endsNumeral_cons (by decide) : EndsNumeral ('}' :: rest))
          obtain ⟨rfl, -⟩ := (nothing_takes.run_iff after spelled stop).1 read
          cases spelled
          exact ⟨b, d, e, before, after, behind, rfl⟩
        · cases read
      · cases run
      · cases run
  · rintro ⟨b, d, e, before, after, behind, rfl⟩
    have stop := endsNumeral_blank_append behind
      (endsNumeral_cons (by decide) : EndsNumeral ('}' :: rest))
    have read := (nothing_takes.run_iff after .null stop).2 ⟨rfl, rfl, rfl⟩
    simp only [Reader.afterColon, passColon_append before, read,
      skipBlank_append_cons behind (rfl : isBlank '}' = false)]

theorem variantObject_eq_ok_iff : variantObject variants s = .ok (a, rest) ↔
    ∃ c t more, Blank c ∧ variantName variants t = .ok (a, more) ∧ variantEnd more = .ok rest ∧
      s = c ++ '"' :: t := by
  unfold variantObject
  constructor
  · intro run
    split at run
    · next quote =>
      obtain ⟨c, blank, rfl⟩ := exists_blank_of_skipBlank quote
      split at run
      · cases run
      · next name =>
        split at run
        · cases run
        · next ends =>
          cases run
          exact ⟨c, _, _, blank, name, ends, rfl⟩
    · cases run
    · cases run
  · rintro ⟨c, t, more, blank, name, ends, rfl⟩
    simp only [skipBlank_append_cons blank (rfl : isBlank '"' = false), name, ends]

/-- A named choice is read from a string with its name, or from an object whose only member has
this name and a null. -/
theorem readVariant_eq_ok_iff : readVariant variants s = .ok (a, rest) ↔
    ∃ f name ks, Blank f ∧ chosen? variants name = some a ∧ SpellsText name ks ∧
      (s = f ++ '"' :: (ks ++ '"' :: rest) ∨
        ∃ c b d e, Blank c ∧ Blank b ∧ Blank d ∧ Blank e ∧
          s = f ++ '{' :: (c ++ '"' :: (ks ++ '"' :: (b ++ ':' ::
            (d ++ (['n', 'u', 'l', 'l'] ++ (e ++ '}' :: rest))))))) := by
  unfold readVariant
  constructor
  · intro run
    split at run
    · next quote =>
      obtain ⟨f, blank, rfl⟩ := exists_blank_of_skipBlank quote
      obtain ⟨name, ks, chosen, key, rfl⟩ := variantName_eq_ok_iff.1 run
      exact ⟨f, name, ks, blank, chosen, key, .inl rfl⟩
    · next brace =>
      obtain ⟨f, blank, rfl⟩ := exists_blank_of_skipBlank brace
      obtain ⟨c, t, more, inside, named, ends, rfl⟩ := variantObject_eq_ok_iff.1 run
      obtain ⟨name, ks, chosen, key, rfl⟩ := variantName_eq_ok_iff.1 named
      obtain ⟨b, d, e, before, after, behind, rfl⟩ := variantEnd_eq_ok_iff.1 ends
      exact ⟨f, name, ks, blank, chosen, key,
        .inr ⟨c, b, d, e, inside, before, after, behind, rfl⟩⟩
    · cases run
  · rintro ⟨f, name, ks, blank, chosen, key, rfl | ⟨c, b, d, e, inside, before, after, behind, rfl⟩⟩
    · simp only [skipBlank_append_cons blank (rfl : isBlank '"' = false)]
      exact variantName_eq_ok_iff.2 ⟨name, ks, chosen, key, rfl⟩
    · simp only [skipBlank_append_cons blank (rfl : isBlank '{' = false)]
      exact variantObject_eq_ok_iff.2 ⟨c, _, _, inside,
        variantName_eq_ok_iff.2 ⟨name, ks, chosen, key, rfl⟩,
        variantEnd_eq_ok_iff.2 ⟨b, d, e, before, after, behind, rfl⟩, rfl⟩

/-- A named choice looks at one value only. -/
theorem isLocal_variant (variants : List (String × α)) : (variant variants).IsLocal where
  exists_value {s rest a} run _ := by
    obtain ⟨f, name, ks, blank, chosen, key, written⟩ := readVariant_eq_ok_iff.1 run
    rcases written with rfl | ⟨c, b, d, e, inside, before, after, behind, rfl⟩
    · refine ⟨f, _, _, blank, .string (.mk key.isRaw), by simp, ?_⟩
      intro more _
      exact readVariant_eq_ok_iff.2 ⟨f, name, ks, blank, chosen, key, .inl (by simp)⟩
    · have spelled := Spells.object (.mk inside (Verbatim.mk key.isRaw) before after .null)
        (.close behind)
      refine ⟨f, _, _, blank, spelled, by simp, ?_⟩
      intro more _
      exact readVariant_eq_ok_iff.2 ⟨f, name, ks, blank, chosen, key,
        .inr ⟨c, b, d, e, inside, before, after, behind, by simp⟩⟩

end

end ShortMessage.Json
