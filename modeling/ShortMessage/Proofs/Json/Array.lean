import ShortMessage.Proofs.Json.Form

/-!
# Which arrays a closed record takes

Reading goes over the elements and the fields together, so what it takes is said of the elements and
the fields that are left, by induction on the fields.

* `elements_iff` says which elements after the first are taken, `elements_zero_iff` which arrays.
* `spells_of_elements` says that nothing else is taken.
-/

namespace ShortMessage.Json

variable {σ : Type}

/-! ### Commas and brackets -/

theorem nextElement_close {b : List Char} (blank : Blank b) (first : Bool) (s : List Char) :
    nextElement first (b ++ ']' :: s) = .ok (false, s) := by
  rw [nextElement, skipBlank_append_cons blank rfl]
  rfl

theorem nextElement_first {b cs : List Char} {v : Value String} (blank : Blank b)
    (spelled : Spells SpellsText v cs) (s : List Char) :
    nextElement true (b ++ (cs ++ s)) = .ok (true, cs ++ s) := by
  obtain ⟨c, t, rfl, notBlank, notClosing, -⟩ := spelled.exists_cons
  rw [List.cons_append, nextElement, skipBlank_append_cons blank notBlank]
  simp [notClosing]

theorem nextElement_comma {a b cs : List Char} {v : Value String} (before : Blank a)
    (after : Blank b) (spelled : Spells SpellsText v cs) (s : List Char) :
    nextElement false (a ++ ',' :: (b ++ (cs ++ s))) = .ok (true, cs ++ s) := by
  obtain ⟨c, t, rfl, notBlank, notClosing, -⟩ := spelled.exists_cons
  have element := skipBlank_append_cons after notBlank (t ++ s)
  rw [nextElement, skipBlank_append_cons before rfl]
  simp only [List.cons_append, element, Char.reduceEq, Bool.false_eq_true, reduceIte]
  split
  · next h => exact absurd (List.cons.inj h).1 notClosing
  · next h => cases h
  · rfl

/-- After an element stands the closing bracket, or a comma and another element. In front of the
first element no comma stands. -/
theorem nextElement_cases {first more : Bool} {s rest : List Char}
    (h : nextElement first s = .ok (more, rest)) :
    ∃ b, Blank b ∧ ((more = false ∧ s = b ++ ']' :: rest) ∨
      (more = true ∧ ((first = true ∧ s = b ++ rest) ∨
        first = false ∧ ∃ a, Blank a ∧ s = b ++ ',' :: (a ++ rest)))) := by
  unfold nextElement at h
  split at h
  · cases h
  · next c t hs =>
    obtain ⟨b, blank, rfl⟩ := exists_blank_of_skipBlank hs
    refine ⟨b, blank, ?_⟩
    split at h
    · next hc =>
      cases h
      exact .inl ⟨rfl, by rw [hc]⟩
    split at h
    · next isFirst =>
      cases h
      exact .inr ⟨rfl, .inl ⟨isFirst, rfl⟩⟩
    split at h
    · next notFirst hc =>
      obtain ⟨a, after, ht⟩ := exists_blank t
      refine .inr ⟨?_, .inr ⟨Bool.eq_false_of_not_eq_true notFirst, a, after, ?_⟩⟩
      · split at h <;> cases h
        rfl
      · rw [hc]
        split at h <;> cases h
        rw [← ht]
    · cases h

theorem endArray_close {b : List Char} (blank : Blank b) (s : List Char) :
    endArray (b ++ ']' :: s) = .ok s := by
  rw [endArray, skipBlank_append_cons blank rfl]
  rfl

theorem endArray_comma {b : List Char} (blank : Blank b) (s rest : List Char) :
    endArray (b ++ ',' :: s) ≠ .ok rest := by
  simp only [endArray, skipBlank_append_cons blank (rfl : isBlank ',' = false)]
  split <;> simp

theorem eq_append_of_endArray {s rest : List Char} (h : endArray s = .ok rest) :
    ∃ b, Blank b ∧ s = b ++ ']' :: rest := by
  unfold endArray at h
  split at h
  · next hs =>
    cases h
    exact exists_blank_of_skipBlank hs
  · split at h <;> cases h
  · cases h

section

variable {r : Record σ} {fields : List (Field σ)} {forms : List (Form σ)}

/-- One step over the elements of an array. -/
theorem elements_step {field : Field σ} {form : Form σ} (same : field.HasForm form)
    {index : ℕ} {s cs rest more : List Char} {v : Value String} {value final : σ}
    (next : nextElement (index == 0) s = .ok (true, cs ++ rest))
    (spelled : Spells SpellsText v cs) (stop : EndsNumeral rest) :
    r.elements (field :: fields) index value s = .ok (final, more) ↔
      form.kind v ∧ r.elements fields (index + 1) (form.edit v value) rest = .ok (final, more) := by
  have run : ∀ {edit t}, field.edit.run (cs ++ rest) = .ok (edit, t) ↔
      form.kind v ∧ edit = form.edit v ∧ t = rest :=
    same.takes.run_iff Blank.nil spelled stop
  simp only [Record.elements, next]
  constructor
  · intro h
    split at h
    · cases h
    · next taken =>
      obtain ⟨fits, rfl, rfl⟩ := run.1 taken
      exact ⟨fits, h⟩
  · rintro ⟨fits, h⟩
    simp only [run.2 ⟨fits, rfl, rfl⟩, h]

/-- The elements after one of an array are taken if there are not too many and their values are of
the kinds of the fields in order, and then all edits are made. -/
theorem elements_iff (partly : r.whole = false) (same : List.Forall₂ Field.HasForm fields forms)
    {vs : List (Value String)} {cs rest more : List Char} {index : ℕ} {value final : σ}
    (started : index ≠ 0) (spelled : SpellsRest SpellsText vs cs) :
    r.elements fields index value (cs ++ rest) = .ok (final, more) ↔
      vs.length ≤ forms.length ∧ (∀ p ∈ forms.zip vs, p.1.kind p.2) ∧
        final = (forms.zip vs).foldl (fun s p => p.1.edit p.2 s) value ∧ more = rest := by
  induction same generalizing vs cs index value with
  | nil =>
    cases spelled with
    | close blank =>
      rw [List.append_assoc, List.cons_append, List.nil_append]
      simp [Record.elements, endArray_close blank, eq_comm]
    | next before =>
      -- no field is left for another element
      rw [List.append_assoc, List.cons_append, Record.elements]
      refine ⟨?_, fun h => absurd h.1 (by simp)⟩
      intro h
      split at h
      · cases h
      · next ended => exact absurd ended (endArray_comma before _ _)
  | @cons field form fields forms first _ ih =>
    cases spelled with
    | close blank =>
      rw [List.append_assoc, List.cons_append, List.nil_append]
      simp [Record.elements, nextElement_close blank, partly, eq_comm]
    | next before after spelled others =>
      have next := nextElement_comma before after spelled
      rw [← beq_eq_false_iff_ne.2 started] at next
      simp only [List.append_assoc, List.cons_append]
      rw [elements_step first (next _) spelled (others.endsNumeral rest),
        ih (Nat.succ_ne_zero index) others]
      simp only [List.zip_cons_cons, List.forall_mem_cons, List.foldl_cons, List.length_cons,
        Nat.add_le_add_iff_right]
      tauto

/-- What is read as the elements of an array spells them. -/
theorem spells_of_elements (same : List.Forall₂ Field.HasForm fields forms) {index : ℕ}
    {value final : σ} {s rest : List Char}
    (run : r.elements fields index value s = .ok (final, rest)) :
    (index = 0 → fields ≠ [] →
        ∃ vs cs, Spells SpellsText (.array vs) ('[' :: cs) ∧ s = cs ++ rest) ∧
      (index ≠ 0 → ∃ vs cs, SpellsRest SpellsText vs cs ∧ s = cs ++ rest) := by
  induction same generalizing index value s with
  | nil =>
    refine ⟨fun _ some => absurd rfl some, fun _ => ?_⟩
    rw [Record.elements] at run
    split at run
    · cases run
    · next ended =>
      cases run
      obtain ⟨b, blank, rfl⟩ := eq_append_of_endArray ended
      exact ⟨[], _, .close blank, by simp⟩
  | @cons field form fields forms first _ ih =>
    rw [Record.elements] at run
    split at run
    · cases run
    · next hn =>
      obtain ⟨b, blank, ⟨-, rfl⟩ | ⟨⟨⟩, -⟩⟩ := nextElement_cases hn
      split at run
      · cases run
      · cases run
        refine ⟨fun _ _ => ?_, fun _ => ?_⟩
        · exact ⟨[], _, .emptyArray blank, by simp⟩
        · exact ⟨[], _, .close blank, by simp⟩
    · next hn =>
      split at run
      · cases run
      · next taken =>
        obtain ⟨a, v, cs, front, spelled, rfl⟩ := first.takes.spelled taken
        obtain ⟨vs, more, others, rfl⟩ := (ih run).2 (Nat.succ_ne_zero index)
        obtain ⟨b, blank, ⟨⟨⟩, -⟩ | ⟨-, place⟩⟩ := nextElement_cases hn
        -- the blank space of an element is passed over in two parts
        rcases place with ⟨start, rfl⟩ | ⟨later, d, after, rfl⟩
        · refine ⟨fun _ _ => ?_, fun started => absurd (beq_iff_eq.1 start) started⟩
          exact ⟨_, _, .array (blank.append front) spelled others, by simp⟩
        · refine ⟨fun start => absurd start (ne_of_beq_false later), fun _ => ?_⟩
          exact ⟨_, _, .next blank (after.append front) spelled others, by simp⟩

end

namespace Record.HasForms

variable {r : Record σ} {forms : List (Form σ)}

theorem fields_ne_nil (h : r.HasForms forms) : r.fields ≠ [] := by
  intro none
  have same := h.fields
  rw [none] at same
  exact h.nonempty (List.forall₂_nil_left_iff.1 same)

/-- The elements of an array are taken if there are not too many and their values fit the fields in
order. -/
theorem elements_zero_iff (h : r.HasForms forms) {vs : List (Value String)}
    {cs rest more : List Char} {final : σ} (spelled : Spells SpellsText (.array vs) ('[' :: cs)) :
    r.elements r.fields 0 r.start (cs ++ rest) = .ok (final, more) ↔
      vs.length ≤ forms.length ∧ (∀ p ∈ forms.zip vs, p.1.kind p.2) ∧
        final = (forms.zip vs).foldl (fun s p => p.1.edit p.2 s) r.start ∧ more = rest := by
  obtain ⟨field, fields, hf⟩ := List.exists_cons_of_ne_nil h.fields_ne_nil
  have same := h.fields
  rw [hf] at same ⊢
  cases same with
  | cons first others =>
    cases spelled with
    | emptyArray blank =>
      rw [List.append_assoc, List.cons_append, List.nil_append]
      simp [Record.elements, nextElement_close blank, h.partly, eq_comm]
    | @array _ _ b cs _ blank spelled more =>
      have next : ∀ s, nextElement ((0 : ℕ) == 0) (b ++ (cs ++ s)) = .ok (true, cs ++ s) :=
        nextElement_first blank spelled
      simp only [List.append_assoc]
      rw [elements_step first (next _) spelled (more.endsNumeral rest),
        elements_iff h.partly others (by decide) more]
      simp only [List.zip_cons_cons, List.forall_mem_cons, List.foldl_cons, List.length_cons,
        Nat.add_le_add_iff_right]
      tauto

/-- Values in the order of the fields fit if they are of the kinds of the fields. -/
theorem fits_zip_iff (h : r.HasForms forms) (vs : List (Value String)) :
    (∀ e ∈ (forms.map Form.name).zip vs, Fits forms e) ↔ ∀ p ∈ forms.zip vs, p.1.kind p.2 := by
  rw [List.zip_map_left, List.forall_mem_map]
  refine forall₂_congr fun p mem => ?_
  have found := find?_eq_some_of_mem h.distinct (List.of_mem_zip mem).1
  simp [Fits, found]

theorem foldl_editBy_zip (h : r.HasForms forms) (vs : List (Value String)) (s : σ) :
    ((forms.map Form.name).zip vs).foldl (editBy forms) s =
      (forms.zip vs).foldl (fun s p => p.1.edit p.2 s) s := by
  rw [List.zip_map_left, List.foldl_map]
  refine List.foldl_ext _ _ _ fun s p mem => ?_
  have found := find?_eq_some_of_mem h.distinct (List.of_mem_zip mem).1
  simp [editBy, found]

end Record.HasForms

end ShortMessage.Json
