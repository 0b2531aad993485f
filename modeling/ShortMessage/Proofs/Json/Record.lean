import ShortMessage.Proofs.Json.Array
import ShortMessage.Proofs.Json.Object

/-!
# Which values a closed record takes

A record whose fields take given kinds of values takes the objects and arrays that give some of the
fields, each at most once, with values of their kinds. What it makes of them is the start with all
edits made.

* `read_object_iff`, `read_array_iff` and `read_ne_ok` say so for one form of values each.
* `spells_of_read` says that nothing else is taken.
* `reader_takes` is the description of the reader.
-/

namespace ShortMessage.Json.Record

variable {σ : Type} {r : Record σ} {forms : List (Form σ)} {b cs rest more : List Char} {a : σ}

theorem read_brace (r : Record σ) (blank : Blank b) (s : List Char) :
    r.read (b ++ '{' :: s) = r.ofObject s := by
  have head : readHead (b ++ '{' :: s) = .ok (.map, s) := readHead_append_cons blank rfl s
  simp only [read, head]

theorem read_bracket (r : Record σ) (blank : Blank b) (s : List Char) :
    r.read (b ++ '[' :: s) = r.elements r.fields 0 r.start s := by
  have head : readHead (b ++ '[' :: s) = .ok (.sequence, s) := readHead_append_cons blank rfl s
  simp only [read, head]

/-- What is read as a record starts with a brace or a bracket. -/
theorem exists_bracket_of_read {s : List Char} (run : r.read s = .ok (a, rest)) :
    (∃ b t, Blank b ∧ s = b ++ '{' :: t) ∨ ∃ b t, Blank b ∧ s = b ++ '[' :: t := by
  unfold read at run
  split at run
  · cases run
  · next hh =>
    obtain ⟨b, blank, ⟨⟨⟩, -⟩ | ⟨-, rfl⟩ | ⟨scalar, -⟩⟩ := readHead_cases hh
    · exact .inl ⟨b, _, blank, rfl⟩
    · exact absurd trivial scalar
  · next hh =>
    obtain ⟨b, blank, ⟨-, rfl⟩ | ⟨⟨⟩, -⟩ | ⟨scalar, -⟩⟩ := readHead_cases hh
    · exact .inr ⟨b, _, blank, rfl⟩
    · exact absurd trivial scalar
  · cases run

namespace HasForms

theorem read_object_iff (h : r.HasForms forms) {ms : List (String × Value String)}
    (blank : Blank b) (spelled : Spells SpellsText (.object ms) cs) :
    r.read (b ++ (cs ++ rest)) = .ok (a, more) ↔
      (ms.map Prod.fst).Nodup ∧ (∀ m ∈ ms, Fits forms m) ∧
        a = ms.foldl (editBy forms) r.start ∧ more = rest := by
  obtain ⟨t, rfl⟩ : ∃ t, cs = '{' :: t := by cases spelled <;> exact ⟨_, rfl⟩
  rw [List.cons_append, read_brace r blank]
  exact h.ofObject_iff spelled

theorem read_array_iff (h : r.HasForms forms) {vs : List (Value String)} (blank : Blank b)
    (spelled : Spells SpellsText (.array vs) cs) :
    r.read (b ++ (cs ++ rest)) = .ok (a, more) ↔
      vs.length ≤ forms.length ∧ (∀ p ∈ forms.zip vs, p.1.kind p.2) ∧
        a = (forms.zip vs).foldl (fun s p => p.1.edit p.2 s) r.start ∧ more = rest := by
  obtain ⟨t, rfl⟩ : ∃ t, cs = '[' :: t := by cases spelled <;> exact ⟨_, rfl⟩
  rw [List.cons_append, read_bracket r blank]
  exact h.elements_zero_iff spelled

/-- A scalar is no record. -/
theorem read_ne_ok (r : Record σ) {v : Value String} (blank : Blank b)
    (spelled : Spells SpellsText v cs) (noArray : ∀ vs, v ≠ .array vs)
    (noObject : ∀ ms, v ≠ .object ms) : r.read (b ++ (cs ++ rest)) ≠ .ok (a, more) := by
  intro run
  unfold read at run
  split at run
  · cases run
  · next head => exact not_isBracket_of_readHead blank spelled noArray noObject head trivial
  · next head => exact not_isBracket_of_readHead blank spelled noArray noObject head trivial
  · cases run

/-- What is read as a record spells an object or an array. -/
theorem spells_of_read (h : r.HasForms forms) {s : List Char} (run : r.read s = .ok (a, rest)) :
    ∃ b v cs, Blank b ∧ Spells SpellsText v cs ∧ s = b ++ (cs ++ rest) := by
  rcases exists_bracket_of_read run with ⟨b, t, blank, rfl⟩ | ⟨b, t, blank, rfl⟩
  · rw [read_brace r blank] at run
    obtain ⟨ms, cs, spelled, rfl⟩ := h.spells_of_ofObject run
    exact ⟨b, _, _, blank, spelled, rfl⟩
  · rw [read_bracket r blank] at run
    obtain ⟨vs, cs, spelled, rfl⟩ := (spells_of_elements h.fields run).1 rfl h.fields_ne_nil
    exact ⟨b, _, _, blank, spelled, rfl⟩

/-- **A closed record takes the objects and arrays with values that fit its fields.** The keys of an
object must be different names of fields, and an array must not be longer than the fields. Then the
values edit the start in the order in which they stand. -/
theorem reader_takes (h : r.HasForms forms) :
    r.reader.Takes
      (fun v => v.Fills (forms.map Form.name) ∧
        ∀ e ∈ v.entries (forms.map Form.name), Fits forms e)
      (fun v => (v.entries (forms.map Form.name)).foldl (editBy forms) r.start) where
  run_iff {b v cs rest} blank spelled stop {a more} := by
    show r.read (b ++ (cs ++ rest)) = .ok (a, more) ↔ _
    cases v with
    | object ms =>
      rw [h.read_object_iff blank spelled]
      -- a value that fits has the name of a field
      constructor
      · rintro ⟨distinct, fits, ha, hm⟩
        exact ⟨⟨⟨distinct, fun m mem => (fits m mem).name_mem⟩, fits⟩, ha, hm⟩
      · rintro ⟨⟨⟨distinct, -⟩, fits⟩, ha, hm⟩
        exact ⟨distinct, fits, ha, hm⟩
    | array vs =>
      simp only [Value.entries, Value.Fills]
      rw [h.read_array_iff blank spelled, h.fits_zip_iff, h.foldl_editBy_zip, List.length_map,
        and_assoc]
    | _ =>
      refine ⟨fun run => absurd run (read_ne_ok r blank spelled ?_ ?_), fun hv => hv.1.1.elim⟩
      · rintro vs ⟨⟩
      · rintro ms ⟨⟩
  spelled run := h.spells_of_read run

end HasForms

end ShortMessage.Json.Record
