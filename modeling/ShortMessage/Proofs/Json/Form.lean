import Mathlib.Data.List.Forall2
import ShortMessage.Json.Record
import ShortMessage.Proofs.Json.Scalar

/-!
# The forms of records

A record is described by its fields: which values each takes, and how these edit the record.

* `Value.entries` are the values that an object or an array gives, with the names of their fields.
* `Form` describes a field, and `Record.HasForms` a closed record by the forms of its fields.
* `Fits` says that a value is one of the field that it is given for, and `editBy` is its edit.
* `foldl_editBy_part` says what all edits make of one part of a record.
-/

namespace ShortMessage.Json

/-! ### Values as records -/

namespace Value

/-- The values that an object or an array gives for fields of some names, in the order of the text.
The elements of an array are given in the order of the names. -/
def entries (names : List String) : Value String → List (String × Value String)
  | .object ms => ms
  | .array vs => names.zip vs
  | _ => []

/-- An object with some of the names and none of them twice, or an array that is not too long. -/
def Fills (names : List String) : Value String → Prop
  | .object ms => (ms.map Prod.fst).Nodup ∧ ∀ m ∈ ms, m.1 ∈ names
  | .array vs => vs.length ≤ names.length
  | _ => False

/-- No name is given twice. -/
theorem Fills.nodup_entries {names : List String} {v : Value String} (h : v.Fills names)
    (distinct : names.Nodup) : ((v.entries names).map Prod.fst).Nodup := by
  cases v with
  | object ms => exact h.1
  | array vs =>
    rw [entries, List.zip_eq_zip_take_min, List.map_fst_zip (by simp)]
    exact distinct.sublist (List.take_sublist _ _)
  | _ => exact h.elim

/-- Only names that may be given are given. -/
theorem Fills.name_mem {names : List String} {v : Value String} (h : v.Fills names)
    {e : String × Value String} (mem : e ∈ v.entries names) : e.1 ∈ names := by
  cases v with
  | object ms => exact h.2 e mem
  | array vs => exact (List.of_mem_zip mem).1
  | _ => exact h.elim

/-- The value that is given for a field. -/
def given (names : List String) (v : Value String) (name : String) : Option (Value String) :=
  (v.entries names).lookup name

end Value

/-- What a field of a record takes, and how this edits the record. -/
structure Form (σ : Type) where
  name : String
  kind : Value String → Prop
  edit : Value String → σ → σ

/-- The field is one of a form. No object has to give it. -/
structure Field.HasForm {σ : Type} (field : Field σ) (form : Form σ) : Prop where
  sameName : field.name = form.name
  optional : field.required = false
  takes : field.edit.Takes form.kind form.edit

/-- The record is closed and has fields of some forms. -/
structure Record.HasForms {σ : Type} (r : Record σ) (forms : List (Form σ)) : Prop where
  fields : List.Forall₂ Field.HasForm r.fields forms
  closed : r.closed = true
  partly : r.whole = false
  nonempty : forms ≠ []
  distinct : (forms.map Form.name).Nodup

section

variable {σ : Type}

theorem required_eq_false_of_forall₂ {fields : List (Field σ)} {forms : List (Form σ)}
    (h : List.Forall₂ Field.HasForm fields forms) : ∀ field ∈ fields, field.required = false := by
  induction h with
  | nil => exact List.forall_mem_nil _
  | cons first _ ih => exact List.forall_mem_cons.2 ⟨first.optional, ih⟩

/-- The value is one of the field that it is given for. -/
def Fits (forms : List (Form σ)) (e : String × Value String) : Prop :=
  ∃ form, forms.find? (·.name == e.1) = some form ∧ form.kind e.2

/-- The edit that a value makes which is given for a field. -/
def editBy (forms : List (Form σ)) (s : σ) (e : String × Value String) : σ :=
  match forms.find? (·.name == e.1) with
  | some form => form.edit e.2 s
  | none => s

theorem Fits.name_mem {forms : List (Form σ)} {e : String × Value String} (h : Fits forms e) :
    e.1 ∈ forms.map Form.name := by
  obtain ⟨form, found, -⟩ := h
  have same : form.name = e.1 := by simpa using List.find?_some found
  rw [← same]
  exact List.mem_map_of_mem (List.mem_of_find?_eq_some found)

theorem find?_hasForm {fields : List (Field σ)} {forms : List (Form σ)}
    (h : List.Forall₂ Field.HasForm fields forms) (key : String) :
    (fields.find? (·.name == key) = none ∧ forms.find? (·.name == key) = none) ∨
      ∃ field form, fields.find? (·.name == key) = some field ∧
        forms.find? (·.name == key) = some form ∧ field.HasForm form := by
  induction h with
  | nil => exact .inl ⟨rfl, rfl⟩
  | @cons field form fields forms first _ ih =>
    rw [List.find?_cons, List.find?_cons, first.sameName]
    by_cases named : form.name = key
    · rw [beq_iff_eq.2 named]
      exact .inr ⟨field, form, rfl, rfl, first⟩
    · rw [beq_eq_false_iff_ne.2 named]
      exact ih

theorem find?_eq_some_of_mem {forms : List (Form σ)} {form : Form σ}
    (distinct : (forms.map Form.name).Nodup) (mem : form ∈ forms) :
    forms.find? (·.name == form.name) = some form := by
  induction forms with
  | nil => cases mem
  | cons f forms ih =>
    obtain ⟨fresh, others⟩ := List.nodup_cons.1 distinct
    rcases List.mem_cons.1 mem with rfl | mem
    · rw [List.find?_cons, beq_self_eq_true]
    · have other : f.name ≠ form.name := by
        intro same
        exact fresh (same ▸ List.mem_map_of_mem mem)
      rw [List.find?_cons, beq_eq_false_iff_ne.2 other]
      exact ih others mem

theorem fits_iff {forms : List (Form σ)} (distinct : (forms.map Form.name).Nodup)
    {e : String × Value String} :
    Fits forms e ↔ ∃ form ∈ forms, form.name = e.1 ∧ form.kind e.2 := by
  constructor
  · rintro ⟨form, found, kind⟩
    exact ⟨form, List.mem_of_find?_eq_some found, by simpa using List.find?_some found, kind⟩
  · rintro ⟨form, mem, same, kind⟩
    exact ⟨form, same ▸ find?_eq_some_of_mem distinct mem, kind⟩

/-- The value that is given for a field makes of a part of a record what the field makes of it, if
no other field changes this part. -/
theorem foldl_editBy_part {β : Type} (part : σ → β) (set : Value String → β → β)
    {forms : List (Form σ)} {form : Form σ} {name : String}
    (found : forms.find? (·.name == name) = some form)
    (own : ∀ x s, part (form.edit x s) = set x (part s))
    (other : ∀ f ∈ forms, f.name ≠ name → ∀ x s, part (f.edit x s) = part s)
    {es : List (String × Value String)} (distinct : (es.map Prod.fst).Nodup) (s : σ) :
    part (es.foldl (editBy forms) s) =
      (es.lookup name).elim (part s) fun x => set x (part s) := by
  induction es generalizing s with
  | nil => rfl
  | cons e es ih =>
    obtain ⟨k, x⟩ := e
    obtain ⟨fresh, others⟩ := List.nodup_cons.1 distinct
    rw [List.foldl_cons, ih others, List.lookup_cons]
    by_cases named : name = k
    · subst named
      -- no later value is given for the field, so this edit is the last one of the part
      have last : es.lookup name = none := by
        refine List.lookup_eq_none_iff.2 fun e mem => ?_
        rw [bne_iff_ne]
        intro same
        have old : e.1 ∈ es.map Prod.fst := List.mem_map_of_mem mem
        exact fresh (by rw [← same] at old; exact old)
      simp [last, editBy, found, own]
    · have same : part (editBy forms s (k, x)) = part s := by
        unfold editBy
        split
        · next f hf =>
          have named' : f.name = k := by simpa using List.find?_some hf
          exact other f (List.mem_of_find?_eq_some hf) (fun h => named (h ▸ named')) x s
        · rfl
      rw [same, beq_eq_false_iff_ne.2 named]

end

end ShortMessage.Json
