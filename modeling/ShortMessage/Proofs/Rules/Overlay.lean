import ShortMessage.Proofs.Json.Record
import ShortMessage.Rules.Document

/-!
# Which values lay rules over others

* `Rules.IsOverlay` are the values that can be laid over rules.
* `Rules.overlaid` are the rules that this gives.
* `Rules.overrides_takes` says that rules are read this way.
-/

namespace ShortMessage.Rules

open Json

/-- The names of the fields of rules. -/
def names : List String := ["alphanumeric", "short_code", "international", "short_code_max_length"]

/-- True, false, or a null that leaves a switch as it is. -/
def IsSwitch (v : Value String) : Prop :=
  v = .null ∨ ∃ b, v = .boolean b

/-- A number of sixty-four bits that is written with digits only, or a null that leaves the limit as
it is. -/
def IsLimit (v : Value String) : Prop :=
  v = .null ∨ ∃ n : Numeral, v = .number n ∧ n.IsWord

/-- An object or an array that gives some of the fields of rules, with switches for three of them
and a limit for the fourth. -/
structure IsOverlay (v : Value String) : Prop where
  fills : v.Fills names
  switches : ∀ name ∈ ["alphanumeric", "short_code", "international"],
    ∀ x, (name, x) ∈ v.entries names → IsSwitch x
  limit : ∀ x, ("short_code_max_length", x) ∈ v.entries names → IsLimit x

/-- The rules with all that a value gives. What is not given or null stays as it was. -/
def overlaid (base : Rules) (v : Value String) : Rules where
  alphanumeric := ((v.given names "alphanumeric").bind Value.switch?).getD base.alphanumeric
  shortCode := ((v.given names "short_code").bind Value.switch?).getD base.shortCode
  international := ((v.given names "international").bind Value.switch?).getD base.international
  shortCodeLimit :=
    ((v.given names "short_code_max_length").bind Value.limit?).getD base.shortCodeLimit

/-- The forms of the fields of rules, with the values of switches and of the limit. -/
def forms (isSwitch isLimit : Value String → Prop) : List (Form Rules) :=
  [⟨"alphanumeric", isSwitch, fun v r => { r with alphanumeric := v.switch?.getD r.alphanumeric }⟩,
    ⟨"short_code", isSwitch, fun v r => { r with shortCode := v.switch?.getD r.shortCode }⟩,
    ⟨"international", isSwitch,
      fun v r => { r with international := v.switch?.getD r.international }⟩,
    ⟨"short_code_max_length", isLimit,
      fun v r => { r with shortCodeLimit := v.limit?.getD r.shortCodeLimit }⟩]

theorem forall₂_forms {switch : Reader (Option Bool)} {limit : Reader (Option UInt64)}
    {isSwitch isLimit : Value String → Prop} (hs : switch.Takes isSwitch Value.switch?)
    (hl : limit.Takes isLimit Value.limit?) :
    List.Forall₂ Field.HasForm (fields switch limit) (forms isSwitch isLimit) :=
  .cons ⟨rfl, rfl, hs.map _⟩ (.cons ⟨rfl, rfl, hs.map _⟩ (.cons ⟨rfl, rfl, hs.map _⟩
    (.cons ⟨rfl, rfl, hl.map _⟩ .nil)))

theorem switch_takes : (optional boolean).Takes IsSwitch Value.switch? := by
  refine boolean_takes.optional.congr (fun v => Iff.rfl) ?_
  rintro v (rfl | ⟨b, rfl⟩) <;> rfl

theorem limit_takes : (optional natural).Takes IsLimit Value.limit? := by
  refine natural_takes.optional.congr (fun v => Iff.rfl) ?_
  rintro v (rfl | ⟨n, rfl, -⟩) <;> rfl

theorem nodup_names_forms (isSwitch isLimit : Value String → Prop) :
    ((forms isSwitch isLimit).map Form.name).Nodup :=
  (by decide : names.Nodup)

theorem fits_forms_iff {isSwitch isLimit : Value String → Prop} {e : String × Value String} :
    Fits (forms isSwitch isLimit) e ↔
      (e.1 ∈ ["alphanumeric", "short_code", "international"] ∧ isSwitch e.2) ∨
        (e.1 = "short_code_max_length" ∧ isLimit e.2) := by
  rw [fits_iff (nodup_names_forms isSwitch isLimit)]
  simp only [forms, List.mem_cons, List.not_mem_nil, or_false, or_and_right, exists_or,
    exists_eq_left, or_assoc, @eq_comm _ e.1]

theorem hasForms_overrides (base : Rules) : (overrides base).HasForms (forms IsSwitch IsLimit) where
  fields := forall₂_forms switch_takes limit_takes
  closed := rfl
  partly := rfl
  nonempty := nofun
  distinct := nodup_names_forms IsSwitch IsLimit

theorem isOverlay_iff {v : Value String} :
    IsOverlay v ↔ v.Fills names ∧ ∀ e ∈ v.entries names, Fits (forms IsSwitch IsLimit) e := by
  constructor
  · intro h
    refine ⟨h.fills, ?_⟩
    rintro ⟨name, x⟩ mem
    rw [fits_forms_iff]
    by_cases last : name = "short_code_max_length"
    · subst last
      exact .inr ⟨rfl, h.limit x mem⟩
    · have known := h.fills.name_mem mem
      simp only [names, List.mem_cons, List.not_mem_nil, or_false, last] at known
      exact .inl ⟨by simpa using known, h.switches name (by simpa using known) x mem⟩
  · rintro ⟨fills, fits⟩
    refine ⟨fills, ?_, ?_⟩
    · intro name known x mem
      rcases fits_forms_iff.1 (fits _ mem) with ⟨-, switch⟩ | ⟨last, -⟩
      · exact switch
      · change name = _ at last
        subst last
        exact absurd known (by decide)
    · intro x mem
      rcases fits_forms_iff.1 (fits _ mem) with ⟨other, -⟩ | ⟨-, limit⟩
      · exact absurd other (by simp)
      · exact limit

theorem elim_getD {α β : Type} (o : Option α) (f : α → Option β) (b : β) :
    (o.elim b fun a => (f a).getD b) = (o.bind f).getD b := by
  cases o <;> rfl

/-- The edits of all values make the rules that are laid over. -/
theorem foldl_editBy_eq_overlaid {v : Value String} (fills : v.Fills names)
    (isSwitch isLimit : Value String → Prop) (base : Rules) :
    (v.entries names).foldl (editBy (forms isSwitch isLimit)) base = overlaid base v := by
  -- no field is given twice, and each field edits its own part only
  have distinct := fills.nodup_entries (by decide)
  have alphanumeric := foldl_editBy_part Rules.alphanumeric (fun x b => x.switch?.getD b)
    (rfl : (forms isSwitch isLimit).find? (·.name == "alphanumeric") = some _)
    (fun _ _ => rfl) (by simp [forms]) distinct base
  have shortCode := foldl_editBy_part Rules.shortCode (fun x b => x.switch?.getD b)
    (rfl : (forms isSwitch isLimit).find? (·.name == "short_code") = some _)
    (fun _ _ => rfl) (by simp [forms]) distinct base
  have international := foldl_editBy_part Rules.international (fun x b => x.switch?.getD b)
    (rfl : (forms isSwitch isLimit).find? (·.name == "international") = some _)
    (fun _ _ => rfl) (by simp [forms]) distinct base
  have limit := foldl_editBy_part Rules.shortCodeLimit (fun x n => x.limit?.getD n)
    (rfl : (forms isSwitch isLimit).find? (·.name == "short_code_max_length") = some _)
    (fun _ _ => rfl) (by simp [forms]) distinct base
  have eta : ∀ r : Rules,
      r = ⟨r.alphanumeric, r.shortCode, r.international, r.shortCodeLimit⟩ := fun _ => rfl
  rw [eta (List.foldl _ _ _), alphanumeric, shortCode, international, limit]
  simp only [elim_getD]
  rfl

/-- **Rules are read by laying values over the rules at the start.** -/
theorem overrides_takes (base : Rules) :
    (overrides base).reader.Takes IsOverlay (overlaid base) :=
  (hasForms_overrides base).reader_takes.congr (fun _ => isOverlay_iff.symm)
    fun _ h => foldl_editBy_eq_overlaid h.1 _ _ base

end ShortMessage.Rules
