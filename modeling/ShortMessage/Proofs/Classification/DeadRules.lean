import ShortMessage.Config
import ShortMessage.Proofs.Classification.Switches

/-!
# Rules that can never decide

A rule that is on is dead if no number is classified by it. Each of the three rules has numbers of
its own, however the others are set: a name for the alphanumeric rule, a single digit for the short
code rule, and a number with more digits than a short code may have for the international rule. Only
a short code rule that allows no digit has none, and this is what the check of rules looks for.

* `exists_hasDigits` gives numbers with any count of digits.
* `Rule.exists_decides_iff` says which rules decide on some number.
* `Rules.Gives` says that some number gets a type, `Rules.gives_mark_iff` which types of rules do.
* `Rules.validate_eq_ok_iff_gives` says that rules are valid if and only if none of them is dead.
-/

namespace ShortMessage

/-! ### Numbers for each rule -/

/-- There are numbers with any count of digits but none, with a plus in front or without. -/
theorem exists_hasDigits (plus : Bool) (n : ℕ) :
    ∃ number ds, HasDigits number plus ds ∧ ds.length = n + 1 := by
  have digits : ∀ d ∈ List.replicate (n + 1) '0', d.isDigit = true := by
    intro d hd
    rw [List.eq_of_mem_replicate hd]
    rfl
  refine ⟨String.ofList (if plus then '+' :: List.replicate (n + 1) '0'
    else List.replicate (n + 1) '0'), List.replicate (n + 1) '0', ⟨?_, digits, ?_⟩, ?_⟩
  · exact List.cons_ne_nil _ _
  · exact String.toList_ofList
  · exact List.length_replicate

/-- A number of digits has a character. -/
theorem HasDigits.ne_empty {number : String} {plus : Bool} {ds : List Char}
    (h : HasDigits number plus ds) : number ≠ "" := by
  rintro rfl
  obtain ⟨nonempty, -, text⟩ := h
  cases plus with
  | true => cases text
  | false => exact nonempty text.symm

/-- A letter is not made of digits. -/
theorem not_hasDigits_letter : ¬ ∃ plus ds, HasDigits "A" plus ds := by
  rw [← @applies_alphanumeric_iff 0]
  rfl

namespace Rule

variable {r : Rules} {rule : Rule}

theorem Decides.isOn {number : String} (h : rule.Decides r number) : r.isOn rule = true := by
  cases rule <;> exact h.1

/-- A rule that is on decides on some number, unless it is the short code rule and allows no
digit. -/
theorem exists_decides_iff : (∃ number, number ≠ "" ∧ rule.Decides r number) ↔
    r.isOn rule = true ∧ (rule = .shortCode → r.shortCodeLimit ≠ 0) := by
  constructor
  · rintro ⟨number, -, decides⟩
    refine ⟨decides.isOn, ?_⟩
    rintro rfl none
    -- a short code has a digit, which is more than the limit allows
    obtain ⟨-, plus, ds, has, short⟩ := decides
    rw [none] at short
    exact has.nonempty (List.length_eq_zero_iff.1 (Nat.le_zero.1 short))
  · rintro ⟨on, allows⟩
    cases rule with
    | alphanumeric => exact ⟨"A", by decide, on, not_hasDigits_letter⟩
    | shortCode =>
      obtain ⟨number, ds, has, single⟩ := exists_hasDigits false 0
      have positive : r.shortCodeLimit.toNat ≠ 0 := by
        intro zero
        exact allows rfl (UInt64.toNat_inj.1 zero)
      exact ⟨number, has.ne_empty, on, false, ds, has, by omega⟩
    | international =>
      -- one digit more than a short code may have
      obtain ⟨number, ds, has, long⟩ := exists_hasDigits true r.shortCodeLimit.toNat
      refine ⟨number, has.ne_empty, on, ds, has, ?_⟩
      rintro ⟨-, short⟩
      omega

end Rule

/-! ### The check of rules -/

namespace Rules

variable {r : Rules}

/-- Some number gets the type. -/
def Gives (r : Rules) (ton : TypeOfNumber) : Prop :=
  ∃ number a, (r.classify (some (.ofString number))).result = .ok a ∧ a.ton = ton

/-- The type of a rule is given to the numbers on which the rule decides. -/
theorem gives_mark_iff {rule : Rule} :
    r.Gives rule.mark.1 ↔ ∃ number, number ≠ "" ∧ rule.Decides r number := by
  constructor
  · rintro ⟨number, a, result, ton⟩
    by_cases blank : number = ""
    · -- an empty number has the unknown type, which is that of no rule
      subst blank
      cases result
      cases rule <;> cases ton
    · rw [r.classify_ofString_result blank] at result
      cases result
      exact ⟨number, blank, deciding?_eq_some_iff.1 (ton_addressBy_eq_iff.1 ton)⟩
  · rintro ⟨number, characters, decides⟩
    refine ⟨number, _, r.classify_ofString_result characters, ?_⟩
    exact ton_addressBy_eq_iff.2 (deciding?_eq_some_iff.2 decides)

/-- The rules are valid unless the short code rule is on and allows no digit. -/
theorem validate_eq_ok_iff_limit :
    r.validate = .ok () ↔ (r.shortCode = true → r.shortCodeLimit ≠ 0) := by
  rw [validate, isSound]
  cases r.shortCode <;> simp

/-- **Rules are valid if and only if none of them is dead.** They pass the check exactly when each
rule that is on gives its type to some number. -/
theorem validate_eq_ok_iff_gives (r : Rules) :
    r.validate = .ok () ↔
      (r.alphanumeric = true → r.Gives .alphanumeric) ∧
      (r.shortCode = true → r.Gives .networkSpecific) ∧
      (r.international = true → r.Gives .international) := by
  have gives : ∀ rule, r.Gives rule.mark.1 ↔
      r.isOn rule = true ∧ (rule = .shortCode → r.shortCodeLimit ≠ 0) := by
    intro rule
    rw [gives_mark_iff, Rule.exists_decides_iff]
  -- the first and the last of the rules have numbers of their own as soon as they are on
  have alphanumeric : r.Gives .alphanumeric ↔ r.alphanumeric = true :=
    (gives .alphanumeric).trans (by simp [isOn])
  have shortCode : r.Gives .networkSpecific ↔ r.shortCode = true ∧ r.shortCodeLimit ≠ 0 :=
    (gives .shortCode).trans (by simp [isOn])
  have international : r.Gives .international ↔ r.international = true :=
    (gives .international).trans (by simp [isOn])
  rw [validate_eq_ok_iff_limit, alphanumeric, shortCode, international]
  constructor
  · intro allows
    exact ⟨id, fun on => ⟨on, allows on⟩, id⟩
  · intro live on
    exact (live.2.1 on).2

end Rules

end ShortMessage
