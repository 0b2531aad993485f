import Mathlib.Tactic
import ShortMessage.Classification

/-!
# What a phone is classified as

Trying rules one after another finds the first one that applies, so the outcome of a classification
is a search in the list of the rules that are on. Only a phone that is not given has no address.

The rules look at octets and in a fixed order. What they decide can be said of the characters of a
number, and of each rule without the others.

* `HasDigits` are the numbers made of digits, and `Rule.Decides` says when a rule decides.
* `Rules.find?_enabled_eq_some_iff` says that the first rule that applies is the one that decides.
* `Rules.classify_some_result` says what a phone is classified as.
-/

namespace ShortMessage

namespace Rules

/-- Trying rules finds the first that applies. -/
theorem firstOf_result (limit : UInt64) (number : List Char) (rules : List Rule) :
    (firstOf limit number rules).result =
      .ok (rules.find? fun rule => rule.applies limit number) := by
  induction rules with
  | nil => rfl
  | cons rule rules ih =>
    rw [firstOf, Attempt.result_bind]
    by_cases applies : rule.applies limit number = true
    · rw [if_pos applies, List.find?_cons_of_pos applies]
      rfl
    · -- a rule that does not apply leaves nothing but a report
      rw [if_neg applies, List.find?_cons_of_neg applies]
      exact ih

variable (r : Rules)

theorem firstRule_result (number : List Char) :
    (r.firstRule number).result =
      .ok (r.enabled.find? fun rule => rule.applies r.shortCodeLimit number) :=
  firstOf_result _ _ _

@[simp] theorem classify_none_result : (r.classify none).result = .error .missingPhone := rfl

/-- A phone that is given has an address. -/
theorem exists_classify_some (phone : Phone) :
    ∃ a, (r.classify (some phone)).result = .ok a := by
  obtain ⟨_ | number⟩ := phone
  · exact ⟨.unaddressed, rfl⟩
  · rw [classify]
    by_cases blank : number = ""
    · rw [if_pos blank]
      exact ⟨.unaddressed, rfl⟩
    · rw [if_neg blank, classifyNumber, Attempt.result_bind, firstRule_result]
      exact ⟨_, rfl⟩

end Rules

/-! ### Numbers made of digits -/

/-- The number consists of some digits, with a plus in front or without. -/
structure HasDigits (number : String) (plus : Bool) (ds : List Char) : Prop where
  nonempty : ds ≠ []
  digits : ∀ d ∈ ds, d.isDigit = true
  text : number.toList = if plus then '+' :: ds else ds

theorem isDigits_iff {cs : List Char} :
    isDigits cs = true ↔ cs ≠ [] ∧ ∀ d ∈ cs, d.isDigit = true := by
  rw [isDigits, Text.all_isDigitOctet_utf8, Bool.and_eq_true, List.all_eq_true]
  cases cs <;> simp

/-- Only one plus is left out, and a digit is no plus. -/
theorem withoutPlus_eq_iff {cs ds : List Char} {plus : Bool} (digits : isDigits ds = true) :
    withoutPlus cs = ds ∧ (cs.head? == some '+') = plus ↔
      cs = if plus then '+' :: ds else ds := by
  obtain ⟨d, t, rfl⟩ := List.exists_cons_of_ne_nil (isDigits_iff.1 digits).1
  have first : d ≠ '+' := by
    rintro rfl
    exact absurd ((isDigits_iff.1 digits).2 _ List.mem_cons_self) (by decide)
  unfold withoutPlus
  split
  · cases plus <;> simp [Ne.symm first]
  · next other =>
    have unsigned : cs.head? ≠ some '+' := by
      intro sign
      obtain ⟨rest, h⟩ := List.head?_eq_some_iff.1 sign
      exact other rest h
    cases plus with
    | true =>
      rw [beq_eq_false_iff_ne.2 unsigned]
      exact iff_of_false (by simp) (other _)
    | false => simp [unsigned]

theorem hasDigits_iff {number : String} {plus : Bool} {ds : List Char} :
    HasDigits number plus ds ↔ isDigits ds = true ∧ withoutPlus number.toList = ds ∧
      (number.toList.head? == some '+') = plus := by
  constructor
  · rintro ⟨nonempty, digits, text⟩
    have isDigits := isDigits_iff.2 ⟨nonempty, digits⟩
    exact ⟨isDigits, (withoutPlus_eq_iff isDigits).2 text⟩
  · rintro ⟨isDigits, text⟩
    obtain ⟨nonempty, digits⟩ := isDigits_iff.1 isDigits
    exact ⟨nonempty, digits, (withoutPlus_eq_iff isDigits).1 text⟩

/-! ### The rule that decides -/

/-- When a rule decides what a number is classified as. The alphanumeric rule takes the numbers that
are not made of digits, and a short code is no international number. -/
def Rule.Decides (r : Rules) (number : String) : Rule → Prop
  | alphanumeric => r.alphanumeric = true ∧ ¬ ∃ plus ds, HasDigits number plus ds
  | shortCode => r.shortCode = true ∧
      ∃ plus ds, HasDigits number plus ds ∧ ds.length ≤ r.shortCodeLimit.toNat
  | international => r.international = true ∧ ∃ ds, HasDigits number true ds ∧
      ¬ (r.shortCode = true ∧ ds.length ≤ r.shortCodeLimit.toNat)

section

variable {limit : UInt64} {number : String}

theorem applies_alphanumeric_iff :
    Rule.alphanumeric.applies limit number.toList = true ↔
      ¬ ∃ plus ds, HasDigits number plus ds := by
  simp [Rule.applies, hasDigits_iff]

theorem applies_shortCode_iff :
    Rule.shortCode.applies limit number.toList = true ↔
      ∃ plus ds, HasDigits number plus ds ∧ ds.length ≤ limit.toNat := by
  rw [Rule.applies, Bool.and_eq_true, decide_eq_true_eq]
  constructor
  · rintro ⟨digits, short⟩
    rw [Text.length_utf8_of_isDigit (isDigits_iff.1 digits).2] at short
    exact ⟨_, _, hasDigits_iff.2 ⟨digits, rfl, rfl⟩, short⟩
  · rintro ⟨plus, ds, has, short⟩
    obtain ⟨digits, text, -⟩ := hasDigits_iff.1 has
    rw [text, Text.length_utf8_of_isDigit has.digits]
    exact ⟨digits, short⟩

theorem applies_international_iff :
    Rule.international.applies limit number.toList = true ↔ ∃ ds, HasDigits number true ds := by
  simp [Rule.applies, hasDigits_iff]

/-- The digits of a number are the only ones. -/
theorem HasDigits.unique {plus other : Bool} {ds es : List Char} (h : HasDigits number plus ds)
    (h' : HasDigits number other es) : ds = es :=
  (hasDigits_iff.1 h).2.1.symm.trans (hasDigits_iff.1 h').2.1

end

namespace Rules

variable (r : Rules)

/-- The rule that decides is any rule that applies, if none applies together with the alphanumeric
rule, and if the international rule leaves to the short code rule what is its own. -/
theorem find?_enabled_of_apart {p : Rule → Bool}
    (apart : ∀ rule, p .alphanumeric = true → p rule = true → rule = .alphanumeric) (rule : Rule) :
    r.enabled.find? p = some rule ↔ r.isOn rule = true ∧ p rule = true ∧
      (rule = .international → ¬ (r.shortCode = true ∧ p .shortCode = true)) := by
  -- the search tries the three rules in their order
  rw [enabled, List.find?_filter]
  by_cases first : r.isOn .alphanumeric = true ∧ p .alphanumeric = true
  · rw [List.find?_cons, decide_eq_true first]
    constructor
    · rintro ⟨⟩
      refine ⟨first.1, first.2, ?_⟩
      rintro ⟨⟩
    · rintro ⟨-, applies, -⟩
      rw [apart rule first.2 applies]
  rw [List.find?_cons, decide_eq_false first]
  by_cases second : r.isOn .shortCode = true ∧ p .shortCode = true
  · rw [List.find?_cons, decide_eq_true second]
    constructor
    · rintro ⟨⟩
      refine ⟨second.1, second.2, ?_⟩
      rintro ⟨⟩
    · rintro ⟨on, applies, left⟩
      cases rule with
      | alphanumeric => exact absurd ⟨on, applies⟩ first
      | shortCode => rfl
      | international => exact absurd second (left rfl)
  rw [List.find?_cons, decide_eq_false second]
  by_cases third : r.isOn .international = true ∧ p .international = true
  · rw [List.find?_cons, decide_eq_true third]
    constructor
    · rintro ⟨⟩
      exact ⟨third.1, third.2, fun _ => second⟩
    · rintro ⟨on, applies, -⟩
      cases rule with
      | alphanumeric => exact absurd ⟨on, applies⟩ first
      | shortCode => exact absurd ⟨on, applies⟩ second
      | international => rfl
  rw [List.find?_cons, decide_eq_false third]
  constructor
  · rintro ⟨⟩
  · rintro ⟨on, applies, -⟩
    cases rule with
    | alphanumeric => exact absurd ⟨on, applies⟩ first
    | shortCode => exact absurd ⟨on, applies⟩ second
    | international => exact absurd ⟨on, applies⟩ third

theorem find?_enabled_eq_some_iff (number : String) (rule : Rule) :
    (r.enabled.find? fun rule => rule.applies r.shortCodeLimit number.toList) = some rule ↔
      rule.Decides r number := by
  rw [find?_enabled_of_apart]
  · cases rule with
    | alphanumeric => simp [Rule.Decides, isOn, applies_alphanumeric_iff]
    | shortCode => simp [Rule.Decides, isOn, applies_shortCode_iff]
    | international =>
      rw [applies_international_iff, applies_shortCode_iff]
      -- a number has one count of digits, so both rules speak of the same one
      constructor
      · rintro ⟨on, ⟨ds, has⟩, long⟩
        exact ⟨on, ds, has, fun short => long rfl ⟨short.1, true, ds, has, short.2⟩⟩
      · rintro ⟨on, ds, has, long⟩
        refine ⟨on, ⟨ds, has⟩, ?_⟩
        rintro - ⟨shortCode, plus, es, has', short⟩
        exact long ⟨shortCode, has.unique has' ▸ short⟩
  · intro rule alphanumeric applies
    rw [applies_alphanumeric_iff] at alphanumeric
    cases rule with
    | alphanumeric => rfl
    | shortCode =>
      obtain ⟨plus, ds, has, -⟩ := applies_shortCode_iff.1 applies
      exact absurd ⟨plus, ds, has⟩ alphanumeric
    | international =>
      obtain ⟨ds, has⟩ := applies_international_iff.1 applies
      exact absurd ⟨true, ds, has⟩ alphanumeric

/-- The address that rules give a number, said for each type and plan apart. -/
structure IsClassified (number : String) (a : Address) : Prop where
  verbatim : a.number = some number
  alphanumeric : (a.ton, a.plan) = (.alphanumeric, .unknown) ↔ Rule.Decides r number .alphanumeric
  shortCode : (a.ton, a.plan) = (.networkSpecific, .unknown) ↔ Rule.Decides r number .shortCode
  international :
    (a.ton, a.plan) = (.international, .isdnTelephone) ↔ Rule.Decides r number .international
  undecided : (a.ton, a.plan) = (.unknown, .isdnTelephone) ↔ ∀ rule, ¬ Rule.Decides r number rule
  complete : (a.ton, a.plan) ∈ [(.alphanumeric, .unknown), (.networkSpecific, .unknown),
    (.international, .isdnTelephone), (.unknown, .isdnTelephone)]

theorem isClassified_classifyNumber (number : String) :
    ∃ a, (r.classifyNumber number).result = .ok a ∧ r.IsClassified number a := by
  rw [classifyNumber, Attempt.result_bind, firstRule_result]
  refine ⟨_, rfl, ?_⟩
  have decides := r.find?_enabled_eq_some_iff number
  cases found : r.enabled.find? fun rule => rule.applies r.shortCodeLimit number.toList with
  | none =>
    have undecided : ∀ rule, ¬ Rule.Decides r number rule := by
      intro rule
      rw [← decides, found]
      nofun
    constructor <;> simp [undecided, fallback]
  | some rule =>
    have only : ∀ other, Rule.Decides r number other ↔ other = rule := by
      intro other
      rw [← decides, found, Option.some.injEq, eq_comm]
    cases rule <;> constructor <;> simp [only, Rule.mark]

/-- **Classification meets its description on characters.** A phone gets the address without a number
if and only if it is empty. Every other phone keeps its number, and the type and the plan are those
of the one rule that decides, or the fallback if none does. -/
theorem classify_some_result (r : Rules) (phone : Phone) :
    ∃ a, (r.classify (some phone)).result = .ok a ∧
      (a = .unaddressed ↔ phone.isEmpty = true) ∧
      (phone.isEmpty = true ∨
        ∃ number, phone.number = some number ∧ r.IsClassified number a) := by
  obtain ⟨_ | number⟩ := phone
  · exact ⟨.unaddressed, rfl, by simp [Phone.isEmpty], .inl rfl⟩
  by_cases blank : number = ""
  · subst blank
    exact ⟨.unaddressed, rfl, by simp [Phone.isEmpty], .inl rfl⟩
  · obtain ⟨a, result, classified⟩ := r.isClassified_classifyNumber number
    refine ⟨a, ?_, ?_, .inr ⟨number, rfl, classified⟩⟩
    · rw [classify, if_neg blank, result]
    · have numbered : a ≠ .unaddressed := by
        rintro rfl
        exact nomatch classified.verbatim
      simp [Phone.isEmpty, numbered, blank]

/-- A digit of another script is a character like any other. -/
example : (sender.classify (some (.ofString "+٣"))).result =
    .ok ⟨some "+٣", .alphanumeric, .unknown⟩ := by
  decide +kernel

end Rules

end ShortMessage
