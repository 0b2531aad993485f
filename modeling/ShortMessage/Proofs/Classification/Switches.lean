import ShortMessage.Proofs.Classification

/-!
# What a switch of a rule changes

The rules that are on are tried in a fixed order, and the first that applies decides. To switch a
rule on is to put one more rule in the list that is searched: the search ends at that rule, or where
it ended before. The limit on short codes is of that kind too, for a higher limit only lets the
short code rule apply to more numbers.

* `Rules.deciding?` is the rule that decides, and `Rules.addressBy` what it makes of a number.
* `Rules.deciding?_withSwitch_true` and `Rules.deciding?_of_limit_le` say what a switch and what the
  limit change about the rule that decides.
* `Rules.classify_switched` says what they change about the address.
-/

namespace ShortMessage

/-- A search with one more candidate finds that one, or what it found before. -/
theorem find?_eq_or_of_eq_false {α : Type} {p q : α → Bool} {a : α}
    (same : ∀ x, x ≠ a → p x = q x) (off : q a = false) (l : List α) :
    l.find? p = some a ∨ l.find? p = l.find? q := by
  induction l with
  | nil => exact .inr rfl
  | cons x l ih =>
    by_cases here : x = a
    · subst here
      rw [List.find?_cons, List.find?_cons_of_neg (by simp [off])]
      cases p x with
      | true => exact .inl rfl
      | false => exact ih
    · rw [List.find?_cons, List.find?_cons, same x here]
      cases q x with
      | true => exact .inr rfl
      | false => exact ih

/-- Only the short code rule looks at the limit. -/
theorem Rule.applies_limit {rule : Rule} (h : rule ≠ .shortCode) (limit other : UInt64)
    (number : List Char) : rule.applies limit number = rule.applies other number := by
  cases rule with
  | shortCode => exact absurd rfl h
  | alphanumeric | international => rfl

/-- A short code under some limit is one under every higher limit. -/
theorem Rule.applies_shortCode_mono {limit other : UInt64} {number : List Char}
    (le : limit ≤ other) (h : Rule.shortCode.applies limit number = true) :
    Rule.shortCode.applies other number = true := by
  simp only [Rule.applies, Bool.and_eq_true, decide_eq_true_eq] at h ⊢
  exact ⟨h.1, h.2.trans (UInt64.le_iff_toNat_le.1 le)⟩

namespace Rules

variable {r : Rules} {number : String} {rule : Rule} {limit other : UInt64}

/-! ### The rule that decides -/

/-- The first of the rules that are on that applies to a number. -/
def deciding? (r : Rules) (number : String) : Option Rule :=
  r.enabled.find? fun rule => rule.applies r.shortCodeLimit number.toList

theorem deciding?_eq_some_iff : r.deciding? number = some rule ↔ rule.Decides r number :=
  r.find?_enabled_eq_some_iff number rule

/-- A search among the rules that are on is one among all rules. -/
theorem deciding?_eq_find? (r : Rules) (number : String) :
    r.deciding? number = [Rule.alphanumeric, .shortCode, .international].find? fun rule =>
      r.isOn rule && rule.applies r.shortCodeLimit number.toList := by
  rw [deciding?, enabled, List.find?_filter]
  simp only [Bool.decide_and, Bool.decide_eq_true]

theorem deciding?_withSwitch_false : (r.withSwitch rule false).deciding? number ≠ some rule := by
  intro found
  simpa using List.mem_of_find?_eq_some found

/-- A rule that is switched on decides, or what decides is what decided without it. -/
theorem deciding?_withSwitch_true (r : Rules) (rule : Rule) (number : String) :
    (r.withSwitch rule true).deciding? number = some rule ∨
      (r.withSwitch rule true).deciding? number = (r.withSwitch rule false).deciding? number := by
  rw [deciding?_eq_find?, deciding?_eq_find?]
  refine find?_eq_or_of_eq_false (fun x ne => ?_) ?_ _
  · simp [ne]
  · simp

/-- The limit matters only through the short code rule. -/
theorem deciding?_withLimit_congr
    (same : (r.isOn .shortCode && Rule.shortCode.applies limit number.toList) =
      (r.isOn .shortCode && Rule.shortCode.applies other number.toList)) :
    (r.withLimit limit).deciding? number = (r.withLimit other).deciding? number := by
  rw [deciding?_eq_find?, deciding?_eq_find?]
  congr 1
  funext rule
  simp only [isOn_withLimit, shortCodeLimit_withLimit]
  by_cases short : rule = .shortCode
  · rw [short, same]
  · rw [Rule.applies_limit short limit other]

/-- Under another limit the short code rule decides, or what decides is what decided under a limit
that keeps it from applying. -/
theorem deciding?_withLimit_cases (r : Rules) (other : UInt64)
    (long : Rule.shortCode.applies limit number.toList = false) :
    (r.withLimit other).deciding? number = some .shortCode ∨
      (r.withLimit other).deciding? number = (r.withLimit limit).deciding? number := by
  rw [deciding?_eq_find?, deciding?_eq_find?]
  refine find?_eq_or_of_eq_false (fun rule ne => ?_) ?_ _
  · simp [Rule.applies_limit ne other limit]
  · simp [long]

/-- Under a higher limit the same rule decides, or it is the short code rule where it was the
international one or none. -/
theorem deciding?_of_limit_le (r : Rules) (number : String) (le : limit ≤ other) :
    (r.withLimit other).deciding? number = (r.withLimit limit).deciding? number ∨
      (r.withLimit other).deciding? number = some .shortCode ∧
        ((r.withLimit limit).deciding? number = some .international ∨
          (r.withLimit limit).deciding? number = none) := by
  by_cases already : Rule.shortCode.applies limit number.toList = true
  · have later := Rule.applies_shortCode_mono le already
    exact .inl (deciding?_withLimit_congr (by rw [already, later]))
  · rw [Bool.not_eq_true] at already
    refine (deciding?_withLimit_cases r other already).symm.imp_right fun short => ⟨short, ?_⟩
    rcases before : (r.withLimit limit).deciding? number with _ | rule
    · exact .inr rfl
    cases rule with
    | international => exact .inl rfl
    | shortCode =>
      -- a rule that decides applies, and this one does not under the lower limit
      have applies := List.find?_some before
      exact absurd (applies.symm.trans already) (by decide)
    | alphanumeric =>
      -- a short code is made of digits, which the alphanumeric rule leaves alone
      obtain ⟨-, plus, ds, digits, -⟩ := deciding?_eq_some_iff.1 short
      exact absurd ⟨plus, ds, digits⟩ (deciding?_eq_some_iff.1 before).2

/-- Without the short code rule the limit does not matter. -/
theorem deciding?_withLimit_of_off (off : r.shortCode = false) (limit : UInt64) (number : String) :
    (r.withLimit limit).deciding? number = r.deciding? number := by
  have silent : r.isOn .shortCode = false := off
  show (r.withLimit limit).deciding? number = (r.withLimit r.shortCodeLimit).deciding? number
  exact deciding?_withLimit_congr (by rw [silent, Bool.false_and, Bool.false_and])

/-! ### The address -/

/-- The address of a number that is not empty, by the rule that decides, if one does. -/
def addressBy (number : String) (rule : Option Rule) : Address :=
  ⟨some number, ((rule.map Rule.mark).getD fallback).1, ((rule.map Rule.mark).getD fallback).2⟩

/-- The type of number tells which rule decided, and whether one did. -/
theorem ton_addressBy_eq_iff {found : Option Rule} :
    (addressBy number found).ton = rule.mark.1 ↔ found = some rule := by
  rcases found with _ | decided
  · cases rule <;> simp [addressBy, fallback, Rule.mark]
  · cases rule <;> cases decided <;> simp [addressBy, Rule.mark]

/-- The address of a number that is not empty is made by the rule that decides. -/
theorem classify_ofString_result (r : Rules) (h : number ≠ "") :
    (r.classify (some (.ofString number))).result = .ok (addressBy number (r.deciding? number)) := by
  rw [Phone.ofString, classify, if_neg h, classifyNumber, Attempt.result_bind, firstRule_result]
  rfl

/-- Rules matter to a phone only through the rule that decides on its number. -/
theorem classify_some_cases (phone : Phone) :
    (∀ r : Rules, (r.classify (some phone)).result = .ok .unaddressed) ∨
      ∃ number, ∀ r : Rules,
        (r.classify (some phone)).result = .ok (addressBy number (r.deciding? number)) := by
  obtain ⟨_ | number⟩ := phone
  · exact .inl fun r => rfl
  by_cases blank : number = ""
  · subst blank
    exact .inl fun r => rfl
  · exact .inr ⟨number, fun r => r.classify_ofString_result blank⟩

/-- **A switch acts only on the addresses of its own rule.** With a rule switched off no phone gets
the type of that rule; with it switched on a phone gets the type and the plan of the rule, or the
same address as without it. A higher limit makes short codes of international numbers and of numbers
that no rule decided on, and leaves all other addresses as they are; without the short code rule the
limit does not matter. -/
theorem classify_switched (r : Rules) (phone : Phone) :
    (∀ rule, ∃ a b, ((r.withSwitch rule false).classify (some phone)).result = .ok a ∧
      ((r.withSwitch rule true).classify (some phone)).result = .ok b ∧
      a.ton ≠ rule.mark.1 ∧ ((b.ton, b.plan) = rule.mark ∨ b = a)) ∧
    (∀ limit other, limit ≤ other →
      ∃ a b, ((r.withLimit limit).classify (some phone)).result = .ok a ∧
        ((r.withLimit other).classify (some phone)).result = .ok b ∧
        (b = a ∨ (b.ton, b.plan) = (.networkSpecific, .unknown) ∧
          ((a.ton, a.plan) = (.international, .isdnTelephone) ∨
            (a.ton, a.plan) = (.unknown, .isdnTelephone)))) ∧
    (r.shortCode = false → ∀ limit, ((r.withLimit limit).classify (some phone)).result =
      (r.classify (some phone)).result) ∧
    [Rule.alphanumeric, .shortCode, .international].map Rule.mark = [(.alphanumeric, .unknown),
      (.networkSpecific, .unknown), (.international, .isdnTelephone)] := by
  rcases classify_some_cases phone with empty | ⟨number, address⟩
  · refine ⟨fun rule => ⟨_, _, empty _, empty _, ?_, .inr rfl⟩,
      fun limit other _ => ⟨_, _, empty _, empty _, .inl rfl⟩,
      fun _ limit => (empty _).trans (empty r).symm, rfl⟩
    cases rule <;> exact nofun
  · refine ⟨fun rule => ⟨_, _, address _, address _, ?_, ?_⟩,
      fun limit other le => ⟨_, _, address _, address _, ?_⟩, fun off limit => ?_, rfl⟩
    · rw [ne_eq, ton_addressBy_eq_iff]
      exact deciding?_withSwitch_false
    · rcases r.deciding?_withSwitch_true rule number with own | same
      · rw [own]
        exact .inl rfl
      · rw [same]
        exact .inr rfl
    · rcases r.deciding?_of_limit_le number le with same | ⟨short, international | undecided⟩
      · rw [same]
        exact .inl rfl
      · rw [short, international]
        exact .inr ⟨rfl, .inl rfl⟩
      · rw [short, undecided]
        exact .inr ⟨rfl, .inr rfl⟩
    · rw [address, address, deciding?_withLimit_of_off off]

/-- The fifth digit of an international number makes it a short code under a limit of five, and only
if the short code rule is on. -/
theorem classify_switched_limit :
    (4 : UInt64) ≤ 5 ∧ recipient.shortCode = false ∧
    (∃ a b, ((sender.withLimit 4).classify (some (.ofString "+12345"))).result = .ok a ∧
      ((sender.withLimit 5).classify (some (.ofString "+12345"))).result = .ok b ∧
      a = ⟨some "+12345", .international, .isdnTelephone⟩ ∧
      b = ⟨some "+12345", .networkSpecific, .unknown⟩ ∧
      (b = a ∨ (b.ton, b.plan) = (.networkSpecific, .unknown) ∧
        ((a.ton, a.plan) = (.international, .isdnTelephone) ∨
          (a.ton, a.plan) = (.unknown, .isdnTelephone)))) ∧
    ((recipient.withLimit 4).classify (some (.ofString "+12345"))).result =
      (recipient.classify (some (.ofString "+12345"))).result := by
  have le : (4 : UInt64) ≤ 5 := by decide
  obtain ⟨-, limits, -⟩ := classify_switched sender (.ofString "+12345")
  obtain ⟨a, b, ha, hb, change⟩ := limits 4 5 le
  have low : ((sender.withLimit 4).classify (some (.ofString "+12345"))).result =
      .ok ⟨some "+12345", .international, .isdnTelephone⟩ := by
    decide +kernel
  have high : ((sender.withLimit 5).classify (some (.ofString "+12345"))).result =
      .ok ⟨some "+12345", .networkSpecific, .unknown⟩ := by
    decide +kernel
  exact ⟨le, rfl, ⟨a, b, ha, hb, Except.ok.inj (ha.symm.trans low),
    Except.ok.inj (hb.symm.trans high), change⟩,
    (classify_switched recipient (.ofString "+12345")).2.2.1 rfl 4⟩

end Rules

end ShortMessage
