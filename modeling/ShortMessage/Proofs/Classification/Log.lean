import ShortMessage.Proofs.Classification

/-!
# What a classification reports

The log of an attempt is what it reported, line by line, each with how much it matters. The log of a
classification tells which rules were tried: those that are on, one after another, up to and with
the first that matches the number. Its last line is the outcome.

* `Tries` says of a list of rules which are tried and which is found, without trying them, and
  `Rules.firstOf_eq` that trying them does and reports the same.
* `Rules.Reports` is the log of a phone that is given, and `Rules.reports_classify` says that its
  classification leaves this log.
-/

namespace ShortMessage

/-! ### The rules that are tried -/

/-- The numbers that a rule is for. The short code rule and the international rule have some in
common. -/
def Rule.Matches (limit : UInt64) (number : String) : Rule → Prop
  | alphanumeric => ¬ ∃ plus ds, HasDigits number plus ds
  | shortCode => ∃ plus ds, HasDigits number plus ds ∧ ds.length ≤ limit.toNat
  | international => ∃ ds, HasDigits number true ds

theorem Rule.applies_iff_matches {limit : UInt64} {number : String} {rule : Rule} :
    rule.applies limit number.toList = true ↔ rule.Matches limit number := by
  cases rule with
  | alphanumeric => exact applies_alphanumeric_iff
  | shortCode => exact applies_shortCode_iff
  | international => exact applies_international_iff

/-- Of some rules, those that are tried on a number, and the one that is found: the first that
matches and all before it, or all of them and none. -/
inductive Tries (limit : UInt64) (number : String) (rules : List Rule) :
    List Rule → Option Rule → Prop
  | found {before after : List Rule} {rule : Rule} (split : rules = before ++ rule :: after)
      (missed : ∀ other ∈ before, ¬ other.Matches limit number)
      (fits : rule.Matches limit number) :
      Tries limit number rules (before ++ [rule]) (some rule)
  | exhausted (missed : ∀ rule ∈ rules, ¬ rule.Matches limit number) :
      Tries limit number rules rules none

namespace Tries

variable {limit : UInt64} {number : String} {rule : Rule} {rules tried : List Rule}
  {found : Option Rule}

/-- After a rule that matches no other is tried. -/
theorem hit (fits : rule.Matches limit number) :
    Tries limit number (rule :: rules) [rule] (some rule) := by
  have split : rule :: rules = [] ++ rule :: rules := rfl
  exact .found split nofun fits

/-- After a rule that does not match the others are tried. -/
theorem miss (fails : ¬ rule.Matches limit number) (rest : Tries limit number rules tried found) :
    Tries limit number (rule :: rules) (rule :: tried) found := by
  cases rest with
  | @found before after other split missed fits =>
    have further : rule :: rules = (rule :: before) ++ other :: after := congrArg _ split
    exact .found further (List.forall_mem_cons.2 ⟨fails, missed⟩) fits
  | exhausted missed => exact .exhausted (List.forall_mem_cons.2 ⟨fails, missed⟩)

end Tries

namespace Rules

/-- Trying rules reports those that are tried, and ends with the one that is found. -/
theorem firstOf_eq (limit : UInt64) (number : String) (rules : List Rule) :
    ∃ tried found, Tries limit number rules tried found ∧
      firstOf limit number.toList rules = ⟨.ok found, tried.map (.ruleTried · limit)⟩ := by
  induction rules with
  | nil => exact ⟨[], none, .exhausted nofun, rfl⟩
  | cons rule rules ih =>
    by_cases fits : rule.Matches limit number
    · refine ⟨[rule], some rule, .hit fits, ?_⟩
      rw [firstOf, if_pos (Rule.applies_iff_matches.2 fits)]
      rfl
    · obtain ⟨tried, found, tries, rest⟩ := ih
      refine ⟨rule :: tried, found, tries.miss fits, ?_⟩
      rw [firstOf, if_neg (mt Rule.applies_iff_matches.1 fits), rest]
      rfl

/-- The log of a phone that is given. An empty one is reported as such. Of any other, each rule that
is tried is reported, and then the outcome, which is that of the rule that is found. -/
inductive Reports (r : Rules) : Phone → Address → List (Level × String) → Prop
  | empty {phone : Phone} (h : phone.isEmpty = true) :
      Reports r phone .unaddressed [(.trace, Event.phoneEmpty.message)]
  | numbered {number : String} {tried : List Rule} {found : Option Rule} {ton : TypeOfNumber}
      {plan : NumberingPlan} (h : number ≠ "")
      (tries : Tries r.shortCodeLimit number r.enabled tried found)
      (mark : (ton, plan) = (found.map Rule.mark).getD fallback) :
      Reports r (.ofString number) ⟨some number, ton, plan⟩
        (tried.map (fun rule => (.trace, (Event.ruleTried rule r.shortCodeLimit).message)) ++
          [(.debug, (Event.classified number ton plan).message)])

/-- A classification leaves the log of its phone. -/
theorem reports_classify (r : Rules) (phone : Phone) :
    ∃ a, (r.classify (some phone)).result = .ok a ∧
      r.Reports phone a (r.classify (some phone)).log := by
  obtain ⟨_ | number⟩ := phone
  · exact ⟨.unaddressed, rfl, .empty rfl⟩
  by_cases blank : number = ""
  · subst blank
    exact ⟨.unaddressed, rfl, .empty rfl⟩
  · obtain ⟨tried, found, tries, outcome⟩ := firstOf_eq r.shortCodeLimit number r.enabled
    rw [classify, if_neg blank, classifyNumber, firstRule, outcome]
    refine ⟨_, rfl, ?_⟩
    have lines : (⟨.ok found, tried.map (.ruleTried · r.shortCodeLimit)⟩ :
        Attempt (Option Rule)).log = tried.map fun rule =>
          (Level.trace, (Event.ruleTried rule r.shortCodeLimit).message) := by
      rw [Attempt.log, List.map_map]
      rfl
    rw [Attempt.log_bind rfl, lines]
    exact .numbered blank tries rfl

end Rules

end ShortMessage
