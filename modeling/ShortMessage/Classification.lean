import ShortMessage.Attempt
import ShortMessage.Text.Utf8

/-!
# Classification of phones

The rules that are on are tried on a number one after another, and the first that applies gives the
type of number and the plan. Where none applies, the type is unknown and the plan is that of the
telephone. A number keeps its characters; only for the rules is one leading plus left out of it, and
the rules look at its octets.

* `Rule.applies` says to which numbers a rule applies.
* `Rules.firstRule` tries rules and reports each one that is tried.
* `Rules.classify` gives a phone its address.
-/

namespace ShortMessage

/-- A number without the plus in front of it. -/
def withoutPlus : List Char → List Char
  | '+' :: rest => rest
  | number => number

/-- At least one octet, and all octets are digits. -/
def isDigits (cs : List Char) : Bool :=
  !cs.isEmpty && (Text.utf8 cs).all Text.isDigitOctet

/-- Whether a rule applies to a number, where `limit` is the most digits of a short code. Digits are
counted by their octets, and the plus is not one of them. -/
def Rule.applies (limit : UInt64) (number : List Char) : Rule → Bool
  | alphanumeric => !isDigits (withoutPlus number)
  | shortCode =>
    isDigits (withoutPlus number) && (Text.utf8 (withoutPlus number)).length ≤ limit.toNat
  | international => isDigits (withoutPlus number) && number.head? == some '+'

namespace Rules

/-- Tries rules on a number up to the first that applies. -/
def firstOf (limit : UInt64) (number : List Char) : List Rule → Attempt (Option Rule)
  | [] => pure none
  | rule :: rules => do
    Attempt.report (.ruleTried rule limit)
    if rule.applies limit number then pure (some rule) else firstOf limit number rules

/-- The first of the rules that are on that applies to a number. -/
def firstRule (r : Rules) (number : List Char) : Attempt (Option Rule) :=
  firstOf r.shortCodeLimit number r.enabled

/-- The type of number and the plan where no rule applies. -/
def fallback : TypeOfNumber × NumberingPlan := (.unknown, .isdnTelephone)

/-- The address of a number that is not empty. -/
def classifyNumber (r : Rules) (number : String) : Attempt Address := do
  let rule ← r.firstRule number.toList
  let mark := (rule.map Rule.mark).getD fallback
  Attempt.report (.classified number mark.1 mark.2)
  pure ⟨some number, mark.1, mark.2⟩

/-- The address of an empty phone. -/
def classifyEmpty : Attempt Address := do
  Attempt.report .phoneEmpty
  pure .unaddressed

/-- The address of a phone; a phone has to be given. -/
def classify (r : Rules) : Option Phone → Attempt Address
  | none => do
    Attempt.report .phoneMissing
    Attempt.fail .missingPhone
  | some ⟨none⟩ => classifyEmpty
  | some ⟨some number⟩ => if number = "" then classifyEmpty else r.classifyNumber number

end Rules

end ShortMessage
