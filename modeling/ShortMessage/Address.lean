import ShortMessage.Numbering

/-!
# Phones and addresses

A phone is a number as someone wrote it, or the place for one that was left open. An address is a
number with its type and its numbering plan, ready for an address field.
-/

namespace ShortMessage

/-- A place for a number, which may hold none. -/
structure Phone where
  number : Option String
  deriving DecidableEq, Repr, Inhabited

namespace Phone

/-- The phone that holds no number. -/
def empty : Phone := ⟨none⟩

/-- The phone that holds a number. -/
def ofString (number : String) : Phone := ⟨some number⟩

/-- A phone is empty if it holds no number, or a number without characters. -/
def isEmpty (p : Phone) : Bool :=
  p.number.all (· == "")

/-- The number, or a mark that there is none. -/
def display (p : Phone) : String :=
  p.number.getD "<none>"

@[simp] theorem isEmpty_empty : empty.isEmpty = true := rfl

@[simp] theorem isEmpty_ofString (s : String) : (ofString s).isEmpty = (s == "") := rfl

end Phone

/-- A number with its type and its numbering plan. -/
structure Address where
  number : Option String
  ton : TypeOfNumber
  plan : NumberingPlan
  deriving DecidableEq, Repr

namespace Address

/-- The address without a number. -/
def unaddressed : Address := ⟨none, .unknown, .isdnTelephone⟩

/-- The number, or a mark that there is none, with the type and the plan. -/
def display (a : Address) : String :=
  Phone.display ⟨a.number⟩ ++ " [TON: " ++ a.ton.display ++ ", NPI: " ++ a.plan.display ++ "]"

end Address

end ShortMessage
