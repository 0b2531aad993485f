import ShortMessage.Numbering

/-!
# Rules of classification

Three rules say which type of number and which plan a number gets: the alphanumeric rule, the short
code rule and the international rule. They are tried in this order. Each can be switched off, and the
short code rule has a limit on the count of digits.

* `Rules.sender`, `Rules.recipient` and `Rules.disabled` are ready-made choices.
* `Rules.withSwitch` switches one rule on or off, `Rules.withLimit` sets the limit.
* `Rules.enabled` lists the rules that are on, in the order in which they are tried.
* `Rules.isSound` tells whether each rule that is on can apply to some number.
-/

namespace ShortMessage

/-- A rule of classification. -/
inductive Rule
  | alphanumeric
  | shortCode
  | international
  deriving DecidableEq, Repr

/-- The type of number and the plan that a rule gives. -/
def Rule.mark : Rule → TypeOfNumber × NumberingPlan
  | alphanumeric => (.alphanumeric, .unknown)
  | shortCode => (.networkSpecific, .unknown)
  | international => (.international, .isdnTelephone)

/-- Which rules are on, and the most digits of a short code. -/
structure Rules where
  alphanumeric : Bool
  shortCode : Bool
  international : Bool
  shortCodeLimit : UInt64
  deriving DecidableEq, Repr

namespace Rules

/-- The most digits of a short code where nothing else is said. -/
def defaultShortCodeLimit : UInt64 := 5

/-- A sender may be a name, a short code or an international number. -/
def sender : Rules := ⟨true, true, true, defaultShortCodeLimit⟩

/-- A recipient is a number that can be called. -/
def recipient : Rules := ⟨false, false, true, defaultShortCodeLimit⟩

/-- No rule is on. -/
def disabled : Rules := ⟨false, false, false, defaultShortCodeLimit⟩

/-- Where nothing is said, the rules are those of a sender. -/
instance : Inhabited Rules := ⟨sender⟩

/-- Whether a rule is on. -/
def isOn (r : Rules) : Rule → Bool
  | .alphanumeric => r.alphanumeric
  | .shortCode => r.shortCode
  | .international => r.international

/-- The rules with one of them switched on or off. -/
def withSwitch (r : Rules) (rule : Rule) (b : Bool) : Rules :=
  match rule with
  | .alphanumeric => { r with alphanumeric := b }
  | .shortCode => { r with shortCode := b }
  | .international => { r with international := b }

/-- The rules with another limit on the digits of a short code. -/
def withLimit (r : Rules) (limit : UInt64) : Rules :=
  { r with shortCodeLimit := limit }

/-- The rules that are on, in the order in which they are tried. -/
def enabled (r : Rules) : List Rule :=
  [Rule.alphanumeric, .shortCode, .international].filter r.isOn

/-- A short code rule that is on allows at least one digit. -/
def isSound (r : Rules) : Bool :=
  !(r.shortCode && r.shortCodeLimit == 0)

@[simp] theorem mem_enabled {r : Rules} {rule : Rule} : rule ∈ r.enabled ↔ r.isOn rule = true := by
  cases rule <;> simp [enabled]

@[simp] theorem isOn_withSwitch (r : Rules) (rule other : Rule) (b : Bool) :
    (r.withSwitch rule b).isOn other = if other = rule then b else r.isOn other := by
  cases rule <;> cases other <;> rfl

@[simp] theorem shortCodeLimit_withSwitch (r : Rules) (rule : Rule) (b : Bool) :
    (r.withSwitch rule b).shortCodeLimit = r.shortCodeLimit := by
  cases rule <;> rfl

@[simp] theorem isOn_withLimit (r : Rules) (limit : UInt64) (rule : Rule) :
    (r.withLimit limit).isOn rule = r.isOn rule := by
  cases rule <;> rfl

@[simp] theorem shortCodeLimit_withLimit (r : Rules) (limit : UInt64) :
    (r.withLimit limit).shortCodeLimit = limit := rfl

theorem isSound_sender : sender.isSound = true := rfl

theorem isSound_recipient : recipient.isSound = true := rfl

theorem isSound_disabled : disabled.isSound = true := rfl

end Rules

end ShortMessage
