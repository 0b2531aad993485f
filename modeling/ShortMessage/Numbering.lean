/-!
# Types of number and numbering plans

An address field of a short message carries two codes in front of its digits: the type of number
says how the digits are to be understood, the numbering plan which plan they belong to. Both codes
are octets of which only some are assigned.

* `assigned` finds what an octet stands for, and `assigned_eq_ok_iff` says that this is what has the
  octet for its code.
* `TypeOfNumber.ofCode` and `NumberingPlan.ofCode` read a code that way. Each code stands for one type
  and for one plan, which is `code_injective`.
-/

namespace ShortMessage

/-- A code that is not assigned, and the field that it was read for. -/
structure UnassignedCode where
  field : String
  code : UInt8
  deriving DecidableEq, Repr

/-- The report on an unassigned code. -/
def UnassignedCode.message (e : UnassignedCode) : String :=
  "No discriminant in enum `" ++ e.field ++ "` matches the value `" ++ toString e.code.toNat ++ "`"

/-- What an octet stands for in a field, among values that have a code each. -/
def assigned {α : Type} (field : String) (code : α → UInt8) (all : List α) (n : UInt8) :
    Except UnassignedCode α :=
  match all.find? (code · == n) with
  | some a => .ok a
  | none => .error ⟨field, n⟩

/-- If every code is read back, an octet stands for the value with this code and for no other. -/
theorem assigned_eq_ok_iff {α : Type} {field : String} {code : α → UInt8} {all : List α}
    (known : ∀ a, assigned field code all (code a) = .ok a) {n : UInt8} {a : α} :
    assigned field code all n = .ok a ↔ code a = n := by
  constructor
  · intro h
    unfold assigned at h
    split at h
    · next found =>
      cases h
      simpa using List.find?_some found
    · cases h
  · rintro rfl
    exact known a

/-- How the digits of an address are to be understood. -/
inductive TypeOfNumber
  | unknown
  | international
  | national
  | networkSpecific
  | subscriberNumber
  | alphanumeric
  | abbreviated
  deriving DecidableEq, Repr

namespace TypeOfNumber

/-- Every type of number, in the order of the codes. -/
def all : List TypeOfNumber :=
  [unknown, international, national, networkSpecific, subscriberNumber, alphanumeric, abbreviated]

/-- The octet that stands for the type. -/
def code : TypeOfNumber → UInt8
  | unknown => 0
  | international => 1
  | national => 2
  | networkSpecific => 3
  | subscriberNumber => 4
  | alphanumeric => 5
  | abbreviated => 6

/-- The type that an octet stands for. -/
def ofCode : UInt8 → Except UnassignedCode TypeOfNumber :=
  assigned "TypeOfNumber" code all

theorem ofCode_eq_ok_iff {n : UInt8} {t : TypeOfNumber} : ofCode n = .ok t ↔ t.code = n :=
  assigned_eq_ok_iff fun t => by cases t <;> rfl

theorem code_injective : Function.Injective code := by
  intro a b same
  exact Except.ok.inj ((ofCode_eq_ok_iff.2 same).symm.trans (ofCode_eq_ok_iff.2 rfl))

/-- The name in plain words. -/
def label : TypeOfNumber → String
  | unknown => "unknown"
  | international => "international"
  | national => "national"
  | networkSpecific => "network specific"
  | subscriberNumber => "subscriber number"
  | alphanumeric => "alphanumeric"
  | abbreviated => "abbreviated"

/-- The name in a document. -/
def identifier : TypeOfNumber → String
  | unknown => "Unknown"
  | international => "International"
  | national => "National"
  | networkSpecific => "NetworkSpecific"
  | subscriberNumber => "SubscriberNumber"
  | alphanumeric => "Alphanumeric"
  | abbreviated => "Abbreviated"

/-- The name in plain words, with the code. -/
def display (t : TypeOfNumber) : String :=
  t.label ++ " (" ++ toString t.code.toNat ++ ")"

/-- Where nothing is said, the type is unknown. -/
instance : Inhabited TypeOfNumber := ⟨unknown⟩

end TypeOfNumber

/-- The plan that the digits of an address belong to. -/
inductive NumberingPlan
  | unknown
  | isdnTelephone
  | data
  | telex
  | landMobile
  | national
  | privateUse
  | ermes
  | internet
  | wapClientId
  deriving DecidableEq, Repr

namespace NumberingPlan

/-- Every numbering plan, in the order of the codes. -/
def all : List NumberingPlan :=
  [unknown, isdnTelephone, data, telex, landMobile, national, privateUse, ermes, internet,
    wapClientId]

/-- The octet that stands for the plan. -/
def code : NumberingPlan → UInt8
  | unknown => 0
  | isdnTelephone => 1
  | data => 3
  | telex => 4
  | landMobile => 6
  | national => 8
  | privateUse => 9
  | ermes => 10
  | internet => 14
  | wapClientId => 18

/-- The plan that an octet stands for. -/
def ofCode : UInt8 → Except UnassignedCode NumberingPlan :=
  assigned "NumberingPlanIndicator" code all

theorem ofCode_eq_ok_iff {n : UInt8} {p : NumberingPlan} : ofCode n = .ok p ↔ p.code = n :=
  assigned_eq_ok_iff fun p => by cases p <;> rfl

theorem code_injective : Function.Injective code := by
  intro a b same
  exact Except.ok.inj ((ofCode_eq_ok_iff.2 same).symm.trans (ofCode_eq_ok_iff.2 rfl))

/-- The name in plain words. -/
def label : NumberingPlan → String
  | unknown => "unknown"
  | isdnTelephone => "ISDN/telephone"
  | data => "data"
  | telex => "telex"
  | landMobile => "land mobile"
  | national => "national"
  | privateUse => "private"
  | ermes => "ERMES"
  | internet => "internet (IP)"
  | wapClientId => "WAP client id"

/-- The name in a document. -/
def identifier : NumberingPlan → String
  | unknown => "Unknown"
  | isdnTelephone => "IsdnTelephone"
  | data => "Data"
  | telex => "Telex"
  | landMobile => "LandMobile"
  | national => "National"
  | privateUse => "Private"
  | ermes => "Ermes"
  | internet => "Internet"
  | wapClientId => "WapClientId"

/-- The name in plain words, with the code. -/
def display (p : NumberingPlan) : String :=
  p.label ++ " (" ++ toString p.code.toNat ++ ")"

/-- Where nothing is said, the plan is unknown. -/
instance : Inhabited NumberingPlan := ⟨unknown⟩

end NumberingPlan

end ShortMessage
