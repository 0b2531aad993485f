import ShortMessage.Json.StringLiteral

/-!
# Writing documents

Documents are written without blank space, with the members of an object in a fixed order.
-/

namespace ShortMessage.Json

/-- The null. -/
def writeNull : List Char := ['n', 'u', 'l', 'l']

/-- True or false. -/
def writeBool : Bool → List Char
  | true => ['t', 'r', 'u', 'e']
  | false => ['f', 'a', 'l', 's', 'e']

/-- A number without sign, in base ten. -/
def writeNat (n : Nat) : List Char :=
  Nat.toDigits 10 n

/-- A string, or a null for none. -/
def writeOptional : Option String → List Char
  | some s => Literal.write s
  | none => writeNull

/-- A member of an object: its key and its value. -/
def writeMember (m : String × List Char) : List Char :=
  Literal.write m.1 ++ ':' :: m.2

/-- An object of members. -/
def writeObject : List (String × List Char) → List Char
  | [] => ['{', '}']
  | m :: ms => '{' :: writeMember m ++ ms.flatMap (fun m => ',' :: writeMember m) ++ ['}']

end ShortMessage.Json
