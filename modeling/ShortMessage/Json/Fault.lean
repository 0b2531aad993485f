import ShortMessage.Decimal.Shortest
import ShortMessage.Text.Quoted

/-!
# Refused documents

A document is refused at the first thing that is wrong with it. `Cause` says what is wrong, `Failure`
where reading stood then, and `Fault` gives the line and the column of that place in the whole text.

Readers consume a text from the left and know only what is left of it. So a failure keeps the count
of octets that are left, and `Failure.inText` finds the place in the text from it.
-/

namespace ShortMessage.Json

/-! ## What is wrong -/

/-- What stands where a value of another kind was expected. -/
inductive Found
  | null
  | boolean (b : Bool)
  | integer (n : Int)
  | float (negative : Bool) (magnitude : Binary)
  | text (s : String)
  | sequence
  | map
  deriving DecidableEq, Repr

/-- Numbers with a leading exponent from -5 to 15 are written in place. -/
def floatLayout : Layout := ⟨-5, 15⟩

/-- What was found, in words. -/
def Found.describe : Found → String
  | .null => "null"
  | .boolean b => "boolean `" ++ (if b then "true" else "false") ++ "`"
  | .integer n => "integer `" ++ toString n ++ "`"
  | .float negative x => "floating point `" ++ floatLayout.writeSigned negative x ++ "`"
  | .text s => "string " ++ Text.quote s
  | .sequence => "sequence"
  | .map => "map"

/-- What is wrong with a document. -/
inductive Cause
  /-- The text ends where a value, or more of one, has to stand. -/
  | endInValue
  /-- The text ends inside a string. -/
  | endInString
  /-- The text ends inside an object. -/
  | endInObject
  /-- The text ends inside an array. -/
  | endInArray
  | identExpected
  | invalidNumber
  | numberOutOfRange
  | controlCharacter
  | invalidEscape
  | loneSurrogate
  | surrogatePairCut
  | keyMustBeString
  | colonExpected
  | objectCommaOrEndExpected
  | arrayCommaOrEndExpected
  | trailingComma
  | trailingCharacters
  | valueExpected
  /-- A value of the wrong kind, and what was expected. -/
  | wrongType (found : Found) (expected : String)
  /-- A value of the right kind outside the range, and what was expected. -/
  | wrongValue (found : Found) (expected : String)
  | unknownField (name : String) (known : List String)
  | duplicateField (name : String)
  | missingField (name : String)
  /-- An array with too few elements, and what was expected. -/
  | wrongLength (count : Nat) (expected : String)
  | unknownVariant (name : String) (known : List String)
  deriving DecidableEq, Repr

/-- The three kinds of causes: the text ends too early, it is no document at all, or it is a
document for something else. -/
inductive Category
  | truncated
  | malformed
  | mismatched
  deriving DecidableEq, Repr

namespace Cause

/-- The kind of a cause. -/
def category : Cause → Category
  | endInValue | endInString | endInObject | endInArray => .truncated
  | wrongType .. | wrongValue .. | unknownField .. | duplicateField _ | missingField _
  | wrongLength .. | unknownVariant .. => .mismatched
  | _ => .malformed

/-- The names to choose from, each between grave accents. -/
def choice (names : List String) : String :=
  match names.map fun name => "`" ++ name ++ "`" with
  | [first, second] => first ++ " or " ++ second
  | quoted => "one of " ++ ", ".intercalate quoted

/-- The cause in words, without a place. -/
def reason : Cause → String
  | endInValue => "EOF while parsing a value"
  | endInString => "EOF while parsing a string"
  | endInObject => "EOF while parsing an object"
  | endInArray => "EOF while parsing a list"
  | identExpected => "expected ident"
  | invalidNumber => "invalid number"
  | numberOutOfRange => "number out of range"
  | controlCharacter => "control character (\\u0000-\\u001F) found while parsing a string"
  | invalidEscape => "invalid escape"
  | loneSurrogate => "lone leading surrogate in hex escape"
  | surrogatePairCut => "unexpected end of hex escape"
  | keyMustBeString => "key must be a string"
  | colonExpected => "expected `:`"
  | objectCommaOrEndExpected => "expected `,` or `\x7d`"
  | arrayCommaOrEndExpected => "expected `,` or `]`"
  | trailingComma => "trailing comma"
  | trailingCharacters => "trailing characters"
  | valueExpected => "expected value"
  | wrongType found expected => "invalid type: " ++ found.describe ++ ", expected " ++ expected
  | wrongValue found expected => "invalid value: " ++ found.describe ++ ", expected " ++ expected
  | unknownField name known => "unknown field `" ++ name ++ "`, expected " ++ choice known
  | duplicateField name => "duplicate field `" ++ name ++ "`"
  | missingField name => "missing field `" ++ name ++ "`"
  | wrongLength count expected =>
    "invalid length " ++ toString count ++ ", expected " ++ expected
  | unknownVariant name known => "unknown variant `" ++ name ++ "`, expected " ++ choice known

end Cause

/-! ## Where it is wrong -/

/-- How many octets a text takes. -/
def octets (s : List Char) : Nat :=
  s.foldr (fun c n => c.utf8Size + n) 0

@[simp] theorem octets_nil : octets [] = 0 := rfl

@[simp] theorem octets_cons (c : Char) (s : List Char) : octets (c :: s) = c.utf8Size + octets s :=
  rfl

/-- A cause, and how many octets of the text were left when it arose. -/
structure Failure where
  cause : Cause
  left : Nat
  deriving DecidableEq, Repr

namespace Failure

/-- A failure in front of the text that is left. -/
def before (cause : Cause) (rest : List Char) : Failure :=
  ⟨cause, octets rest⟩

/-- A failure at the first octet of the text that is left, which counts as read; where nothing is
left, the other cause holds. -/
def here (atEnd cause : Cause) : List Char → Failure
  | [] => ⟨atEnd, 0⟩
  | c :: rest => ⟨cause, octets (c :: rest) - 1⟩

end Failure

/-- A line, counted from one, and a column, counted in octets from the start of the line. -/
structure Place where
  line : Nat
  column : Nat
  deriving DecidableEq, Repr

/-- The place some octets further on in a text. -/
def Place.advance (p : Place) : List Char → Nat → Place
  | [], _ => p
  | _, 0 => p
  | c :: rest, n + 1 =>
    if c = '\n' then Place.advance ⟨p.line + 1, 0⟩ rest n
    else Place.advance ⟨p.line, p.column + min (n + 1) c.utf8Size⟩ rest (n + 1 - c.utf8Size)

/-- A refused document: the cause and its place. -/
structure Fault where
  cause : Cause
  place : Place
  deriving DecidableEq, Repr

/-- The place of a failure in the whole text. -/
def Failure.inText (f : Failure) (text : List Char) : Fault :=
  ⟨f.cause, Place.advance ⟨1, 0⟩ text (octets text - f.left)⟩

/-- The report on a refused document. -/
def Fault.message (f : Fault) : String :=
  f.cause.reason ++ " at line " ++ toString f.place.line ++ " column " ++
    toString f.place.column

end ShortMessage.Json
