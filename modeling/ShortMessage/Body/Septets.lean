import ShortMessage.Body.Alphabet
import ShortMessage.Error

/-!
# Bodies in septets

A body in the seven-bit alphabet has one octet for a character of the base table, and two for a
character of the extension table: the escape and the septet of the character.

* `Septets.encode` writes a text, or fails at the first character that is not in the alphabet.
* `Septets.decode` reads octets, and refuses all that no text is written as.
-/

namespace ShortMessage.Septets

/-- The octets of a character; none if it is not in the alphabet. -/
def ofChar? (c : Char) : Option (List UInt8) :=
  match Alphabet.septet? c with
  | some b => some [b]
  | none => (Alphabet.extension? c).map fun b => [Alphabet.escape, b]

/-- The octets of a text, where `position` characters stand before it. -/
def encodeFrom (position : Nat) : List Char → Except Error (List UInt8)
  | [] => .ok []
  | c :: cs => match ofChar? c with
    | none => .error (.unrepresentable c position)
    | some bytes => match encodeFrom (position + 1) cs with
      | .error e => .error e
      | .ok more => .ok (bytes ++ more)

/-- The octets of a text. -/
def encode (cs : List Char) : Except Error (List UInt8) :=
  encodeFrom 0 cs

/-- The text of some octets. -/
def decode : List UInt8 → Option (List Char)
  | [] => some []
  | b :: bs =>
    if b = Alphabet.escape then match bs with
      | [] => none
      | e :: rest => match Alphabet.extensionChar? e, decode rest with
        | some c, some cs => some (c :: cs)
        | _, _ => none
    else match Alphabet.baseChar? b, decode bs with
      | some c, some cs => some (c :: cs)
      | _, _ => none

end ShortMessage.Septets
