import ShortMessage.Body.Alphabet
import ShortMessage.Body.Units

/-!
# Codings of a body

A body is written either in septets, in the seven-bit alphabet, or in UTF-16 units. A message of one
segment has room for more of them than each segment of a longer message.
-/

namespace ShortMessage

/-- How a body is written. -/
inductive Coding
  | gsm7
  | unicode
  deriving DecidableEq, Repr

namespace Coding

/-- Both codings. -/
def all : List Coding := [gsm7, unicode]

/-- The name in plain words. -/
def label : Coding → String
  | gsm7 => "GSM 7-bit"
  | unicode => "UCS-2"

/-- The name in a document. -/
def identifier : Coding → String
  | gsm7 => "Gsm7"
  | unicode => "Unicode"

/-- The octet that announces the coding in a message. -/
def dataCoding : Coding → UInt8
  | gsm7 => 0x00
  | unicode => 0x08

/-- The room in a message of one segment, in septets or units. -/
def singleRoom : Coding → Nat
  | gsm7 => 160
  | unicode => 70

/-- The room in each segment of a longer message, in septets or units. -/
def segmentRoom : Coding → Nat
  | gsm7 => 153
  | unicode => 67

/-- How many septets a character takes; none if it is not in the alphabet. -/
def septetCount? (c : Char) : Option Nat :=
  if Alphabet.isBase c then some 1
  else if Alphabet.isExtension c then some 2
  else none

/-- The length of a text in septets; none if some character is not in the alphabet. -/
def septetLength? : List Char → Option Nat
  | [] => some 0
  | c :: cs => match septetCount? c, septetLength? cs with
    | some m, some n => some (m + n)
    | _, _ => none

/-- The length of a text in septets or units; none if it cannot be written. -/
def length? : Coding → String → Option Nat
  | gsm7, text => septetLength? text.toList
  | unicode, text => some (Units.ofChars text.toList).length

/-- How many segments a body of some length takes. -/
def segments (coding : Coding) (length : Nat) : Nat :=
  if length ≤ coding.singleRoom then 1
  else (length + coding.segmentRoom - 1) / coding.segmentRoom

end Coding

end ShortMessage
