/-!
# Bodies in UTF-16 units

A body that does not fit the seven-bit alphabet is written in UTF-16 units, the high octet of each
unit first. A character above U+FFFF takes two units, a leading one and a trailing one.

* `Units.encode` writes a text.
* `Units.decode` reads octets strictly: every leading unit has to be followed by a trailing one, and
  a trailing unit may stand nowhere else.
-/

namespace ShortMessage.Units

/-- The units of a character. -/
def ofChar (c : Char) : List UInt16 :=
  let n := c.toNat
  if n < 0x10000 then [n.toUInt16]
  else [(0xD800 + (n - 0x10000) / 0x400).toUInt16, (0xDC00 + (n - 0x10000) % 0x400).toUInt16]

/-- The units of a text. -/
def ofChars (cs : List Char) : List UInt16 :=
  cs.flatMap ofChar

/-- The octets of a unit, the high one first. -/
def octets (u : UInt16) : List UInt8 :=
  [(u.toNat / 0x100).toUInt8, (u.toNat % 0x100).toUInt8]

/-- The octets of a text. -/
def encode (cs : List Char) : List UInt8 :=
  (ofChars cs).flatMap octets

/-- The first unit of a pair. -/
def isLeading (u : UInt16) : Bool :=
  0xD800 ≤ u.toNat && u.toNat < 0xDC00

/-- The second unit of a pair. -/
def isTrailing (u : UInt16) : Bool :=
  0xDC00 ≤ u.toNat && u.toNat < 0xE000

/-- The text of some units. -/
def toChars? : List UInt16 → Option (List Char)
  | [] => some []
  | u :: us =>
    if isTrailing u then none
    else if isLeading u then match us with
      | [] => none
      | v :: vs =>
        if isTrailing v then
          let n := 0x10000 + (u.toNat - 0xD800) * 0x400 + (v.toNat - 0xDC00)
          (toChars? vs).map (Char.ofNat n :: ·)
        else none
    else (toChars? us).map (Char.ofNat u.toNat :: ·)

/-- The units of some octets; none if their count is odd. -/
def ofOctets? : List UInt8 → Option (List UInt16)
  | [] => some []
  | [_] => none
  | high :: low :: rest =>
    (ofOctets? rest).map ((high.toNat * 0x100 + low.toNat).toUInt16 :: ·)

/-- The text of some octets. -/
def decode (bytes : List UInt8) : Option (List Char) :=
  (ofOctets? bytes).bind toChars?

end ShortMessage.Units
