/-!
# The seven-bit alphabet

A body of seven-bit septets is written in an alphabet of two tables. The base table has a character
for each septet; one slot is the escape, which is no character of a text and holds a space. A
character of the extension table is written as the escape and a second septet.

* `septet?` and `extension?` look a character up, `baseChar?` and `extensionChar?` a septet.
-/

namespace ShortMessage.Alphabet

/-- The septet that announces a character of the extension table. -/
def escape : UInt8 := 0x1B

/-- The characters of the septets from zero on. The slot of the escape holds a space. -/
def baseTable : List Char :=
  ['@', '£', '$', '¥', 'è', 'é', 'ù', 'ì', 'ò', 'Ç', '\n', 'Ø', 'ø', '\r', 'Å', 'å',
    'Δ', '_', 'Φ', 'Γ', 'Λ', 'Ω', 'Π', 'Ψ', 'Σ', 'Θ', 'Ξ', ' ', 'Æ', 'æ', 'ß', 'É',
    ' ', '!', '"', '#', '¤', '%', '&', '\'', '(', ')', '*', '+', ',', '-', '.', '/',
    '0', '1', '2', '3', '4', '5', '6', '7', '8', '9', ':', ';', '<', '=', '>', '?',
    '¡', 'A', 'B', 'C', 'D', 'E', 'F', 'G', 'H', 'I', 'J', 'K', 'L', 'M', 'N', 'O',
    'P', 'Q', 'R', 'S', 'T', 'U', 'V', 'W', 'X', 'Y', 'Z', 'Ä', 'Ö', 'Ñ', 'Ü', '§',
    '¿', 'a', 'b', 'c', 'd', 'e', 'f', 'g', 'h', 'i', 'j', 'k', 'l', 'm', 'n', 'o',
    'p', 'q', 'r', 's', 't', 'u', 'v', 'w', 'x', 'y', 'z', 'ä', 'ö', 'ñ', 'ü', 'à']

/-- The characters that follow an escape, with their septets. -/
def extensionTable : List (Char × UInt8) :=
  [('\x0c', 0x0A), ('^', 0x14), ('{', 0x28), ('}', 0x29), ('\\', 0x2F), ('[', 0x3C), ('~', 0x3D),
    (']', 0x3E), ('|', 0x40), ('€', 0x65)]

/-- The septet of a character of the base table, which is never the escape. -/
def septet? (c : Char) : Option UInt8 :=
  (baseTable.zipIdx.find? fun (d, i) => i != escape.toNat && d == c).map fun (_, i) => i.toUInt8

/-- The septet that follows the escape for a character of the extension table. -/
def extension? (c : Char) : Option UInt8 :=
  (extensionTable.find? fun (d, _) => d == c).map Prod.snd

/-- The character of a septet in the base table; the escape has none. -/
def baseChar? (b : UInt8) : Option Char :=
  if b = escape then none else baseTable[b.toNat]?

/-- The character of a septet after the escape. -/
def extensionChar? (b : UInt8) : Option Char :=
  (extensionTable.find? fun (_, x) => x == b).map Prod.fst

/-- A character of the base table. -/
def isBase (c : Char) : Bool :=
  baseTable.contains c

/-- A character of the extension table. -/
def isExtension (c : Char) : Bool :=
  (extension? c).isSome

/-- A character of the alphabet. -/
def contains (c : Char) : Bool :=
  isBase c || isExtension c

theorem length_baseTable : baseTable.length = 128 := by decide +kernel

end ShortMessage.Alphabet
