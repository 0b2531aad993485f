import Mathlib.Data.List.TakeWhile
import Mathlib.Tactic
import ShortMessage.Json.Numeral
import ShortMessage.Json.Scalar.Lemmas
import ShortMessage.Json.StringLiteral

/-!
# The grammar of documents

A document is a value with blank space around it. The grammar says which characters spell a value,
without saying how they are read.

* `Value` is a value as a tree. Its numbers are kept as they are written, and `τ` are its strings.
* `Numeral.Spells` and `Literal.Spells` are the spellings of a number, and of the characters of a
  string.
* `Spells` are the spellings of a value; what spells a string is a parameter of it.
* `Document` are the texts that spell a value whose strings are texts.
-/

namespace ShortMessage.Json

/-- A value as a tree, with strings of type `τ`. -/
inductive Value (τ : Type)
  | null
  | boolean (b : Bool)
  | number (n : Numeral)
  | string (t : τ)
  | array (elements : List (Value τ))
  | object (members : List (τ × Value τ))

/-- Blank space of any length. -/
def Blank (s : List Char) : Prop :=
  ∀ c ∈ s, isBlank c = true

/-! ### Numbers -/

namespace Numeral

/-- At least one digit and nothing else. -/
def Digits (ds : List Char) : Prop :=
  ds ≠ [] ∧ ∀ d ∈ ds, d.isDigit = true

/-- The digits of a whole number, which start with a zero only if it is the only one. -/
def WholeDigits (ds : List Char) : Prop :=
  Digits ds ∧ ∀ rest, ds = '0' :: rest → rest = []

/-- The spellings of a fraction: nothing, or a point and digits. -/
inductive SpellsFraction : List Char → List Char → Prop
  | absent : SpellsFraction [] []
  | point {ds} (digits : Digits ds) : SpellsFraction ds ('.' :: ds)

/-- The spellings of the sign of an exponent, which may have a plus. -/
inductive SpellsSign : Bool → List Char → Prop
  | minus : SpellsSign true ['-']
  | plus : SpellsSign false ['+']
  | absent : SpellsSign false []

/-- The spellings of a power of ten: nothing, or an `e` of either case, a sign and digits. -/
inductive SpellsPower : Option (Bool × List Char) → List Char → Prop
  | absent : SpellsPower none []
  | power {e negative sign ds} (letter : e = 'e' ∨ e = 'E') (signed : SpellsSign negative sign)
      (digits : Digits ds) : SpellsPower (some (negative, ds)) (e :: (sign ++ ds))

/-- The spellings of a number after its sign. -/
inductive SpellsUnsigned (n : Numeral) : List Char → Prop
  | mk {fraction power} (whole : WholeDigits n.whole)
      (spellsFraction : SpellsFraction n.fraction fraction)
      (spellsPower : SpellsPower n.exponent power) :
      SpellsUnsigned n (n.whole ++ (fraction ++ power))

/-- The spellings of a number. -/
inductive Spells (n : Numeral) : List Char → Prop
  | positive {cs} (sign : n.negative = false) (unsigned : SpellsUnsigned n cs) : Spells n cs
  | negative {cs} (sign : n.negative = true) (unsigned : SpellsUnsigned n cs) : Spells n ('-' :: cs)

end Numeral

/-! ### Strings -/

namespace Literal

/-- Four hexadecimal digits and the number that they stand for. -/
inductive SpellsUnit : ℕ → List Char → Prop
  | mk {a b c d i j k l} (first : hexDigit? a = some i) (second : hexDigit? b = some j)
      (third : hexDigit? c = some k) (fourth : hexDigit? d = some l) :
      SpellsUnit (((i * 16 + j) * 16 + k) * 16 + l) [a, b, c, d]

/-- The spellings of the characters of a string. A character stands for itself, or is escaped with a
letter, with its code, or above U+FFFF with the two units of its code in UTF-16. -/
inductive Spells : List Char → List Char → Prop
  | nil : Spells [] []
  | plain {c ds cs} (quote : c ≠ '"') (backslash : c ≠ '\\') (control : 0x20 ≤ c.toNat)
      (more : Spells ds cs) : Spells (c :: ds) (c :: cs)
  | letter {c e ds cs} (escape : letterEscape? e = some c) (more : Spells ds cs) :
      Spells (c :: ds) ('\\' :: e :: cs)
  | unit {c u ds cs} (code : SpellsUnit c.toNat u) (more : Spells ds cs) :
      Spells (c :: ds) ('\\' :: 'u' :: (u ++ cs))
  | pair {c : Char} {x y : ℕ} {u v ds cs} (leading : SpellsUnit (0xD800 + x) u)
      (trailing : SpellsUnit (0xDC00 + y) v) (xRange : x < 0x400) (yRange : y < 0x400)
      (code : c.toNat = 0x10000 + x * 0x400 + y) (more : Spells ds cs) :
      Spells (c :: ds) ('\\' :: 'u' :: (u ++ '\\' :: 'u' :: (v ++ cs)))

end Literal

/-- The spellings of a text between quotes. -/
def SpellsText (t : String) (cs : List Char) : Prop :=
  Literal.Spells t.toList cs

/-! ### Values -/

section

variable {τ : Type} (literal : τ → List Char → Prop)

mutual

/-- The spellings of a value, where `literal` are those of a string between its quotes. -/
inductive Spells : Value τ → List Char → Prop
  | null : Spells .null ['n', 'u', 'l', 'l']
  | isTrue : Spells (.boolean true) ['t', 'r', 'u', 'e']
  | isFalse : Spells (.boolean false) ['f', 'a', 'l', 's', 'e']
  | number {n cs} (numeral : n.Spells cs) : Spells (.number n) cs
  | string {t cs} (text : literal t cs) : Spells (.string t) ('"' :: (cs ++ ['"']))
  | emptyArray {b} (blank : Blank b) : Spells (.array []) ('[' :: (b ++ [']']))
  | array {v vs b cs more} (blank : Blank b) (first : Spells v cs) (others : SpellsRest vs more) :
      Spells (.array (v :: vs)) ('[' :: (b ++ (cs ++ more)))
  | emptyObject {b} (blank : Blank b) : Spells (.object []) ('{' :: (b ++ ['}']))
  | object {m ms cs more} (first : SpellsMember m cs) (others : SpellsMembers ms more) :
      Spells (.object (m :: ms)) ('{' :: (cs ++ more))

/-- The elements of an array after one of them, and the bracket that closes it. -/
inductive SpellsRest : List (Value τ) → List Char → Prop
  | close {b} (blank : Blank b) : SpellsRest [] (b ++ [']'])
  | next {v vs a b cs more} (before : Blank a) (after : Blank b) (value : Spells v cs)
      (others : SpellsRest vs more) : SpellsRest (v :: vs) (a ++ ',' :: (b ++ (cs ++ more)))

/-- A member of an object: a key, a colon and a value, with blank space between and in front. -/
inductive SpellsMember : τ × Value τ → List Char → Prop
  | mk {k v a b d ks cs} (front : Blank a) (key : literal k ks) (before : Blank b) (after : Blank d)
      (value : Spells v cs) :
      SpellsMember (k, v) (a ++ '"' :: (ks ++ '"' :: (b ++ ':' :: (d ++ cs))))

/-- The members of an object after one of them, and the brace that closes it. -/
inductive SpellsMembers : List (τ × Value τ) → List Char → Prop
  | close {b} (blank : Blank b) : SpellsMembers [] (b ++ ['}'])
  | next {m ms b cs more} (blank : Blank b) (member : SpellsMember m cs)
      (others : SpellsMembers ms more) : SpellsMembers (m :: ms) (b ++ ',' :: (cs ++ more))

end

end

/-- The texts that spell a value and nothing else, with blank space around it. -/
def Document (v : Value String) (text : String) : Prop :=
  ∃ a cs b, text.toList = a ++ (cs ++ b) ∧ Blank a ∧ Spells SpellsText v cs ∧ Blank b

/-! ### Blank space -/

theorem Blank.nil : Blank [] := nofun

theorem Blank.append {a b : List Char} (ha : Blank a) (hb : Blank b) : Blank (a ++ b) := by
  intro c hc
  rcases List.mem_append.1 hc with hc | hc
  · exact ha c hc
  · exact hb c hc

theorem skipBlank_append {b : List Char} (h : Blank b) (s : List Char) :
    skipBlank (b ++ s) = skipBlank s :=
  List.dropWhile_append_of_pos h

theorem skipBlank_eq_nil {b : List Char} (h : Blank b) : skipBlank b = [] := by
  rw [← List.append_nil b, skipBlank_append h]
  rfl

/-- What is passed over is blank. -/
theorem exists_blank (s : List Char) : ∃ b, Blank b ∧ s = b ++ skipBlank s :=
  ⟨s.takeWhile isBlank, fun _ h => List.mem_takeWhile_imp h, List.takeWhile_append_dropWhile.symm⟩

theorem exists_blank_of_skipBlank {s t : List Char} (h : skipBlank s = t) :
    ∃ b, Blank b ∧ s = b ++ t := by
  subst h
  exact exists_blank s

/-! ### What follows a value ends a number -/

theorem endsNumeral_blank_append {b s : List Char} (h : Blank b) (stop : EndsNumeral s) :
    EndsNumeral (b ++ s) := by
  cases b with
  | nil => exact stop
  | cons c b =>
    have blank := h c List.mem_cons_self
    simp only [isBlank, Bool.or_eq_true, decide_eq_true_eq] at blank
    -- none of the four blank characters can go on with a number
    refine endsNumeral_cons ?_
    rcases blank with ((rfl | rfl) | rfl) | rfl <;> decide

theorem endsNumeral_blank {b : List Char} (h : Blank b) : EndsNumeral b := by
  rw [← List.append_nil b]
  exact endsNumeral_blank_append h endsNumeral_nil

theorem SpellsRest.endsNumeral {τ : Type} {literal : τ → List Char → Prop} {vs : List (Value τ)}
    {cs : List Char} (h : SpellsRest literal vs cs) (rest : List Char) :
    EndsNumeral (cs ++ rest) := by
  cases h with
  | close blank =>
    rw [List.append_assoc]
    exact endsNumeral_blank_append blank (endsNumeral_cons (by decide))
  | next before =>
    rw [List.append_assoc]
    exact endsNumeral_blank_append before (endsNumeral_cons (by decide))

theorem SpellsMembers.endsNumeral {τ : Type} {literal : τ → List Char → Prop}
    {ms : List (τ × Value τ)} {cs : List Char} (h : SpellsMembers literal ms cs)
    (rest : List Char) : EndsNumeral (cs ++ rest) := by
  cases h with
  | close blank =>
    rw [List.append_assoc]
    exact endsNumeral_blank_append blank (endsNumeral_cons (by decide))
  | next blank =>
    rw [List.append_assoc]
    exact endsNumeral_blank_append blank (endsNumeral_cons (by decide))

end ShortMessage.Json
