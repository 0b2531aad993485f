import Mathlib.Control.Monad.Basic
import ShortMessage.Json.StringLiteral

/-!
# Reading a written string

Every string is read back from its written form, whatever follows it. The step is `body_escaped`: a
character that was escaped is read as that character, in front of what is read from the rest.

* `body_flatMap_escaped` says this of the characters of a string.
* `stringBody_written` says it of a string.
-/

namespace ShortMessage.Json.Literal

/-- One character in front of what is read from the rest. -/
def andThen (c : Char) (r : Result (List Char)) : Result (List Char) :=
  match r with
  | .error e => .error e
  | .ok (cs, rest) => .ok (c :: cs, rest)

theorem body_quote (s : List Char) : body ('"' :: s) = .ok ([], s) := by
  rw [body]; rfl

theorem body_plain {c : Char} (quote : c ≠ '"') (backslash : c ≠ '\\') (plain : ¬ c.toNat < 0x20)
    (s : List Char) : body (c :: s) = andThen c (body s) := by
  rw [body]; simp [quote, backslash, plain]; rfl

theorem body_escape {s rest : List Char} {c : Char} (h : escape s = .ok (c, rest)) :
    body ('\\' :: s) = andThen c (body rest) := by
  rw [body]
  simp only [reduceIte, Char.reduceEq]
  split
  · next e he => rw [h] at he; cases he
  · next d more he => rw [h] at he; cases he; rfl

/-- The four digits of a control, with the value that they are read with. -/
theorem hexUnit_control : ∀ n < 0x20, hexUnit (Text.hex 4 n) = .ok (n, []) := by
  decide +kernel

/-- Four digits are read the same way whatever follows them. -/
theorem hexUnit_append {s : List Char} {n : Nat} (h : hexUnit s = .ok (n, [])) (rest : List Char) :
    hexUnit (s ++ rest) = .ok (n, rest) := by
  unfold hexUnit at h
  split at h
  · next a b c d t =>
    split at h
    · next ha hb hc hd =>
      cases h
      simp [hexUnit, ha, hb, hc, hd]
    · cases h
  · cases h

theorem escape_control {c : Char} (h : c.toNat < 0x20) (rest : List Char) :
    escape ('u' :: (Text.hex 4 c.toNat ++ rest)) = .ok (c, rest) := by
  have unit := hexUnit_append (hexUnit_control _ h) rest
  have trailing : isTrailing c.toNat = false := by simp [isTrailing]; omega
  have leading : isLeading c.toNat = false := by simp [isLeading]; omega
  simp [escape, unitEscape, unit, trailing, leading]

theorem body_escaped (c : Char) (s : List Char) :
    body (escaped c ++ s) = andThen c (body s) := by
  unfold escaped
  split
  · subst c; exact body_escape rfl
  split
  · subst c; exact body_escape rfl
  split
  · subst c; exact body_escape rfl
  split
  · subst c; exact body_escape rfl
  split
  · subst c; exact body_escape rfl
  split
  · subst c; exact body_escape rfl
  split
  · subst c; exact body_escape rfl
  split
  · next h => exact body_escape (escape_control h s)
  · next h => exact body_plain (by assumption) (by assumption) h s

theorem body_flatMap_escaped (cs rest : List Char) :
    body (cs.flatMap escaped ++ '"' :: rest) = .ok (cs, rest) := by
  induction cs with
  | nil => exact body_quote rest
  | cons c cs ih => rw [List.flatMap_cons, List.append_assoc, body_escaped, ih]; rfl

/-- A string is written with a quote in front. -/
theorem write_eq_cons (s : String) :
    write s = '"' :: (s.toList.flatMap escaped ++ ['"']) := by
  simp [write]

/-- **A written string is read back**, after its opening quote. -/
theorem stringBody_written (s : String) (rest : List Char) :
    stringBody.run (s.toList.flatMap escaped ++ '"' :: rest) = .ok (s, rest) := by
  simp [stringBody, body_flatMap_escaped]

end ShortMessage.Json.Literal
