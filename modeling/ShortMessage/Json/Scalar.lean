import ShortMessage.Json.Numeral
import ShortMessage.Json.StringLiteral

/-!
# Scalars

`readHead` reads what stands in front of a text after blank space: a whole scalar, or the bracket
that opens an array or an object. A reader for one kind of scalar takes the head and refuses every
other kind with the value that it found.

* `boolean`, `natural`, `string` and `nothing` read one kind of scalar each.
* `optional` reads a null as none and leaves every other value to another reader.
-/

namespace ShortMessage.Json

/-! ## The head of a text -/

/-- The letters of a word, one by one. -/
def word : List Char → List Char → Except Failure (List Char)
  | [], s => .ok s
  | _ :: _, [] => .error (.here .endInValue .identExpected [])
  | c :: cs, d :: s =>
    if d = c then word cs s else .error (.here .endInValue .identExpected (d :: s))

theorem length_of_word {cs s rest : List Char} (h : word cs s = .ok rest) :
    rest.length ≤ s.length := by
  fun_induction word cs s with
  | case1 => cases h; simp
  | case2 => cases h
  | case3 c cs s ih => have := ih h; simp; omega
  | case4 => cases h

/-- The rest of a word, which stands for a value. -/
def wordFor (found : Found) (letters s : List Char) : Result Found :=
  match word letters s with
  | .ok rest => .ok (found, rest)
  | .error e => .error e

/-- A number, after its sign. -/
def number (negative : Bool) (s : List Char) : Result Found :=
  match Numeral.scan .endInValue negative s with
  | .error e => .error e
  | .ok (n, rest) => match n.value rest with
    | .error e => .error e
    | .ok found => .ok (found, rest)

/-- What starts with a character that is not blank. -/
def headFrom (c : Char) (rest : List Char) : Result Found :=
  if c = 'n' then wordFor .null ['u', 'l', 'l'] rest
  else if c = 't' then wordFor (.boolean true) ['r', 'u', 'e'] rest
  else if c = 'f' then wordFor (.boolean false) ['a', 'l', 's', 'e'] rest
  else if c = '"' then (stringBody.map .text).run rest
  else if c = '[' then .ok (.sequence, rest)
  else if c = '{' then .ok (.map, rest)
  else if c = '-' then number true rest
  else if c.isDigit then number false (c :: rest)
  else .error (.here .endInValue .valueExpected (c :: rest))

theorem length_of_wordFor {found a : Found} {letters s rest : List Char}
    (h : wordFor found letters s = .ok (a, rest)) : rest.length ≤ s.length := by
  unfold wordFor at h
  split at h
  · next hw => cases h; exact length_of_word hw
  · cases h

theorem length_of_number {negative : Bool} {a : Found} {s rest : List Char}
    (h : number negative s = .ok (a, rest)) : rest.length < s.length := by
  unfold number at h
  split at h
  · cases h
  · next hs =>
    split at h
    · cases h
    · cases h; exact Numeral.length_of_scan hs

theorem length_of_headFrom {c : Char} {a : Found} {s rest : List Char}
    (h : headFrom c s = .ok (a, rest)) : rest.length ≤ s.length := by
  unfold headFrom at h
  repeat' split at h
  · exact length_of_wordFor h
  · exact length_of_wordFor h
  · exact length_of_wordFor h
  · exact Nat.le_of_lt ((stringBody.map Found.text).shrinks h)
  · cases h; simp
  · cases h; simp
  · exact Nat.le_of_lt (length_of_number h)
  · have := length_of_number h; simp at this; omega
  · cases h

/-- A scalar, or the bracket that opens an array or an object. -/
def readHead (s : List Char) : Result Found :=
  match skipBlank s with
  | [] => .error (.here .endInValue .valueExpected [])
  | c :: rest => headFrom c rest

theorem length_of_readHead {a : Found} {s rest : List Char} (h : readHead s = .ok (a, rest)) :
    rest.length < s.length := by
  have blank := length_skipBlank_le s
  unfold readHead at h
  split at h
  · cases h
  · next c more hs =>
    have := length_of_headFrom h
    rw [hs, List.length_cons] at blank
    omega

/-! ## One kind of scalar -/

/-- How many octets are left in front of which a value of the wrong kind was refused. A bracket is
not taken, and everything else is. -/
def Found.leftBehind (found : Found) (rest : List Char) : Nat :=
  match found with
  | .sequence | .map => octets rest + 1
  | _ => octets rest

/-- A value of another kind than expected. -/
def mismatch (expected : String) (found : Found) (rest : List Char) : Failure :=
  ⟨.wrongType found expected, found.leftBehind rest⟩

/-- A scalar that is accepted; every other one is refused with a cause. -/
def readScalar {α : Type} (accept : Found → Except Cause α) (s : List Char) : Result α :=
  match readHead s with
  | .error e => .error e
  | .ok (found, rest) => match accept found with
    | .ok a => .ok (a, rest)
    | .error cause => .error ⟨cause, found.leftBehind rest⟩

theorem length_of_readScalar {α : Type} {accept : Found → Except Cause α} {a : α}
    {s rest : List Char} (h : readScalar accept s = .ok (a, rest)) : rest.length < s.length := by
  unfold readScalar at h
  split at h
  · cases h
  · next hh =>
    split at h
    · cases h; exact length_of_readHead hh
    · cases h

/-- Reads a scalar that is accepted, and refuses every other one with a cause. -/
def scalar {α : Type} (accept : Found → Except Cause α) : Reader α :=
  ⟨readScalar accept, length_of_readScalar⟩

/-- Reads true or false. -/
def boolean : Reader Bool :=
  scalar fun
    | .boolean b => .ok b
    | found => .error (.wrongType found "a boolean")

/-- Reads a number of sixty-four bits without sign. -/
def natural : Reader UInt64 :=
  scalar fun
    | .integer n =>
      if 0 ≤ n then .ok n.toNat.toUInt64 else .error (.wrongValue (.integer n) "usize")
    | found => .error (.wrongType found "usize")

/-- Reads a string. -/
def string : Reader String :=
  scalar fun
    | .text s => .ok s
    | found => .error (.wrongType found "a string")

/-- Reads a null. -/
def nothing : Reader Unit :=
  scalar fun
    | .null => .ok ()
    | found => .error (.wrongType found "unit")

/-- A null for none, or a value. A value that starts like a null has to be one. -/
def readOptional {α : Type} (p : Reader α) (s : List Char) : Result (Option α) :=
  match skipBlank s with
  | 'n' :: rest => match word ['u', 'l', 'l'] rest with
    | .ok more => .ok (none, more)
    | .error e => .error e
  | _ => (p.map some).run s

theorem length_of_readOptional {α : Type} {p : Reader α} {a : Option α} {s rest : List Char}
    (h : readOptional p s = .ok (a, rest)) : rest.length < s.length := by
  have blank := length_skipBlank_le s
  unfold readOptional at h
  split at h
  · next more hs =>
    rw [hs, List.length_cons] at blank
    split at h
    · next hw => cases h; have := length_of_word hw; omega
    · cases h
  · exact (p.map some).shrinks h

/-- Reads a null as none, and every other value with a reader for it. -/
def optional {α : Type} (p : Reader α) : Reader (Option α) :=
  ⟨readOptional p, length_of_readOptional⟩

end ShortMessage.Json
