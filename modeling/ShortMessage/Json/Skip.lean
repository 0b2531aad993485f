import ShortMessage.Json.Scalar

/-!
# Values that are passed over

A value that nobody asked for is passed over, but it has to be well formed. Strings and numbers are
only checked for their form: a unit escape need not be paired and a number has no range. Brackets may
be nested to any depth, so the brackets that are open are kept in a list.

`skip` passes over one value.
-/

namespace ShortMessage.Json

/-- A bracket that is open. -/
inductive Bracket
  | array
  | object
  deriving DecidableEq, Repr

namespace Bracket

/-- The character that closes the bracket. -/
def closing : Bracket → Char
  | array => ']'
  | object => '}'

/-- The text ends inside the bracket. -/
def cut : Bracket → Cause
  | array => .endInArray
  | object => .endInObject

/-- Neither a comma nor the closing bracket follows an item. -/
def unclosed : Bracket → Cause
  | array => .arrayCommaOrEndExpected
  | object => .objectCommaOrEndExpected

end Bracket

namespace Skip

/-- An escape, after its backslash. -/
def escape : List Char → Except Failure (List Char)
  | [] => .error (.here .endInString .invalidEscape [])
  | c :: rest =>
    if c = 'u' then match Literal.hexUnit rest with
      | .ok (_, more) => .ok more
      | .error e => .error e
    else if (Literal.letterEscape? c).isSome then .ok rest
    else .error (.here .endInString .invalidEscape (c :: rest))

theorem length_of_escape {s rest : List Char} (h : escape s = .ok rest) :
    rest.length < s.length := by
  unfold escape at h
  split at h
  · cases h
  · split at h
    · split at h
      · next hu => cases h; have := Literal.length_of_hexUnit hu; simp; omega
      · cases h
    · split at h
      · cases h; simp
      · cases h

/-- A string, after its opening quote. A control is refused in front of it. -/
def string : List Char → Except Failure (List Char)
  | [] => .error (.here .endInString .controlCharacter [])
  | c :: rest =>
    if c = '"' then .ok rest
    else if c = '\\' then match h : escape rest with
      | .error e => .error e
      | .ok more =>
        have := length_of_escape h
        string more
    else if c.toNat < 0x20 then .error (.before .controlCharacter (c :: rest))
    else string rest
termination_by s => s.length
decreasing_by all_goals simp; try omega

theorem length_of_string {s rest : List Char} (h : string s = .ok rest) :
    rest.length < s.length := by
  fun_induction string s with
  | case2 => cases h; simp
  | case4 s more _ _ _ ih => have := ih h; simp; omega
  | case6 c s _ _ _ ih => have := ih h; simp; omega
  | _ => cases h

/-- A number, after its sign. -/
def number (s : List Char) : Except Failure (List Char) :=
  match Numeral.scan .invalidNumber false s with
  | .ok (_, rest) => .ok rest
  | .error e => .error e

theorem length_of_number {s rest : List Char} (h : number s = .ok rest) :
    rest.length < s.length := by
  unfold number at h
  split at h
  · next hs => cases h; exact Numeral.length_of_scan hs
  · cases h

/-- A scalar, or the bracket that opens an array or an object. -/
def head (s : List Char) : Result (Option Bracket) :=
  let plain (r : Except Failure (List Char)) : Result (Option Bracket) := r.map (none, ·)
  match skipBlank s with
  | [] => .error (.here .endInValue .valueExpected [])
  | c :: rest =>
    if c = 'n' then plain (word ['u', 'l', 'l'] rest)
    else if c = 't' then plain (word ['r', 'u', 'e'] rest)
    else if c = 'f' then plain (word ['a', 'l', 's', 'e'] rest)
    else if c = '"' then plain (string rest)
    else if c = '[' then .ok (some .array, rest)
    else if c = '{' then .ok (some .object, rest)
    else if c = '-' then plain (number rest)
    else if c.isDigit then plain (number (c :: rest))
    else .error (.here .endInValue .valueExpected (c :: rest))

/-- The key of a member and its colon. -/
def key (s : List Char) : Except Failure (List Char) :=
  match skipBlank s with
  | '"' :: rest => match string rest with
    | .error e => .error e
    | .ok more => passColon more
  | rest => .error (.here .endInObject .keyMustBeString rest)

/-- What stands in front of the value of an item: a key in an object, and nothing in an array. -/
def lead : Bracket → List Char → Except Failure (List Char)
  | .array, s => .ok s
  | .object, s => key s

/-- After a value, closes the brackets that end there, and passes over the comma that follows in the
bracket that is still open and what leads to the next value. Gives the brackets that are open. -/
def close : List Bracket → List Char → Result (List Bracket)
  | [], s => .ok ([], s)
  | b :: outer, s => match skipBlank s with
    | c :: rest =>
      if c = ',' then match lead b rest with
        | .ok more => .ok (b :: outer, more)
        | .error e => .error e
      else if c = b.closing then close outer rest
      else .error (.here b.cut b.unclosed (c :: rest))
    | [] => .error (.here b.cut b.unclosed [])

/-- After an opening bracket, closes it if it is empty, and otherwise passes over what leads to its
first value. Gives the brackets that are open. -/
def enter (b : Bracket) (outer : List Bracket) (s : List Char) : Result (List Bracket) :=
  match skipBlank s with
  | c :: rest =>
    if c = b.closing then close outer rest
    else match lead b (c :: rest) with
      | .ok more => .ok (b :: outer, more)
      | .error e => .error e
  | [] => .error (.here b.cut b.unclosed [])

/-- A scalar or an opening bracket, and what follows it up to the next value. -/
def item (outer : List Bracket) (s : List Char) : Result (List Bracket) :=
  match head s with
  | .error e => .error e
  | .ok (none, rest) => close outer rest
  | .ok (some b, rest) => enter b outer rest

theorem length_of_head {s rest : List Char} {b : Option Bracket} (h : head s = .ok (b, rest)) :
    rest.length < s.length := by
  have blank := length_skipBlank_le s
  have plain {r : Except Failure (List Char)} {t : List Char}
      (hr : r.map (none, ·) = Except.ok (b, rest)) (short : r = .ok rest → rest.length ≤ t.length) :
      rest.length ≤ t.length := by
    cases r with
    | error e => cases hr
    | ok more => cases hr; exact short rfl
  unfold head at h
  split at h
  · cases h
  · next c more hs =>
    rw [hs] at blank
    simp only [List.length_cons] at blank
    suffices rest.length ≤ more.length by omega
    dsimp only at h
    repeat' split at h
    · exact plain h length_of_word
    · exact plain h length_of_word
    · exact plain h length_of_word
    · exact plain h fun hr => Nat.le_of_lt (length_of_string hr)
    · cases h; exact Nat.le_refl _
    · cases h; exact Nat.le_refl _
    · exact plain h fun hr => Nat.le_of_lt (length_of_number hr)
    · exact plain h fun hr => Nat.le_of_lt_succ (length_of_number hr)
    · cases h

theorem length_of_key {s rest : List Char} (h : key s = .ok rest) : rest.length ≤ s.length := by
  have blank := length_skipBlank_le s
  unfold key at h
  split at h
  · next more hs =>
    rw [hs] at blank
    split at h
    · cases h
    · next hstr =>
      have := length_of_string hstr
      have := length_of_passColon h
      simp at blank
      omega
  · cases h

theorem length_of_lead {b : Bracket} {s rest : List Char} (h : lead b s = .ok rest) :
    rest.length ≤ s.length := by
  cases b with
  | array => cases h; exact Nat.le_refl _
  | object => exact length_of_key h

theorem length_of_close {outer inner : List Bracket} {s rest : List Char}
    (h : close outer s = .ok (inner, rest)) : rest.length ≤ s.length := by
  induction outer generalizing s with
  | nil => cases h; exact Nat.le_refl _
  | cons b outer ih =>
    have blank := length_skipBlank_le s
    unfold close at h
    split at h
    · next c more hs =>
      rw [hs] at blank
      simp only [List.length_cons] at blank
      split at h
      · split at h
        · next hl => cases h; have := length_of_lead hl; omega
        · cases h
      · split at h
        · have := ih h; omega
        · cases h
    · cases h

theorem length_of_enter {b : Bracket} {outer inner : List Bracket} {s rest : List Char}
    (h : enter b outer s = .ok (inner, rest)) : rest.length ≤ s.length := by
  have blank := length_skipBlank_le s
  unfold enter at h
  split at h
  · next c more hs =>
    rw [hs] at blank
    simp only [List.length_cons] at blank
    split at h
    · have := length_of_close h; omega
    · split at h
      · next hl => cases h; have := length_of_lead hl; simp at this; omega
      · cases h
  · cases h

theorem length_of_item {outer inner : List Bracket} {s rest : List Char}
    (h : item outer s = .ok (inner, rest)) : rest.length < s.length := by
  unfold item at h
  split at h
  · cases h
  · next hh => have := length_of_head hh; have := length_of_close h; omega
  · next hh => have := length_of_head hh; have := length_of_enter h; omega

/-- Passes over the values that are left inside the brackets that are open, or over one value if none
is. -/
def run (outer : List Bracket) (s : List Char) : Except Failure (List Char) :=
  match h : item outer s with
  | .error e => .error e
  | .ok ([], rest) => .ok rest
  | .ok (b :: more, rest) =>
    have := length_of_item h
    run (b :: more) rest
termination_by s.length

theorem length_of_run {outer : List Bracket} {s rest : List Char} (h : run outer s = .ok rest) :
    rest.length < s.length := by
  fun_induction run outer s with
  | case1 => cases h
  | case2 _ _ _ hi => cases h; exact length_of_item hi
  | case3 _ _ _ _ _ hi _ ih => have := ih h; have := length_of_item hi; omega

end Skip

/-- Passes over one value. -/
def skip : Reader Unit where
  run s := match Skip.run [] s with
    | .ok rest => .ok ((), rest)
    | .error e => .error e
  shrinks {_ _ _} h := by
    split at h
    · next hr => cases h; exact Skip.length_of_run hr
    · cases h

end ShortMessage.Json
