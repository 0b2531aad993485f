import ShortMessage.Json.Reader

/-!
# Strings

A string stands between double quotes. Inside, a backslash starts an escape: one of eight letters for
one character, or `u` with four hexadecimal digits for a UTF-16 unit, where a character above U+FFFF
takes two units in a row. Controls below U+0020 have to be escaped.

* `Literal.body` reads a string up to its closing quote; `stringBody` is the reader made of it.
* `Literal.write` writes a string with the shortest escapes and only where they are needed.
-/

namespace ShortMessage.Json.Literal

/-- The value of a hexadecimal digit of either case. -/
def hexDigit? (c : Char) : Option Nat :=
  if '0' ≤ c ∧ c ≤ '9' then some (c.toNat - '0'.toNat)
  else if 'a' ≤ c ∧ c ≤ 'f' then some (c.toNat - 'a'.toNat + 10)
  else if 'A' ≤ c ∧ c ≤ 'F' then some (c.toNat - 'A'.toNat + 10)
  else none

/-- Why four hexadecimal digits cannot be read. Four octets count as read, even if the last one lies
inside a character. -/
def hexFailure (s : List Char) : Failure :=
  if octets s < 4 then ⟨.endInString, 0⟩ else ⟨.invalidEscape, octets s - 4⟩

/-- Four hexadecimal digits. -/
def hexUnit : List Char → Result Nat
  | a :: b :: c :: d :: rest =>
    match hexDigit? a, hexDigit? b, hexDigit? c, hexDigit? d with
    | some i, some j, some k, some l => .ok (((i * 16 + j) * 16 + k) * 16 + l, rest)
    | _, _, _, _ => .error (hexFailure (a :: b :: c :: d :: rest))
  | s => .error (hexFailure s)

/-- The first unit of a pair. -/
def isLeading (unit : Nat) : Bool :=
  0xD800 ≤ unit && unit < 0xDC00

/-- The second unit of a pair. -/
def isTrailing (unit : Nat) : Bool :=
  0xDC00 ≤ unit && unit < 0xE000

/-- The character that two units stand for. -/
def pairUp (leading trailing : Nat) : Char :=
  Char.ofNat (0x10000 + (leading - 0xD800) * 0x400 + (trailing - 0xDC00))

/-- The second unit of a pair, which follows a backslash and a `u`. -/
def trailingUnit : List Char → Result Nat
  | '\\' :: 'u' :: rest => match hexUnit rest with
    | .error e => .error e
    | .ok (unit, more) =>
      if isTrailing unit then .ok (unit, more) else .error (.before .loneSurrogate more)
  | '\\' :: rest => .error (.here .endInString .surrogatePairCut rest)
  | s => .error (.here .endInString .surrogatePairCut s)

/-- The character of an escape with units, after the `u`. -/
def unitEscape (s : List Char) : Result Char :=
  match hexUnit s with
  | .error e => .error e
  | .ok (unit, rest) =>
    if isTrailing unit then .error (.before .loneSurrogate rest)
    else if isLeading unit then match trailingUnit rest with
      | .error e => .error e
      | .ok (second, more) => .ok (pairUp unit second, more)
    else .ok (Char.ofNat unit, rest)

/-- The character that a letter after a backslash stands for. -/
def letterEscape? : Char → Option Char
  | '"' => some '"'
  | '\\' => some '\\'
  | '/' => some '/'
  | 'b' => some '\x08'
  | 'f' => some '\x0c'
  | 'n' => some '\n'
  | 'r' => some '\r'
  | 't' => some '\t'
  | _ => none

/-- The character of an escape, after the backslash. -/
def escape : List Char → Result Char
  | [] => .error (.here .endInString .invalidEscape [])
  | c :: rest =>
    if c = 'u' then unitEscape rest
    else match letterEscape? c with
      | some d => .ok (d, rest)
      | none => .error (.here .endInString .invalidEscape (c :: rest))

theorem length_of_hexUnit {s rest : List Char} {n : Nat} (h : hexUnit s = .ok (n, rest)) :
    rest.length < s.length := by
  unfold hexUnit at h
  split at h
  · split at h
    · cases h; simp; omega
    · cases h
  · cases h

theorem length_of_trailingUnit {s rest : List Char} {n : Nat}
    (h : trailingUnit s = .ok (n, rest)) : rest.length < s.length := by
  unfold trailingUnit at h
  split at h
  · split at h
    · cases h
    · next hu =>
      split at h
      · cases h; have := length_of_hexUnit hu; simp; omega
      · cases h
  · cases h
  · cases h

theorem length_of_unitEscape {s rest : List Char} {c : Char}
    (h : unitEscape s = .ok (c, rest)) : rest.length < s.length := by
  unfold unitEscape at h
  split at h
  · cases h
  · next hu =>
    have := length_of_hexUnit hu
    split at h
    · cases h
    · split at h
      · split at h
        · cases h
        · next ht =>
          obtain ⟨-, rfl⟩ := Prod.mk.inj (Except.ok.inj h)
          have := length_of_trailingUnit ht
          omega
      · obtain ⟨-, rfl⟩ := Prod.mk.inj (Except.ok.inj h)
        assumption

theorem length_of_escape {s rest : List Char} {c : Char} (h : escape s = .ok (c, rest)) :
    rest.length < s.length := by
  unfold escape at h
  split at h
  · cases h
  · split at h
    · have := length_of_unitEscape h; simp; omega
    · split at h
      · cases h; simp
      · cases h

/-- The characters of a string up to the closing quote, which is taken too. -/
def body : List Char → Result (List Char)
  | [] => .error (.here .endInString .controlCharacter [])
  | c :: rest =>
    if c = '"' then .ok ([], rest)
    else if c = '\\' then match h : escape rest with
      | .error e => .error e
      | .ok (d, more) =>
        have := length_of_escape h
        match body more with
        | .error e => .error e
        | .ok (ds, after) => .ok (d :: ds, after)
    else if c.toNat < 0x20 then .error (.here .endInString .controlCharacter (c :: rest))
    else match body rest with
      | .error e => .error e
      | .ok (ds, after) => .ok (c :: ds, after)
termination_by s => s.length
decreasing_by all_goals simp; try omega

theorem length_of_body {s ds rest : List Char} (h : body s = .ok (ds, rest)) :
    rest.length < s.length := by
  fun_induction body s generalizing ds rest with
  | case2 => cases h; simp
  | case5 s d more _ _ ds after hb _ ih => cases h; have := ih hb; simp; omega
  | case8 c s _ _ _ ds after hb ih => cases h; have := ih hb; simp; omega
  | _ => cases h

/-- A character inside a string, escaped if it has to be. -/
def escaped (c : Char) : List Char :=
  if c = '"' then ['\\', '"']
  else if c = '\\' then ['\\', '\\']
  else if c = '\x08' then ['\\', 'b']
  else if c = '\x0c' then ['\\', 'f']
  else if c = '\n' then ['\\', 'n']
  else if c = '\r' then ['\\', 'r']
  else if c = '\t' then ['\\', 't']
  else if c.toNat < 0x20 then '\\' :: 'u' :: Text.hex 4 c.toNat
  else [c]

/-- A string between quotes. -/
def write (s : String) : List Char :=
  '"' :: s.toList.flatMap escaped ++ ['"']

end Literal

/-- Reads a string after its opening quote. -/
def stringBody : Reader String where
  run s := match Literal.body s with
    | .error e => .error e
    | .ok (cs, rest) => .ok (String.ofList cs, rest)
  shrinks {_ _ _} h := by
    split at h
    · cases h
    · next hb => cases h; exact Literal.length_of_body hb

end ShortMessage.Json
