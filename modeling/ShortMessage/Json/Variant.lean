import ShortMessage.Json.Scalar

/-!
# Named choices

A value that is one of a few is written as its name: either as a string, or as an object whose only
member has that name and a null. `variant` reads both forms.
-/

namespace ShortMessage.Json

variable {α : Type}

/-- The value of a name that was read in front of `rest`. -/
def choose (variants : List (String × α)) (name : String) (rest : List Char) : Except Failure α :=
  match variants.find? (·.1 == name) with
  | some (_, a) => .ok a
  | none => .error (.before (.unknownVariant name (variants.map Prod.fst)) rest)

/-- A name after its opening quote. -/
def variantName (variants : List (String × α)) (s : List Char) : Result α :=
  match stringBody.run s with
  | .error e => .error e
  | .ok (name, rest) => match choose variants name rest with
    | .error e => .error e
    | .ok a => .ok (a, rest)

/-- The null of a name and the brace after it. The character that stands there instead of a brace does
not count as read. -/
def variantEnd (s : List Char) : Except Failure (List Char) :=
  match nothing.afterColon.run s with
  | .error e => .error e
  | .ok ((), rest) => match skipBlank rest with
    | '}' :: more => .ok more
    | [] => .error (.before .endInObject [])
    | more => .error (.before .valueExpected more)

/-- A name as the only member of an object, after the opening brace. -/
def variantObject (variants : List (String × α)) (s : List Char) : Result α :=
  match skipBlank s with
  | '"' :: rest => match variantName variants rest with
    | .error e => .error e
    | .ok (a, more) => match variantEnd more with
      | .error e => .error e
      | .ok after => .ok (a, after)
  | '}' :: rest => .error (.here .endInObject .valueExpected ('}' :: rest))
  | rest => .error (.here .endInObject .keyMustBeString rest)

theorem length_of_variantName {variants : List (String × α)} {s rest : List Char} {a : α}
    (h : variantName variants s = .ok (a, rest)) : rest.length < s.length := by
  unfold variantName at h
  split at h
  · cases h
  · next hb =>
    split at h
    · cases h
    · cases h; exact stringBody.shrinks hb

theorem length_of_variantEnd {s rest : List Char} (h : variantEnd s = .ok rest) :
    rest.length < s.length := by
  unfold variantEnd at h
  split at h
  · cases h
  · next more hn =>
    have := nothing.afterColon.shrinks hn
    have blank := length_skipBlank_le more
    split at h
    · next hb => cases h; rw [hb] at blank; simp at blank; omega
    · cases h
    · cases h

theorem length_of_variantObject {variants : List (String × α)} {s rest : List Char} {a : α}
    (h : variantObject variants s = .ok (a, rest)) : rest.length < s.length := by
  have blank := length_skipBlank_le s
  unfold variantObject at h
  split at h
  · next more hs =>
    rw [hs] at blank
    simp at blank
    split at h
    · cases h
    · next hn =>
      split at h
      · cases h
      · next he =>
        cases h
        have := length_of_variantName hn
        have := length_of_variantEnd he
        omega
  · cases h
  · cases h

/-- One of the named values. -/
def readVariant (variants : List (String × α)) (s : List Char) : Result α :=
  match skipBlank s with
  | '"' :: rest => variantName variants rest
  | '{' :: rest => variantObject variants rest
  | rest => .error (.here .endInValue .valueExpected rest)

theorem length_of_readVariant {variants : List (String × α)} {s rest : List Char} {a : α}
    (h : readVariant variants s = .ok (a, rest)) : rest.length < s.length := by
  have blank := length_skipBlank_le s
  unfold readVariant at h
  split at h
  · next hs => rw [hs, List.length_cons] at blank; have := length_of_variantName h; omega
  · next hs => rw [hs, List.length_cons] at blank; have := length_of_variantObject h; omega
  · cases h

/-- Reads one of the named values. -/
def variant (variants : List (String × α)) : Reader α :=
  ⟨readVariant variants, length_of_readVariant⟩

end ShortMessage.Json
