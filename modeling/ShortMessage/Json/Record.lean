import ShortMessage.Json.Skip

/-!
# Records

A record is read from an object, whose members may come in any order, or from an array of the fields
in their order. Reading starts from a given value, and every field that the document gives edits it.

* `Record.members` reads the members of an object, `Record.elements` the elements of an array.
* `Record.reader` reads a record in either form.

A member of an unknown name is refused by a closed record and passed over by an open one. No name may
be given twice. A record that is `whole` needs every element of its array form.
-/

namespace ShortMessage.Json

/-- A field of a record: its name, how its value edits a record, and whether an object has to give
it. -/
structure Field (σ : Type) where
  name : String
  required : Bool
  edit : Reader (σ → σ)

/-- What a record is read as. -/
structure Record (σ : Type) where
  title : String
  start : σ
  fields : List (Field σ)
  closed : Bool
  whole : Bool

/-! ## Between members and between elements -/

/-- The key of a member, where a closing brace can only follow a comma. -/
def memberKey : List Char → Result (Option String)
  | '"' :: rest => (stringBody.map some).run rest
  | '}' :: rest => .error (.here .endInValue .trailingComma ('}' :: rest))
  | s => .error (.here .endInValue .keyMustBeString s)

/-- The key of the next member, or none at the closing brace. A comma stands before every member but
the first. -/
def nextKey (first : Bool) (s : List Char) : Result (Option String) :=
  match skipBlank s with
  | [] => .error (.here .endInObject .objectCommaOrEndExpected [])
  | c :: rest =>
    if c = '}' then .ok (none, rest)
    else if first then memberKey (c :: rest)
    else if c = ',' then memberKey (skipBlank rest)
    else .error (.here .endInObject .objectCommaOrEndExpected (c :: rest))

/-- Whether another element follows in an array; the closing bracket is taken. A comma stands before
every element but the first. -/
def nextElement (first : Bool) (s : List Char) : Result Bool :=
  match skipBlank s with
  | [] => .error (.here .endInArray .arrayCommaOrEndExpected [])
  | c :: rest =>
    if c = ']' then .ok (false, rest)
    else if first then .ok (true, c :: rest)
    else if c = ',' then match skipBlank rest with
      | ']' :: more => .error (.here .endInValue .trailingComma (']' :: more))
      | [] => .error (.here .endInValue .trailingComma [])
      | more => .ok (true, more)
    else .error (.here .endInArray .arrayCommaOrEndExpected (c :: rest))

/-- The end of an array that has all its elements. -/
def endArray (s : List Char) : Except Failure (List Char) :=
  match skipBlank s with
  | ']' :: rest => .ok rest
  | ',' :: rest => match skipBlank rest with
    | ']' :: more => .error (.here .trailingComma .trailingComma (']' :: more))
    | more => .error (.here .trailingCharacters .trailingCharacters more)
  | rest => .error (.here .endInArray .trailingCharacters rest)

/-- A key that is refused. The object is left before that, so a brace that closes it after the key
counts as read. -/
def refusedKey (cause : Cause) (s : List Char) : Failure :=
  match skipBlank s with
  | '}' :: rest => .before cause rest
  | rest => .before cause rest

theorem length_of_memberKey {s rest : List Char} {k : Option String}
    (h : memberKey s = .ok (k, rest)) : rest.length < s.length := by
  unfold memberKey at h
  split at h
  · have := (stringBody.map some).shrinks h; simp; omega
  · cases h
  · cases h

theorem length_of_nextKey {first : Bool} {s rest : List Char} {k : Option String}
    (h : nextKey first s = .ok (k, rest)) : rest.length < s.length := by
  have blank := length_skipBlank_le s
  unfold nextKey at h
  split at h
  · cases h
  · next c more hs =>
    rw [hs] at blank
    simp only [List.length_cons] at blank
    repeat' split at h
    · cases h; omega
    · have := length_of_memberKey h; simp at this; omega
    · have := length_of_memberKey h; have := length_skipBlank_le more; omega
    · cases h

theorem length_of_nextElement {first more : Bool} {s rest : List Char}
    (h : nextElement first s = .ok (more, rest)) : rest.length ≤ s.length := by
  have blank := length_skipBlank_le s
  unfold nextElement at h
  split at h
  · cases h
  · next c t hs =>
    rw [hs] at blank
    simp only [List.length_cons] at blank
    have := length_skipBlank_le t
    repeat' split at h
    · cases h; omega
    · cases h; simp; omega
    · cases h
    · cases h
    · cases h; omega
    · cases h

theorem length_of_endArray {s rest : List Char} (h : endArray s = .ok rest) :
    rest.length ≤ s.length := by
  have blank := length_skipBlank_le s
  unfold endArray at h
  split at h
  · next more hs => cases h; rw [hs] at blank; simp at blank; omega
  · split at h <;> cases h
  · cases h

/-! ## Reading a record -/

namespace Record

variable {σ : Type}

/-- The names of the fields, in order. -/
def names (r : Record σ) : List String :=
  r.fields.map Field.name

/-- The value of a member, with its colon, where `seen` are the keys before it. -/
def member (r : Record σ) (seen : List String) (key : String) (s : List Char) :
    Result (σ → σ) :=
  match r.fields.find? (·.name == key) with
  | some field =>
    if seen.contains key then .error (refusedKey (.duplicateField key) s)
    else field.edit.afterColon.run s
  | none =>
    if r.closed then .error (refusedKey (.unknownField key r.names) s)
    else (skip.map fun _ => id).afterColon.run s

theorem length_of_member {r : Record σ} {seen : List String} {key : String} {s rest : List Char}
    {f : σ → σ} (h : r.member seen key s = .ok (f, rest)) : rest.length < s.length := by
  unfold member at h
  split at h
  · split at h
    · cases h
    · exact Reader.shrinks _ h
  · split at h
    · cases h
    · exact Reader.shrinks _ h

/-- The members of an object up to its closing brace, which is taken. Gives the keys and the edited
value. -/
def members (r : Record σ) (seen : List String) (value : σ) (s : List Char) :
    Result (List String × σ) :=
  match hk : nextKey seen.isEmpty s with
  | .error e => .error e
  | .ok (none, rest) => .ok ((seen, value), rest)
  | .ok (some key, rest) => match hm : r.member seen key rest with
    | .error e => .error e
    | .ok (edit, more) =>
      have := length_of_nextKey hk
      have := length_of_member hm
      r.members (key :: seen) (edit value) more
termination_by s.length

theorem length_of_members {r : Record σ} {seen keys : List String} {value final : σ}
    {s rest : List Char} (h : r.members seen value s = .ok ((keys, final), rest)) :
    rest.length < s.length := by
  fun_induction members r seen value s with
  | case2 _ _ _ _ hk => cases h; exact length_of_nextKey hk
  | case4 _ _ _ _ _ hk _ _ hm _ _ ih =>
    have := ih h
    have := length_of_nextKey hk
    have := length_of_member hm
    omega
  | _ => cases h

/-- The first field that an object has to give and that is not among its keys. -/
def missing? (r : Record σ) (keys : List String) : Option (Field σ) :=
  r.fields.find? fun field => field.required && !keys.contains field.name

/-- The record of an object, after its opening brace. -/
def ofObject (r : Record σ) (s : List Char) : Result σ :=
  match r.members [] r.start s with
  | .error e => .error e
  | .ok ((keys, value), rest) => match r.missing? keys with
    | some field => .error (.before (.missingField field.name) rest)
    | none => .ok (value, rest)

/-- The elements of an array for some fields up to the closing bracket, which is taken. `index` counts
the fields before them. -/
def elements (r : Record σ) : List (Field σ) → Nat → σ → List Char → Result σ
  | [], _, value, s => match endArray s with
    | .error e => .error e
    | .ok rest => .ok (value, rest)
  | field :: fields, index, value, s => match nextElement (index == 0) s with
    | .error e => .error e
    | .ok (false, rest) =>
      if r.whole then
        let expected := "struct " ++ r.title ++ " with " ++ toString r.fields.length ++ " elements"
        .error (.before (.wrongLength index expected) rest)
      else .ok (value, rest)
    | .ok (true, rest) => match field.edit.run rest with
      | .error e => .error e
      | .ok (edit, more) => r.elements fields (index + 1) (edit value) more

theorem length_of_elements {r : Record σ} {fields : List (Field σ)} {index : Nat} {value final : σ}
    {s rest : List Char} (h : r.elements fields index value s = .ok (final, rest)) :
    rest.length ≤ s.length := by
  induction fields generalizing index value s with
  | nil =>
    unfold elements at h
    split at h
    · cases h
    · next he => cases h; exact length_of_endArray he
  | cons field fields ih =>
    unfold elements at h
    split at h
    · cases h
    · next hn =>
      split at h
      · cases h
      · cases h; exact length_of_nextElement hn
    · next hn =>
      split at h
      · cases h
      · next he =>
        have := ih h
        have := field.edit.shrinks he
        have := length_of_nextElement hn
        omega

theorem length_of_ofObject {r : Record σ} {value : σ} {s rest : List Char}
    (h : r.ofObject s = .ok (value, rest)) : rest.length < s.length := by
  unfold ofObject at h
  split at h
  · cases h
  · next hm =>
    split at h
    · cases h
    · cases h; exact length_of_members hm

/-- A record in the form of an object or of an array. -/
def read (r : Record σ) (s : List Char) : Result σ :=
  match readHead s with
  | .error e => .error e
  | .ok (.map, rest) => r.ofObject rest
  | .ok (.sequence, rest) => r.elements r.fields 0 r.start rest
  | .ok (found, rest) => .error (mismatch ("struct " ++ r.title) found rest)

theorem length_of_read {r : Record σ} {value : σ} {s rest : List Char}
    (h : r.read s = .ok (value, rest)) : rest.length < s.length := by
  unfold read at h
  split at h
  · cases h
  · next hh => exact Nat.lt_trans (length_of_ofObject h) (length_of_readHead hh)
  · next hh => exact Nat.lt_of_le_of_lt (length_of_elements h) (length_of_readHead hh)
  · cases h

/-- Reads a record from an object or from an array. -/
def reader (r : Record σ) : Reader σ := ⟨r.read, length_of_read⟩

end Record

end ShortMessage.Json
