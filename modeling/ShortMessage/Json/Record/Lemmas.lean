import ShortMessage.Json.Record
import ShortMessage.Json.Scalar.Lemmas

/-!
# Reading a written object

An object whose members are written fields of a record is read member by member: each edits the value
that the members before it left.

* `Record.Writes` says that a member gives a field and how it edits the record.
* `members_laterMembers` reads all members after the first, `ofObject_written` a whole object.
-/

namespace ShortMessage.Json

theorem skipBlank_write (s : String) (rest : List Char) :
    skipBlank (Literal.write s ++ rest) = Literal.write s ++ rest := by
  rw [Literal.write_eq_cons, List.cons_append]
  exact skipBlank_cons rfl _

theorem memberKey_write (s : String) (rest : List Char) :
    memberKey (Literal.write s ++ rest) = .ok (some s, rest) := by
  have body := Literal.stringBody_written s rest
  simp [memberKey, Literal.write_eq_cons, Reader.map, body]

theorem nextKey_write (s : String) (rest : List Char) :
    nextKey true (Literal.write s ++ rest) = .ok (some s, rest) := by
  rw [nextKey, skipBlank_write, ← memberKey_write s rest]
  simp [Literal.write_eq_cons]

theorem nextKey_comma_write (s : String) (rest : List Char) :
    nextKey false (',' :: (Literal.write s ++ rest)) = .ok (some s, rest) := by
  rw [nextKey, skipBlank_cons rfl]
  simp [skipBlank_write, memberKey_write]

namespace Record

variable {σ : Type}

/-- A member in its written form, with the edit that it makes. -/
structure WrittenMember (σ : Type) where
  name : String
  text : List Char
  edit : σ → σ

/-- The key and the text of a member. -/
def WrittenMember.pair (m : WrittenMember σ) : String × List Char := (m.name, m.text)

/-- The member gives a field of the record, and its text is read as its edit, whatever follows that
ends a number. -/
def Writes (r : Record σ) (m : WrittenMember σ) : Prop :=
  ∃ field, r.fields.find? (·.name == m.name) = some field ∧
    ∀ rest, EndsNumeral rest → field.edit.run (m.text ++ rest) = .ok (m.edit, rest)

theorem member_written {r : Record σ} {m : WrittenMember σ} (written : r.Writes m)
    {seen : List String} (fresh : m.name ∉ seen) {rest : List Char} (stop : EndsNumeral rest) :
    r.member seen m.name (':' :: (m.text ++ rest)) = .ok (m.edit, rest) := by
  obtain ⟨field, found, read⟩ := written
  have colon : passColon (':' :: (m.text ++ rest)) = .ok (m.text ++ rest) := by
    rw [passColon, skipBlank_cons rfl]
    rfl
  simp [member, found, fresh, Reader.afterColon, colon, read rest stop]

theorem members_of_nextKey {r : Record σ} (seen : List String) {s more rest : List Char}
    {key : String} {edit : σ → σ} (hk : nextKey seen.isEmpty s = .ok (some key, more))
    (hm : r.member seen key more = .ok (edit, rest)) (value : σ) :
    r.members seen value s = r.members (key :: seen) (edit value) rest := by
  rw [members]
  split
  · next h => rw [hk] at h; cases h
  · next h => rw [hk] at h; cases h
  · next h =>
    rw [hk] at h
    cases h
    split
    · next h => rw [hm] at h; cases h
    · next h => rw [hm] at h; cases h; rfl

theorem members_error {r : Record σ} {seen : List String} {s more : List Char} {key : String}
    {e : Failure} (hk : nextKey seen.isEmpty s = .ok (some key, more))
    (hm : r.member seen key more = .error e) (value : σ) : r.members seen value s = .error e := by
  rw [members]
  split
  · next h => rw [hk] at h; cases h
  · next h => rw [hk] at h; cases h
  · next h =>
    rw [hk] at h
    cases h
    split
    · next h => rw [hm] at h; cases h; rfl
    · next h => rw [hm] at h; cases h

theorem members_end {r : Record σ} {seen : List String} {s rest : List Char}
    (hk : nextKey seen.isEmpty s = .ok (none, rest)) (value : σ) :
    r.members seen value s = .ok ((seen, value), rest) := by
  rw [members]
  split
  · next h => rw [hk] at h; cases h
  · next h => rw [hk] at h; cases h; rfl
  · next h => rw [hk] at h; cases h

theorem members_brace (r : Record σ) (seen : List String) (value : σ) (rest : List Char) :
    r.members seen value ('}' :: rest) = .ok ((seen, value), rest) := by
  have key : nextKey seen.isEmpty ('}' :: rest) = .ok (none, rest) := by
    rw [nextKey, skipBlank_cons rfl]
    rfl
  exact members_end key value

/-- The members after the first in their written form, and the closing brace. -/
def laterMembers (ms : List (WrittenMember σ)) (rest : List Char) : List Char :=
  (ms.map WrittenMember.pair).flatMap (fun m => ',' :: writeMember m) ++ '}' :: rest

theorem laterMembers_cons (m : WrittenMember σ) (ms : List (WrittenMember σ)) (rest : List Char) :
    laterMembers (m :: ms) rest =
      ',' :: (Literal.write m.name ++ ':' :: (m.text ++ laterMembers ms rest)) := by
  simp [laterMembers, WrittenMember.pair, writeMember]

/-- What follows a written member ends a number. -/
theorem endsNumeral_laterMembers (ms : List (WrittenMember σ)) (rest : List Char) :
    EndsNumeral (laterMembers ms rest) := by
  cases ms with
  | nil => exact endsNumeral_cons ⟨rfl, by decide, by decide, by decide⟩
  | cons m ms =>
    rw [laterMembers_cons]
    exact endsNumeral_cons ⟨rfl, by decide, by decide, by decide⟩

/-- The edits of members, made from the first to the last. -/
def editAll (ms : List (WrittenMember σ)) (value : σ) : σ :=
  ms.foldl (fun v m => m.edit v) value

theorem members_laterMembers {r : Record σ} {ms : List (WrittenMember σ)}
    (written : ∀ m ∈ ms, r.Writes m) {seen : List String} (started : seen ≠ [])
    (distinct : (ms.map WrittenMember.name).Nodup)
    (fresh : ∀ k ∈ ms.map WrittenMember.name, k ∉ seen) (value : σ) (rest : List Char) :
    r.members seen value (laterMembers ms rest) =
      .ok (((ms.map WrittenMember.name).reverse ++ seen, editAll ms value), rest) := by
  induction ms generalizing seen value with
  | nil => exact members_brace r seen value rest
  | cons m ms ih =>
    obtain ⟨first, others⟩ := List.nodup_cons.1 distinct
    have key := nextKey_comma_write m.name (':' :: (m.text ++ laterMembers ms rest))
    rw [← laterMembers_cons, ← List.isEmpty_eq_false_iff.2 started] at key
    have step := member_written (written m List.mem_cons_self) (fresh _ List.mem_cons_self)
      (endsNumeral_laterMembers ms rest)
    have unseen : ∀ k ∈ ms.map WrittenMember.name, k ∉ m.name :: seen := by
      intro k hk hmem
      rcases List.mem_cons.1 hmem with rfl | old
      · exact first hk
      · exact fresh k (List.mem_cons_of_mem _ hk) old
    rw [members_of_nextKey seen key step value,
      ih (fun m hm => written m (List.mem_cons_of_mem _ hm)) (List.cons_ne_nil _ _) others unseen]
    simp [editAll]

/-- **A written object is read back**: its members edit the value at the start, if no field is
missing. -/
theorem ofObject_written {r : Record σ} {m : WrittenMember σ} {ms : List (WrittenMember σ)}
    (written : ∀ x ∈ m :: ms, r.Writes x)
    (distinct : ((m :: ms).map WrittenMember.name).Nodup)
    (complete : r.missing? (((m :: ms).map WrittenMember.name).reverse) = none)
    (rest : List Char) :
    r.reader.run (writeObject ((m :: ms).map WrittenMember.pair) ++ rest) =
      .ok (editAll (m :: ms) r.start, rest) := by
  obtain ⟨first, others⟩ := List.nodup_cons.1 distinct
  have text : writeObject ((m :: ms).map WrittenMember.pair) ++ rest =
      '{' :: (Literal.write m.name ++ ':' :: (m.text ++ laterMembers ms rest)) := by
    simp [writeObject, laterMembers, WrittenMember.pair, writeMember]
  have key := nextKey_write m.name (':' :: (m.text ++ laterMembers ms rest))
  have step := member_written (written m List.mem_cons_self) (List.not_mem_nil)
    (endsNumeral_laterMembers ms rest)
  have unseen : ∀ k ∈ ms.map WrittenMember.name, k ∉ [m.name] := by
    intro k hk hmem
    rw [List.mem_singleton.1 hmem] at hk
    exact first hk
  have all := members_laterMembers (fun x hx => written x (List.mem_cons_of_mem _ hx))
    (List.cons_ne_nil m.name []) others unseen (m.edit r.start) rest
  have brace : readHead ('{' :: (Literal.write m.name ++ ':' :: (m.text ++ laterMembers ms rest))) =
      .ok (.map, Literal.write m.name ++ ':' :: (m.text ++ laterMembers ms rest)) := by
    simp only [readHead, skipBlank_cons (rfl : isBlank '{' = false)]
    rfl
  rw [text]
  simp only [reader, read, brace, ofObject]
  rw [members_of_nextKey [] key step r.start, all]
  simp only [List.map_cons, List.reverse_cons] at complete
  simp [complete, editAll]

end Record

end ShortMessage.Json
