import ShortMessage.Proofs.Json.Local

/-!
# Objects with further members

An open record passes over a member whose key is no name of a field, wherever it stands. So members
of that kind may be put into an object, or left out of it, and the same record is read. A comma
comes and goes with each, which is why the text of an object is kept here member by member.

* `MemberText` and `ObjectText` are members and objects as they are written, and
  `exists_objectText_iff` says that these are the texts with the outline of an object.
* `Record.Gathers` says what a record makes of members, without the text around them, and
  `Record.readAll_iff_gathers` that reading an object does the same.
* `Inserts` says that members were put in. `Record.gathers_iff_of_inserts` is the step from member
  to member, and `Record.readAll_iff_of_inserts` the result for whole texts.
-/

namespace ShortMessage.Json

/-! ### Objects as they are written -/

/-- A member of an object as it is written, with the blank space around it. Its strings need not
stand for texts. -/
structure MemberText where
  front : List Char
  key : List Char
  before : List Char
  after : List Char
  value : List Char
  back : List Char
  blank_front : Blank front
  raw_key : Literal.IsRaw key
  blank_before : Blank before
  blank_after : Blank after
  spells_value : ∃ v, Spells Verbatim v value
  blank_back : Blank back

namespace MemberText

/-- The characters of a member. -/
def chars (m : MemberText) : List Char :=
  m.front ++ '"' :: (m.key ++ '"' :: (m.before ++ ':' :: (m.after ++ (m.value ++ m.back))))

/-- Members in a row. A comma stands in front of each, but not in front of the first of an
object. -/
def listed : Bool → List MemberText → List Char
  | _, [] => []
  | true, m :: ms => m.chars ++ listed false ms
  | false, m :: ms => ',' :: (m.chars ++ listed false ms)

end MemberText

open MemberText

/-- An object as it is written, with the blank space around it. -/
structure ObjectText where
  front : List Char
  inner : List Char
  members : List MemberText
  back : List Char
  blank_front : Blank front
  blank_inner : Blank inner
  blank_back : Blank back

/-- The text of an object. -/
def ObjectText.text (o : ObjectText) : String :=
  String.ofList (o.front ++ '{' :: (o.inner ++ (listed true o.members ++ '}' :: o.back)))

theorem endsNumeral_listed {b : List Char} (blank : Blank b) (ms : List MemberText)
    (rest : List Char) : EndsNumeral (b ++ (listed false ms ++ '}' :: rest)) := by
  cases ms with
  | nil => exact endsNumeral_blank_append blank (endsNumeral_cons (by decide))
  | cons m ms => exact endsNumeral_blank_append blank (endsNumeral_cons (by decide))

/-- Members in a row spell the members of an object after one of them. -/
theorem exists_spellsMembers {b : List Char} (blank : Blank b) (ms : List MemberText) :
    ∃ vs, SpellsMembers Verbatim vs (b ++ (listed false ms ++ ['}'])) := by
  induction ms generalizing b with
  | nil => exact ⟨[], .close blank⟩
  | cons m ms ih =>
    obtain ⟨vs, others⟩ := ih m.blank_back
    obtain ⟨v, spelled⟩ := m.spells_value
    have member : SpellsMember Verbatim (m.key, v) _ :=
      .mk m.blank_front (.mk m.raw_key) m.blank_before m.blank_after spelled
    refine ⟨(m.key, v) :: vs, ?_⟩
    have both := SpellsMembers.next blank member others
    simpa [listed, chars] using both

/-- What spells the members of an object after one of them are members in a row. -/
theorem exists_listed_of_spells {vs : List (List Char × Value (List Char))} {cs : List Char}
    (h : SpellsMembers Verbatim vs cs) :
    ∃ b ms, Blank b ∧ cs = b ++ (listed false ms ++ ['}']) := by
  induction vs generalizing cs with
  | nil =>
    cases h with
    | @close b blank => exact ⟨b, [], blank, rfl⟩
  | cons m vs ih =>
    cases h with
    | @next _ _ b _ _ blank member others =>
      obtain ⟨back, ms, behind, rfl⟩ := ih others
      obtain ⟨front, ⟨raw⟩, before, after, spelled⟩ := member
      exact ⟨b, ⟨_, _, _, _, _, back, front, raw, before, after, ⟨_, spelled⟩, behind⟩ :: ms, blank,
        by simp [listed, chars]⟩

/-- The texts of objects are those with the outline of one. -/
theorem exists_objectText_iff {text : String} :
    (∃ ms, Outline (.object ms) text) ↔ ∃ o : ObjectText, o.text = text := by
  constructor
  · rintro ⟨ms, a, cs, d, htext, front, spelled, behind⟩
    have written : ∃ inner ms, Blank inner ∧ cs = '{' :: (inner ++ (listed true ms ++ ['}'])) := by
      cases spelled with
      | @emptyObject b blank => exact ⟨b, [], blank, rfl⟩
      | object member others =>
        obtain ⟨back, ms, behind, rfl⟩ := exists_listed_of_spells others
        obtain ⟨front, ⟨raw⟩, before, after, spelled⟩ := member
        exact ⟨[], ⟨_, _, _, _, _, back, front, raw, before, after, ⟨_, spelled⟩, behind⟩ :: ms,
          Blank.nil, by simp [listed, chars]⟩
    obtain ⟨inner, ms, blank, rfl⟩ := written
    refine ⟨⟨a, inner, ms, d, front, blank, behind⟩, ?_⟩
    rw [ObjectText.text, ← String.toList_inj, String.toList_ofList, htext]
    simp
  · rintro ⟨⟨a, inner, ms, d, front, blank, behind⟩, rfl⟩
    have spelled : ∃ vs, Spells Verbatim (.object vs)
        ('{' :: (inner ++ (listed true ms ++ ['}']))) := by
      cases ms with
      | nil => exact ⟨[], .emptyObject blank⟩
      | cons m ms =>
        obtain ⟨vs, others⟩ := exists_spellsMembers m.blank_back ms
        obtain ⟨v, spelled⟩ := m.spells_value
        have member : SpellsMember Verbatim (m.key, v) _ := .mk (blank.append m.blank_front)
          (.mk m.raw_key) m.blank_before m.blank_after spelled
        have all := Spells.object member others
        exact ⟨(m.key, v) :: vs, by simpa [listed, chars] using all⟩
    obtain ⟨vs, spelled⟩ := spelled
    exact ⟨vs, a, _, d, by simp [ObjectText.text], front, spelled, behind⟩

/-- Members are put in between others. Each of them has a key that stands for a text, and this is
none of the names. -/
inductive Inserts (names : List String) : List MemberText → List MemberText → Prop
  | nil : Inserts names [] []
  | keep {m : MemberText} {ms ms' : List MemberText} (rest : Inserts names ms ms') :
      Inserts names (m :: ms) (m :: ms')
  | insert {m : MemberText} {ms ms' : List MemberText} {k : String} (key : SpellsText k m.key)
      (foreign : k ∉ names) (rest : Inserts names ms ms') : Inserts names ms (m :: ms')

namespace Record

variable {σ : Type} {r : Record σ} {seen old : List String} {key : String} {value final : σ}
  {edit : σ → σ}

/-- The fields are read by readers that look at one value only. -/
def IsLocal (r : Record σ) : Prop := ∀ field ∈ r.fields, field.edit.IsLocal

/-! ### What a record makes of members -/

/-- The record takes the member after some keys, and makes this edit of it. -/
def Edits (r : Record σ) (seen : List String) (key : String) (m : MemberText) (edit : σ → σ) :
    Prop :=
  r.member seen key (m.before ++ ':' :: (m.after ++ m.value)) = .ok (edit, [])

/-- The record takes the members after some keys, makes all their edits, and misses nothing. -/
def Gathers (r : Record σ) : List MemberText → List String → σ → σ → Prop
  | [], seen, value, final => final = value ∧ r.missing? seen = none
  | m :: ms, seen, value, final => ∃ key edit, SpellsText key m.key ∧ r.Edits seen key m edit ∧
      r.Gathers ms (key :: seen) (edit value) final

/-- What is made of a member does not depend on what follows. -/
theorem member_iff_edits (h : r.IsLocal) (m : MemberText) {rest more : List Char}
    (stop : EndsNumeral rest) (ends : EndsNumeral more) :
    r.member seen key (m.before ++ ':' :: (m.after ++ (m.value ++ rest))) = .ok (edit, more) ↔
      r.Edits seen key m edit ∧ more = rest := by
  obtain ⟨v, spelled⟩ := m.spells_value
  unfold Edits member
  cases found : r.fields.find? (·.name == key) with
  | some field =>
    by_cases twice : seen.contains key = true
    · simp only [if_pos twice, reduceCtorEq, false_and]
    · simp only [if_neg twice, Reader.afterColon, passColon_append m.blank_before]
      exact (h field (List.mem_of_find?_eq_some found)).run_iff m.blank_after spelled stop ends
  | none =>
    by_cases closed : r.closed = true
    · simp [closed]
    · simp only [if_neg closed, Reader.afterColon, passColon_append m.blank_before]
      exact (isLocal_skip.map fun _ => id).run_iff m.blank_after spelled stop ends

theorem nextKey_listed (first : Bool) {b : List Char} (blank : Blank b) (m : MemberText)
    (ms : List MemberText) (rest : List Char) :
    nextKey first (b ++ (listed first (m :: ms) ++ rest)) =
      memberKey ('"' :: (m.key ++ '"' :: (m.before ++ ':' :: (m.after ++ (m.value ++
        (m.back ++ (listed false ms ++ rest))))))) := by
  cases first with
  | true =>
    rw [← nextKey_quote (blank.append m.blank_front)]
    simp [listed, chars]
  | false =>
    rw [← nextKey_comma_quote blank m.blank_front]
    simp [listed, chars]

/-- Reading the members of an object gathers them. -/
theorem members_iff_gathers (h : r.IsLocal) {ms : List MemberText} {b rest more : List Char}
    (blank : Blank b) :
    (∃ keys, r.members seen value (b ++ (listed seen.isEmpty ms ++ '}' :: rest)) =
        .ok ((keys, final), more) ∧ r.missing? keys = none) ↔
      r.Gathers ms seen value final ∧ more = rest := by
  -- the blank space behind a member stands in front of the others
  induction ms generalizing seen value b with
  | nil =>
    rw [listed, List.nil_append, HasForms.members_close r blank, Gathers]
    constructor
    · rintro ⟨keys, run, complete⟩
      cases run
      exact ⟨⟨rfl, complete⟩, rfl⟩
    · rintro ⟨⟨rfl, complete⟩, rfl⟩
      exact ⟨seen, rfl, complete⟩
  | cons m ms ih =>
    have next := nextKey_listed seen.isEmpty blank m ms ('}' :: rest)
    have stop := endsNumeral_listed m.blank_back ms rest
    constructor
    · rintro ⟨keys, run, complete⟩
      rcases members_cases run with ⟨none, -⟩ | ⟨key, t, edit, more, some, taken, others⟩
      · rw [next] at none
        obtain ⟨_, ⟨⟩, -⟩ := memberKey_of_isRaw m.raw_key none
      · rw [next] at some
        obtain ⟨_, ⟨⟩, text, rfl⟩ := memberKey_of_isRaw m.raw_key some
        have ends := endsNumeral_of_members others []
        rw [List.append_nil] at ends
        obtain ⟨edits, rfl⟩ := (member_iff_edits h m stop ends).1 taken
        obtain ⟨gathers, rfl⟩ := (ih m.blank_back).1 ⟨keys, others, complete⟩
        exact ⟨⟨key, edit, text, edits, gathers⟩, rfl⟩
    · rintro ⟨⟨key, edit, text, edits, gathers⟩, rfl⟩
      obtain ⟨keys, others, complete⟩ := (ih m.blank_back).2 ⟨gathers, rfl⟩
      have taken := (member_iff_edits h m stop stop).2 ⟨edits, rfl⟩
      rw [memberKey_of_spells text] at next
      exact ⟨keys, by rw [members_of_nextKey seen next taken value]; exact others, complete⟩

/-! ### Members that are put in -/

/-- Only the keys that are names matter to what comes after them. -/
theorem member_congr (same : ∀ k ∈ r.names, k ∈ seen ↔ k ∈ old) (key : String) (s : List Char) :
    r.member seen key s = r.member old key s := by
  unfold member
  cases found : r.fields.find? (·.name == key) with
  | none => rfl
  | some field =>
    have named : key ∈ r.names := by
      by_contra foreign
      rw [find?_eq_none_iff.2 foreign] at found
      cases found
    have given : seen.contains key = old.contains key := by
      simp only [List.contains_eq_mem, same key named]
    simp only [given]

theorem missing?_congr (same : ∀ k ∈ r.names, k ∈ seen ↔ k ∈ old) :
    r.missing? seen = none ↔ r.missing? old = none := by
  unfold missing?
  rw [List.find?_eq_none, List.find?_eq_none]
  refine forall₂_congr fun field member => ?_
  have given : seen.contains field.name = old.contains field.name := by
    simp only [List.contains_eq_mem, same _ (List.mem_map_of_mem member)]
  rw [given]

/-- Of a member with a foreign key nothing is made, whatever its value is. -/
theorem edits_foreign_iff (opened : r.closed = false) (foreign : key ∉ r.names) (m : MemberText) :
    r.Edits seen key m edit ↔ edit = id := by
  obtain ⟨v, spelled⟩ := m.spells_value
  have skipped := skip_run_of_spells m.blank_after spelled endsNumeral_nil
  rw [List.append_nil] at skipped
  simp only [Edits, member, find?_eq_none_iff.2 foreign, opened, Reader.afterColon,
    passColon_append m.blank_before, Reader.map, skipped]
  simp [eq_comm]

/-- Members with foreign keys change nothing, wherever they are put in. -/
theorem gathers_iff_of_inserts (opened : r.closed = false) {ms ms' : List MemberText}
    (h : Inserts r.names ms ms') (same : ∀ k ∈ r.names, k ∈ seen ↔ k ∈ old) :
    r.Gathers ms' seen value final ↔ r.Gathers ms old value final := by
  -- the keys that were seen differ in foreign ones only
  induction h generalizing seen old value with
  | nil => rw [Gathers, Gathers, missing?_congr same]
  | keep rest ih =>
    rw [Gathers, Gathers]
    refine exists₂_congr fun key edit => ?_
    have later : ∀ k ∈ r.names, k ∈ key :: seen ↔ k ∈ key :: old := by
      intro k named
      rw [List.mem_cons, List.mem_cons, same k named]
    rw [Edits, member_congr same, ih later]
    rfl
  | @insert m ms ms' k key foreign rest ih =>
    have later : ∀ l ∈ r.names, l ∈ k :: seen ↔ l ∈ old := by
      intro l named
      have other : l ≠ k := by
        rintro rfl
        exact foreign named
      rw [List.mem_cons, or_iff_right other, same l named]
    rw [Gathers, ← ih later]
    constructor
    · rintro ⟨l, edit, text, edits, gathers⟩
      obtain rfl := (key.iff_eq l).1 text
      obtain rfl := (edits_foreign_iff opened foreign m).1 edits
      exact gathers
    · intro gathers
      exact ⟨k, id, key, (edits_foreign_iff opened foreign m).2 rfl, gathers⟩

/-! ### Whole texts -/

/-- What is read from an object is what the record gathers from its members. -/
theorem readAll_iff_gathers (h : r.IsLocal) (o : ObjectText) :
    r.reader.readAll o.text = .ok final ↔ r.Gathers o.members [] r.start final := by
  have run : ∀ rest, r.reader.run o.text.toList = .ok (final, rest) ↔
      r.Gathers o.members [] r.start final ∧ rest = o.back := by
    intro rest
    rw [← members_iff_gathers h o.blank_inner, ← ofObject_ok_iff, ObjectText.text,
      String.toList_ofList, ← read_brace r o.blank_front]
    rfl
  rw [Reader.readAll_iff]
  constructor
  · rintro ⟨rest, taken, -⟩
    exact ((run rest).1 taken).1
  · intro gathers
    exact ⟨o.back, (run o.back).2 ⟨gathers, rfl⟩, o.blank_back⟩

/-- **Foreign members do not matter to an open record.** An object with some of them put in is read
as the same record, and is refused if the object is. -/
theorem readAll_iff_of_inserts (opened : r.closed = false) (h : r.IsLocal) {o o' : ObjectText}
    (inserts : Inserts r.names o.members o'.members) :
    r.reader.readAll o'.text = .ok final ↔ r.reader.readAll o.text = .ok final := by
  rw [readAll_iff_gathers h, readAll_iff_gathers h]
  exact gathers_iff_of_inserts opened inserts fun _ _ => Iff.rfl

end Record

end ShortMessage.Json
