import ShortMessage.Json.Record.Lemmas
import ShortMessage.Proofs.Json.Form

/-!
# Which objects a closed record takes

Reading goes over the members from the left and keeps the keys that it has seen and the record that
the members before have edited. So what it takes is said of the members that are left, for any keys
and any record, by induction on them.

* `members_iff` says which members after the first are taken, `ofObject_iff` which objects.
* `spells_of_members` says that nothing else is taken.
-/

namespace ShortMessage.Json

variable {σ : Type}

/-! ### Keys and colons -/

theorem passColon_append {b : List Char} (blank : Blank b) (s : List Char) :
    passColon (b ++ ':' :: s) = .ok s := by
  rw [passColon, skipBlank_append_cons blank rfl]
  rfl

theorem eq_append_of_passColon {s rest : List Char} (h : passColon s = .ok rest) :
    ∃ b, Blank b ∧ s = b ++ ':' :: rest := by
  unfold passColon at h
  split at h
  · next hs =>
    cases h
    exact exists_blank_of_skipBlank hs
  · cases h

theorem memberKey_of_spells {k : String} {ks : List Char} (key : SpellsText k ks)
    (s : List Char) : memberKey ('"' :: (ks ++ '"' :: s)) = .ok (some k, s) := by
  simp [memberKey, Reader.map, stringBody_of_spells key]

theorem spells_of_memberKey {s rest : List Char} {key : Option String}
    (h : memberKey s = .ok (key, rest)) :
    ∃ k ks, key = some k ∧ SpellsText k ks ∧ s = '"' :: (ks ++ '"' :: rest) := by
  unfold memberKey at h
  split at h
  · simp only [Reader.map] at h
    split at h
    · next hb =>
      cases h
      obtain ⟨ks, key, rfl⟩ := spells_of_stringBody hb
      exact ⟨_, ks, rfl, key, rfl⟩
    · cases h
  · cases h
  · cases h

theorem nextKey_brace {b : List Char} (blank : Blank b) (first : Bool) (s : List Char) :
    nextKey first (b ++ '}' :: s) = .ok (none, s) := by
  rw [nextKey, skipBlank_append_cons blank rfl]
  rfl

theorem nextKey_quote {a : List Char} (blank : Blank a) (s : List Char) :
    nextKey true (a ++ '"' :: s) = memberKey ('"' :: s) := by
  rw [nextKey, skipBlank_append_cons blank rfl]
  rfl

theorem nextKey_comma_quote {a b : List Char} (before : Blank b) (blank : Blank a)
    (s : List Char) : nextKey false (b ++ ',' :: (a ++ '"' :: s)) = memberKey ('"' :: s) := by
  rw [nextKey, skipBlank_append_cons before rfl]
  show memberKey (skipBlank (a ++ '"' :: s)) = memberKey ('"' :: s)
  rw [skipBlank_append_cons blank rfl]

theorem nextKey_first {a ks : List Char} {k : String} (blank : Blank a) (key : SpellsText k ks)
    (s : List Char) : nextKey true (a ++ '"' :: (ks ++ '"' :: s)) = .ok (some k, s) :=
  (nextKey_quote blank _).trans (memberKey_of_spells key s)

theorem nextKey_comma {a b ks : List Char} {k : String} (before : Blank b) (blank : Blank a)
    (key : SpellsText k ks) (s : List Char) :
    nextKey false (b ++ ',' :: (a ++ '"' :: (ks ++ '"' :: s))) = .ok (some k, s) :=
  (nextKey_comma_quote before blank _).trans (memberKey_of_spells key s)

/-- After a member stands the closing brace, or a comma and a key. In front of the first member no
comma stands. -/
theorem nextKey_cases {first : Bool} {s rest : List Char} {key : Option String}
    (h : nextKey first s = .ok (key, rest)) :
    ∃ b, Blank b ∧ ((key = none ∧ s = b ++ '}' :: rest) ∨
      ∃ k ks, key = some k ∧ SpellsText k ks ∧
        ((first = true ∧ s = b ++ '"' :: (ks ++ '"' :: rest)) ∨
          first = false ∧ ∃ a, Blank a ∧ s = b ++ ',' :: (a ++ '"' :: (ks ++ '"' :: rest)))) := by
  unfold nextKey at h
  split at h
  · cases h
  · next c t hs =>
    obtain ⟨b, blank, rfl⟩ := exists_blank_of_skipBlank hs
    refine ⟨b, blank, ?_⟩
    split at h
    · next hc =>
      cases h
      exact .inl ⟨rfl, by rw [hc]⟩
    split at h
    · next isFirst =>
      obtain ⟨k, ks, rfl, key, ht⟩ := spells_of_memberKey h
      exact .inr ⟨k, ks, rfl, key, .inl ⟨isFirst, by rw [ht]⟩⟩
    split at h
    · next notFirst hc =>
      obtain ⟨k, ks, rfl, key, ht⟩ := spells_of_memberKey h
      obtain ⟨a, after, rfl⟩ := exists_blank_of_skipBlank ht
      exact .inr ⟨k, ks, rfl, key, .inr ⟨Bool.eq_false_of_not_eq_true notFirst, a, after,
        by rw [hc]⟩⟩
    · cases h

/-- Whatever follows a key or a closing brace, it is found. -/
theorem nextKey_append {first : Bool} {s rest : List Char} {key : Option String}
    (h : nextKey first s = .ok (key, rest)) (t : List Char) :
    nextKey first (s ++ t) = .ok (key, rest ++ t) := by
  obtain ⟨b, blank, ⟨rfl, rfl⟩ | ⟨k, ks, rfl, key, ⟨rfl, rfl⟩ | ⟨rfl, a, before, rfl⟩⟩⟩ :=
    nextKey_cases h
  · simpa using nextKey_brace blank first (rest ++ t)
  · simpa using nextKey_first blank key (rest ++ t)
  · simpa using nextKey_comma blank before key (rest ++ t)

/-- A number ends before a key or a closing brace. -/
theorem endsNumeral_of_nextKey {first : Bool} {s rest : List Char} {key : Option String}
    (h : nextKey first s = .ok (key, rest)) : EndsNumeral s := by
  obtain ⟨b, blank, ⟨-, rfl⟩ | ⟨k, ks, -, -, ⟨-, rfl⟩ | ⟨-, a, -, rfl⟩⟩⟩ := nextKey_cases h
  all_goals exact endsNumeral_blank_append blank (endsNumeral_cons (by decide))

/-- What comes first in the members that are left is the closing brace or a member. -/
theorem Record.members_cases {r : Record σ} {seen keys : List String} {value final : σ}
    {s rest : List Char} (run : r.members seen value s = .ok ((keys, final), rest)) :
    (nextKey seen.isEmpty s = .ok (none, rest) ∧ keys = seen ∧ final = value) ∨
      ∃ key t edit more, nextKey seen.isEmpty s = .ok (some key, t) ∧
        r.member seen key t = .ok (edit, more) ∧
        r.members (key :: seen) (edit value) more = .ok ((keys, final), rest) := by
  rw [members] at run
  split at run
  · cases run
  · next hk =>
    cases run
    exact .inl ⟨hk, rfl, rfl⟩
  · next hk =>
    split at run
    · cases run
    · next hm => exact .inr ⟨_, _, _, _, hk, hm, run⟩

/-- What is read as the members of an object spells them, if each member that is taken spells one.
Once a key is seen, what is left are later members and the brace. -/
theorem Record.exists_spells_of_members {τ : Type} {literal : τ → List Char → Prop}
    {r : Record σ} (spelledKey : ∀ k ks, SpellsText k ks → ∃ t, literal t ks)
    (spelledMember : ∀ {seen key s rest} {edit : σ → σ}, r.member seen key s = .ok (edit, rest) →
      ∃ b d v cs, Blank b ∧ Blank d ∧ Spells literal v cs ∧ s = b ++ ':' :: (d ++ (cs ++ rest)))
    {seen keys : List String} {value final : σ} {s rest : List Char}
    (run : r.members seen value s = .ok ((keys, final), rest)) :
    (seen = [] → ∃ ms cs, Spells literal (.object ms) ('{' :: cs) ∧ s = cs ++ rest) ∧
      (seen ≠ [] → ∃ ms cs, SpellsMembers literal ms cs ∧ s = cs ++ rest) := by
  fun_induction members r seen value s with
  | case2 seen value s t hk =>
    cases run
    obtain ⟨b, blank, ⟨-, rfl⟩ | ⟨k, ks, ⟨⟩, -⟩⟩ := nextKey_cases hk
    refine ⟨?_, ?_⟩
    · exact fun _ => ⟨[], _, .emptyObject blank, by simp⟩
    · exact fun _ => ⟨[], _, .close blank, by simp⟩
  | case4 seen value s key t hk edit more hm _ _ ih =>
    obtain ⟨ms, cs, others, rfl⟩ := (ih run).2 (List.cons_ne_nil _ _)
    obtain ⟨b, d, v, vs, before, after, spelled, rfl⟩ := spelledMember hm
    obtain ⟨a, blank, ⟨⟨⟩, -⟩ | ⟨k, ks, -, key, place⟩⟩ := nextKey_cases hk
    obtain ⟨t, key⟩ := spelledKey k ks key
    rcases place with ⟨first, rfl⟩ | ⟨notFirst, f, front, rfl⟩
    · refine ⟨?_, fun started => absurd (List.isEmpty_iff.1 first) started⟩
      intro _
      exact ⟨_, _, .object (.mk blank key before after spelled) others, by simp⟩
    · refine ⟨fun start => absurd start (List.isEmpty_eq_false_iff.1 notFirst), ?_⟩
      intro _
      exact ⟨_, _, .next blank (.mk front key before after spelled) others, by simp⟩
  | _ => cases run

theorem Record.ofObject_ok_iff {r : Record σ} {s rest : List Char} {final : σ} :
    r.ofObject s = .ok (final, rest) ↔
      ∃ keys, r.members [] r.start s = .ok ((keys, final), rest) ∧ r.missing? keys = none := by
  unfold ofObject
  constructor
  · intro run
    split at run
    · cases run
    · next hm =>
      split at run
      · cases run
      · next complete =>
        cases run
        exact ⟨_, hm, complete⟩
  · rintro ⟨keys, hm, complete⟩
    simp only [hm, complete]

namespace Record.HasForms

variable {r : Record σ} {forms : List (Form σ)}

/-- A member is taken if its key is a new one and its value fits. -/
theorem member_iff (h : r.HasForms forms) {seen : List String} {key : String} {edit : σ → σ}
    {b d cs rest more : List Char} {v : Value String} (before : Blank b) (after : Blank d)
    (spelled : Spells SpellsText v cs) (stop : EndsNumeral rest) :
    r.member seen key (b ++ ':' :: (d ++ (cs ++ rest))) = .ok (edit, more) ↔
      key ∉ seen ∧ Fits forms (key, v) ∧ edit = (editBy forms · (key, v)) ∧ more = rest := by
  unfold member Fits editBy
  rcases find?_hasForm h.fields key with ⟨noField, noForm⟩ | ⟨field, form, hField, hForm, same⟩
  · simp only [noField, noForm, h.closed]
    simp
  · simp only [hField, hForm]
    by_cases old : key ∈ seen
    · simp [old]
    · have run : field.edit.afterColon.run (b ++ ':' :: (d ++ (cs ++ rest))) =
          field.edit.run (d ++ (cs ++ rest)) := by
        simp only [Reader.afterColon, passColon_append before]
      rw [if_neg (by simpa using old), run, same.takes.run_iff after spelled stop]
      simp [old]

/-- What a member takes is a value after a colon. -/
theorem spells_of_member (h : r.HasForms forms) {seen : List String} {key : String} {edit : σ → σ}
    {s rest : List Char} (run : r.member seen key s = .ok (edit, rest)) :
    ∃ b d v cs, Blank b ∧ Blank d ∧ Spells SpellsText v cs ∧
      s = b ++ ':' :: (d ++ (cs ++ rest)) := by
  unfold member at run
  rcases find?_hasForm h.fields key with ⟨noField, -⟩ | ⟨field, form, hField, -, same⟩
  · simp [noField, h.closed] at run
  · simp only [hField] at run
    split at run
    · cases run
    · simp only [Reader.afterColon] at run
      split at run
      · next colon =>
        obtain ⟨b, before, rfl⟩ := eq_append_of_passColon colon
        obtain ⟨d, v, cs, after, spelled, rfl⟩ := same.takes.spelled run
        exact ⟨b, d, v, cs, before, after, spelled, rfl⟩
      · cases run

/-! ### Objects -/

/-- One step over the members of an object. -/
theorem members_step (h : r.HasForms forms) {seen : List String} {key : String}
    {s b d cs rest more : List Char} {v : Value String} {value final : σ}
    (next : nextKey seen.isEmpty s = .ok (some key, b ++ ':' :: (d ++ (cs ++ rest))))
    (before : Blank b) (after : Blank d) (spelled : Spells SpellsText v cs)
    (stop : EndsNumeral rest) :
    (∃ keys, r.members seen value s = .ok ((keys, final), more)) ↔
      key ∉ seen ∧ Fits forms (key, v) ∧ ∃ keys,
        r.members (key :: seen) (editBy forms value (key, v)) rest = .ok ((keys, final), more) := by
  constructor
  · rintro ⟨keys, run⟩
    rcases members_cases run with ⟨hk, -⟩ | ⟨_, _, edit, t, hk, hm, others⟩
    · rw [next] at hk
      cases hk
    · rw [next] at hk
      cases hk
      obtain ⟨fresh, fits, rfl, rfl⟩ := (h.member_iff before after spelled stop).1 hm
      exact ⟨fresh, fits, keys, others⟩
  · rintro ⟨fresh, fits, keys, run⟩
    have hm := (h.member_iff before after spelled stop).2 ⟨fresh, fits, rfl, rfl⟩
    exact ⟨keys, by rw [members_of_nextKey seen next hm value, run]⟩

theorem members_close (r : Record σ) {b : List Char} (blank : Blank b) (seen : List String)
    (value : σ) (rest : List Char) :
    r.members seen value (b ++ '}' :: rest) = .ok ((seen, value), rest) :=
  members_end (nextKey_brace blank seen.isEmpty rest) value

/-- Keys are new ones if the first is and the others are then. -/
theorem new_cons_iff {m : String × Value String} {ms : List (String × Value String)}
    {seen : List String} :
    (((m :: ms).map Prod.fst).Nodup ∧ ∀ x ∈ m :: ms, x.1 ∉ seen) ↔
      m.1 ∉ seen ∧ (ms.map Prod.fst).Nodup ∧ ∀ x ∈ ms, x.1 ∉ m.1 :: seen := by
  rw [List.map_cons, List.nodup_cons, List.forall_mem_cons]
  constructor
  · rintro ⟨⟨fresh, others⟩, first, unseen⟩
    refine ⟨first, others, ?_⟩
    intro x hx old
    rcases List.mem_cons.1 old with same | old
    · exact fresh (same ▸ List.mem_map_of_mem hx)
    · exact unseen x hx old
  · rintro ⟨first, others, unseen⟩
    refine ⟨⟨?_, others⟩, first, fun x hx old => unseen x hx (List.mem_cons_of_mem _ old)⟩
    intro old
    obtain ⟨x, hx, same⟩ := List.mem_map.1 old
    exact unseen x hx (same ▸ List.mem_cons_self)

/-- The members after one of an object are taken if their keys are new ones and their values fit,
and then all edits are made. -/
theorem members_iff (h : r.HasForms forms) {ms : List (String × Value String)}
    {seen : List String} {cs rest more : List Char} {value final : σ} (started : seen ≠ [])
    (spelled : SpellsMembers SpellsText ms cs) :
    (∃ keys, r.members seen value (cs ++ rest) = .ok ((keys, final), more)) ↔
      ((ms.map Prod.fst).Nodup ∧ ∀ m ∈ ms, m.1 ∉ seen) ∧ (∀ m ∈ ms, Fits forms m) ∧
        final = ms.foldl (editBy forms) value ∧ more = rest := by
  -- each member adds its key to those that are seen and edits the value
  induction ms generalizing seen cs value with
  | nil =>
    cases spelled with
    | close blank =>
      rw [List.append_assoc, List.cons_append, List.nil_append, members_close r blank]
      simp [eq_comm]
  | cons m ms ih =>
    cases spelled with
    | next comma member others =>
      obtain ⟨front, key, before, after, spelled⟩ := member
      have next := nextKey_comma comma front key
      rw [← List.isEmpty_eq_false_iff.2 started] at next
      simp only [List.append_assoc, List.cons_append]
      rw [h.members_step (next _) before after spelled (others.endsNumeral rest),
        ih (List.cons_ne_nil _ _) others, new_cons_iff, List.forall_mem_cons, List.foldl_cons]
      tauto

/-- No object misses a field. -/
theorem missing?_eq_none (h : r.HasForms forms) (keys : List String) : r.missing? keys = none := by
  refine List.find?_eq_none.2 ?_
  intro field mem
  simp [required_eq_false_of_forall₂ h.fields field mem]

theorem ofObject_eq_ok_iff (h : r.HasForms forms) {s rest : List Char} {final : σ} :
    r.ofObject s = .ok (final, rest) ↔
      ∃ keys, r.members [] r.start s = .ok ((keys, final), rest) := by
  simp only [ofObject_ok_iff, h.missing?_eq_none, and_true]

/-- The members of an object are taken if no key is given twice and the values fit. -/
theorem ofObject_iff (h : r.HasForms forms) {ms : List (String × Value String)}
    {cs rest more : List Char} {final : σ} (spelled : Spells SpellsText (.object ms) ('{' :: cs)) :
    r.ofObject (cs ++ rest) = .ok (final, more) ↔
      (ms.map Prod.fst).Nodup ∧ (∀ m ∈ ms, Fits forms m) ∧
        final = ms.foldl (editBy forms) r.start ∧ more = rest := by
  rw [h.ofObject_eq_ok_iff]
  cases spelled with
  | emptyObject blank =>
    rw [List.append_assoc, List.cons_append, List.nil_append, members_close r blank]
    simp [eq_comm]
  | @object _ ms _ _ first others =>
    cases first with
    | @mk k v a b d ks cs front key before after spelled =>
      have next : ∀ t, nextKey (List.isEmpty ([] : List String))
          (a ++ '"' :: (ks ++ '"' :: t)) = .ok (some k, t) := nextKey_first front key
      -- no key is seen before the first one
      have new := @new_cons_iff (k, v) ms []
      simp only [List.append_assoc, List.cons_append]
      rw [h.members_step (next _) before after spelled (others.endsNumeral rest),
        h.members_iff (List.cons_ne_nil _ _) others, List.forall_mem_cons, List.foldl_cons]
      simp only [List.not_mem_nil, not_false_eq_true, implies_true, and_true, true_and] at new ⊢
      rw [new]
      tauto

/-- What is read as the members of an object spells them. -/
theorem spells_of_members (h : r.HasForms forms) {seen keys : List String}
    {value final : σ} {s rest : List Char}
    (run : r.members seen value s = .ok ((keys, final), rest)) :
    (seen = [] → ∃ ms cs, Spells SpellsText (.object ms) ('{' :: cs) ∧ s = cs ++ rest) ∧
      (seen ≠ [] → ∃ ms cs, SpellsMembers SpellsText ms cs ∧ s = cs ++ rest) :=
  exists_spells_of_members (fun k _ key => ⟨k, key⟩) h.spells_of_member run

theorem spells_of_ofObject (h : r.HasForms forms) {s rest : List Char} {final : σ}
    (run : r.ofObject s = .ok (final, rest)) :
    ∃ ms cs, Spells SpellsText (.object ms) ('{' :: cs) ∧ s = cs ++ rest := by
  obtain ⟨keys, hm⟩ := h.ofObject_eq_ok_iff.1 run
  exact (h.spells_of_members hm).1 rfl

end Record.HasForms

end ShortMessage.Json
