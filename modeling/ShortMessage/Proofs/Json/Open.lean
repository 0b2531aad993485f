import ShortMessage.Proofs.Json.Record
import ShortMessage.Proofs.Json.Skip

/-!
# Records that pass over unknown members

An open record passes over the members whose keys are no names of fields. A text that it takes has
no such key, and then the closed record takes it too; or it has one, and then every closed record
with the same names refuses the text at the first of them, whatever follows.

* `HasKey` says that a text is an object with a given key.
* `Record.strict` is the closed record of an open one.
* `Record.members_keys` says that the keys that are kept while reading are those of the text.
* `Record.members_strict_or` and `Record.readAll_strict_or` compare the two records.
-/

namespace ShortMessage.Json

/-- The text is an object, and some member of it has the key. -/
def HasKey (text : String) (key : String) : Prop :=
  ∃ ms, Outline (.object ms) text ∧ ∃ m ∈ ms, SpellsText key m.1

/-- What is between quotes spells one text only. -/
theorem SpellsText.iff_eq {k : String} {cs : List Char} (h : SpellsText k cs) (l : String) :
    SpellsText l cs ↔ l = k := by
  refine ⟨fun other => ?_, fun same => same ▸ h⟩
  have same := Literal.body_of_spells other []
  rw [Literal.body_of_spells h []] at same
  exact String.toList_injective (Prod.mk.inj (Except.ok.inj same)).1.symm

/-- A key that is read is the one between the quotes. -/
theorem memberKey_of_isRaw {ks s rest : List Char} {key : Option String} (raw : Literal.IsRaw ks)
    (h : memberKey ('"' :: (ks ++ '"' :: s)) = .ok (key, rest)) :
    ∃ k, key = some k ∧ SpellsText k ks ∧ rest = s := by
  obtain ⟨k, ks', rfl, spelled, text⟩ := spells_of_memberKey h
  obtain ⟨rfl, rfl⟩ := Skip.isRaw_unique raw spelled.isRaw (List.cons.inj text).2
  exact ⟨k, rfl, spelled, rfl⟩

/-- No two values start the same text. -/
theorem eq_of_spells {v w : Value (List Char)} {a b cs ds s t : List Char} (ha : Blank a)
    (hb : Blank b) (hv : Spells Verbatim v cs) (hw : Spells Verbatim w ds) (hs : EndsNumeral s)
    (ht : EndsNumeral t) (same : a ++ (cs ++ s) = b ++ (ds ++ t)) : s = t := by
  have h := skip_run_of_spells ha hv hs
  rw [same, skip_run_of_spells hb hw ht] at h
  cases h
  rfl

namespace Record

variable {σ : Type} {r : Record σ} {forms : List (Form σ)} {seen keys : List String} {key : String}
  {value final : σ} {edit : σ → σ} {s t rest more : List Char}

/-- The record that refuses what it passed over. -/
def strict (r : Record σ) : Record σ := { r with closed := true }

theorem find?_eq_none_iff : r.fields.find? (·.name == key) = none ↔ key ∉ r.names := by
  simp [names]

/-! ### Members -/

/-- A known member is read by the closed record as by the open one. -/
theorem member_strict (known : key ∈ r.names) :
    r.strict.member seen key s = r.member seen key s := by
  have found : r.fields.find? (·.name == key) ≠ none := fun none =>
    find?_eq_none_iff.1 none known
  unfold member
  rw [show r.strict.fields = r.fields from rfl]
  split
  · rfl
  · next none => exact absurd none found

/-- An unknown member is refused by a closed record before its colon. -/
theorem member_unknown (closed : r.closed = true) (unknown : key ∉ r.names) (seen : List String)
    (s : List Char) : r.member seen key s = .error (refusedKey (.unknownField key r.names) s) := by
  simp only [member, find?_eq_none_iff.2 unknown, closed, if_true]

theorem refusedKey_cause (cause : Cause) (s : List Char) : (refusedKey cause s).cause = cause := by
  unfold refusedKey
  split <;> rfl

/-- What a member takes is a value after a colon. -/
theorem spells_of_member (h : r.strict.HasForms forms)
    (run : r.member seen key s = .ok (edit, rest)) :
    ∃ b d v cs, Blank b ∧ Blank d ∧ Spells Verbatim v cs ∧
      s = b ++ ':' :: (d ++ (cs ++ rest)) := by
  by_cases known : key ∈ r.names
  · rw [← member_strict known] at run
    obtain ⟨b, d, v, cs, before, after, spelled, rfl⟩ := h.spells_of_member run
    obtain ⟨o, verbatim⟩ := spelled.verbatim
    exact ⟨b, d, o, cs, before, after, verbatim, rfl⟩
  · simp only [member, find?_eq_none_iff.2 known, Reader.afterColon] at run
    split at run
    · cases run
    · split at run
      · next colon =>
        obtain ⟨b, before, rfl⟩ := eq_append_of_passColon colon
        obtain ⟨⟨⟩, skipped, -⟩ := Reader.map_run_eq_ok_iff.1 run
        obtain ⟨d, v, cs, after, spelled, rfl⟩ := spells_of_skip skipped
        exact ⟨b, d, v, cs, before, after, spelled, rfl⟩
      · cases run

/-- A member takes all of its value. -/
theorem eq_of_member (h : r.strict.HasForms forms) {b d cs : List Char} {v : Value (List Char)}
    (before : Blank b) (after : Blank d) (spelled : Spells Verbatim v cs) (stop : EndsNumeral rest)
    (run : r.member seen key (b ++ ':' :: (d ++ (cs ++ rest))) = .ok (edit, more))
    (ends : EndsNumeral more) : more = rest := by
  obtain ⟨b', d', w, ds, before', after', spelled', text⟩ := spells_of_member h run
  have colon := passColon_append before (d ++ (cs ++ rest))
  rw [text, passColon_append before'] at colon
  exact eq_of_spells after' after spelled' spelled ends stop (Except.ok.inj colon)

/-! ### Keys -/

/-- Members that are read stand where a number ends, whatever follows them. -/
theorem endsNumeral_of_members (run : r.members seen value s = .ok ((keys, final), rest))
    (t : List Char) : EndsNumeral (s ++ t) := by
  rcases members_cases run with ⟨hk, -⟩ | ⟨_, _, _, _, hk, -⟩ <;>
    exact endsNumeral_of_nextKey (nextKey_append hk t)

/-- The keys that were seen are kept. -/
theorem subset_of_members (run : r.members seen value s = .ok ((keys, final), rest)) :
    seen ⊆ keys := by
  fun_induction members r seen value s with
  | case2 =>
    cases run
    exact List.Subset.refl _
  | case4 _ _ _ _ _ _ _ _ _ _ _ ih =>
    exact List.Subset.trans (List.subset_cons_self _ _) (ih run)
  | _ => cases run

/-- A member of the text is read with its own key. -/
theorem exists_key_of_members (h : r.strict.HasForms forms) {ks b d cs : List Char}
    {v : Value (List Char)} (raw : Literal.IsRaw ks) (before : Blank b) (after : Blank d)
    (spelled : Spells Verbatim v cs) (stop : EndsNumeral t)
    (next : nextKey seen.isEmpty s =
      memberKey ('"' :: (ks ++ '"' :: (b ++ ':' :: (d ++ (cs ++ t))))))
    (run : r.members seen value s = .ok ((keys, final), rest)) :
    ∃ key value, SpellsText key ks ∧
      r.members (key :: seen) value t = .ok ((keys, final), rest) := by
  rcases members_cases run with ⟨hk, -⟩ | ⟨key, u, edit, more, hk, hm, others⟩
  · rw [next] at hk
    obtain ⟨k, ⟨⟩, -⟩ := memberKey_of_isRaw raw hk
  · rw [next] at hk
    obtain ⟨k, same, text, rfl⟩ := memberKey_of_isRaw raw hk
    obtain rfl := Option.some.inj same
    have ends := endsNumeral_of_members others []
    rw [List.append_nil] at ends
    obtain rfl := eq_of_member h before after spelled stop hm ends
    exact ⟨_, _, text, others⟩

/-- While the members after one are read, the keys of the text are kept. -/
theorem members_keys (h : r.strict.HasForms forms) {ms : List (List Char × Value (List Char))}
    {cs : List Char} (started : seen ≠ []) (spelled : SpellsMembers Verbatim ms cs)
    (run : r.members seen value (cs ++ s) = .ok ((keys, final), rest)) (k : String) :
    k ∈ keys ↔ k ∈ seen ∨ ∃ m ∈ ms, SpellsText k m.1 := by
  induction ms generalizing seen value cs with
  | nil =>
    cases spelled with
    | close blank =>
      rw [List.append_assoc, List.singleton_append, HasForms.members_close r blank] at run
      cases run
      simp
  | cons m ms ih =>
    cases spelled with
    | next comma member others =>
      obtain ⟨front, ⟨raw⟩, before, after, spelled⟩ := member
      simp only [List.append_assoc, List.cons_append] at run
      have next := nextKey_comma_quote comma front
      rw [← List.isEmpty_eq_false_iff.2 started] at next
      obtain ⟨key, edited, text, run⟩ :=
        exists_key_of_members h raw before after spelled (others.endsNumeral s) (next _) run
      rw [ih (List.cons_ne_nil _ _) others run, List.mem_cons, List.exists_mem_cons_iff,
        text.iff_eq k]
      tauto

/-- When an object is read, the keys of the text are kept. -/
theorem object_keys (h : r.strict.HasForms forms) {ms : List (List Char × Value (List Char))}
    {cs : List Char} (spelled : Spells Verbatim (.object ms) ('{' :: cs))
    (run : r.members [] value (cs ++ s) = .ok ((keys, final), rest)) (k : String) :
    k ∈ keys ↔ ∃ m ∈ ms, SpellsText k m.1 := by
  cases spelled with
  | emptyObject blank =>
    rw [List.append_assoc, List.singleton_append, HasForms.members_close r blank] at run
    cases run
    simp
  | object member others =>
    obtain ⟨front, ⟨raw⟩, before, after, spelled⟩ := member
    simp only [List.append_assoc, List.cons_append] at run
    have next : ∀ u, nextKey (List.isEmpty ([] : List String)) (_ ++ '"' :: u) = _ :=
      nextKey_quote front
    obtain ⟨key, edited, text, run⟩ :=
      exists_key_of_members h raw before after spelled (others.endsNumeral s) (next _) run
    rw [members_keys h (List.cons_ne_nil _ _) others run, List.mem_singleton,
      List.exists_mem_cons_iff, text.iff_eq k]

/-! ### The closed record -/

/-- **Unknown members make the difference.** What an open record reads gives known members only, and
the closed record reads it too, or an unknown one. Then a closed record with the same names that
takes what the fields of the open one take refuses the first unknown member, whatever follows. -/
theorem members_strict_or {r' : Record σ} {forms' : List (Form σ)}
    (h : r.strict.HasForms forms) (h' : r'.HasForms forms') (sameNames : r'.names = r.names)
    (wider : ∀ e, Fits forms e → Fits forms' e) (known : ∀ k ∈ seen, k ∈ r.names)
    (run : r.members seen value s = .ok ((keys, final), rest)) :
    (r.strict.members seen value s = .ok ((keys, final), rest) ∧ ∀ k ∈ keys, k ∈ r.names) ∨
      ∃ k ∈ keys, k ∉ r.names ∧ ∀ value t, ∃ e,
        r'.members seen value (s ++ t) = .error e ∧ e.cause = .unknownField k r.names := by
  fun_induction members r seen value s with
  | case2 seen value s rest hk =>
    cases run
    refine .inl ⟨?_, known⟩
    obtain ⟨b, blank, ⟨-, rfl⟩ | ⟨k, ks, ⟨⟩, -⟩⟩ := nextKey_cases hk
    exact HasForms.members_close _ blank _ _ _
  | case4 seen value s key t hk edit more hm _ _ ih =>
    have hk' := nextKey_append hk
    by_cases isKnown : key ∈ r.names
    · have hm' := hm
      rw [← member_strict isKnown] at hm'
      rcases ih (List.forall_mem_cons.2 ⟨isKnown, known⟩) run with
        ⟨closed, all⟩ | ⟨k, mem, unknown, fails⟩
      · exact .inl ⟨by rw [members_of_nextKey seen hk hm' value, closed], all⟩
      · refine .inr ⟨k, mem, unknown, fun value u => ?_⟩
        obtain ⟨b, d, v, cs, before, after, spelled, rfl⟩ := h.spells_of_member hm'
        have stop := endsNumeral_of_members run
        have ends := stop []
        rw [List.append_nil] at ends
        obtain ⟨fresh, fits, -, -⟩ := (h.member_iff before after spelled ends).1 hm'
        have taken :=
          (h'.member_iff before after spelled (stop u)).2 ⟨fresh, wider _ fits, rfl, rfl⟩
        obtain ⟨e, refused, cause⟩ := fails (editBy forms' value (key, v)) u
        have next := hk' u
        simp only [List.append_assoc, List.cons_append] at next
        exact ⟨e, by rw [members_of_nextKey seen next taken value, refused], cause⟩
    · refine .inr ⟨key, subset_of_members run List.mem_cons_self, isKnown, fun value u => ?_⟩
      have refused := member_unknown h'.closed (sameNames ▸ isKnown) seen (t ++ u)
      exact ⟨_, members_error (hk' u) refused value, by rw [refusedKey_cause, sameNames]⟩
  | _ => cases run

theorem elements_strict (fields : List (Field σ)) (index : ℕ) (value : σ) (s : List Char) :
    r.strict.elements fields index value s = r.elements fields index value s := by
  induction fields generalizing index value s with
  | nil => rfl
  | cons field fields ih =>
    simp only [elements, ih]
    rfl

/-! ### Whole texts -/

/-- A text with the outline of an object starts with its brace. -/
theorem skipBlank_of_outline {text : String} {ms : List (List Char × Value (List Char))}
    (h : Outline (.object ms) text) :
    ∃ cs d, Spells Verbatim (.object ms) ('{' :: cs) ∧
      skipBlank text.toList = '{' :: (cs ++ d) := by
  obtain ⟨a, all, d, htext, blank, spelled, -⟩ := h
  obtain ⟨cs, rfl⟩ : ∃ cs, all = '{' :: cs := by cases spelled <;> exact ⟨_, rfl⟩
  exact ⟨cs, d, spelled, by rw [htext, List.cons_append, skipBlank_append_cons blank rfl]⟩

/-- The keys that are kept are those of the object. -/
theorem hasKey_iff (h : r.strict.HasForms forms) {text : String} {b : List Char} (blank : Blank b)
    (htext : text.toList = b ++ '{' :: s) (after : Blank rest)
    (run : r.members [] value s = .ok ((keys, final), rest)) (k : String) :
    HasKey text k ↔ k ∈ keys := by
  constructor
  · rintro ⟨ms, outline, hk⟩
    obtain ⟨cs, d, spelled, front⟩ := skipBlank_of_outline outline
    rw [htext, skipBlank_append_cons blank rfl] at front
    rw [(List.cons.inj front).2] at run
    exact (object_keys h spelled run k).2 hk
  · intro hk
    have verbatim : ∀ l ks, SpellsText l ks → ∃ t, Verbatim t ks := fun _ ks key =>
      ⟨ks, .mk key.isRaw⟩
    obtain ⟨ms, cs, spelled, rfl⟩ :=
      (exists_spells_of_members verbatim (spells_of_member h) run).1 rfl
    exact ⟨ms, ⟨b, '{' :: cs, rest, htext, blank, spelled, after⟩,
      (object_keys h spelled run k).1 hk⟩

/-- An array has no keys. -/
theorem not_hasKey {text : String} {b : List Char} (blank : Blank b)
    (htext : text.toList = b ++ '[' :: s) (k : String) : ¬ HasKey text k := by
  rintro ⟨ms, outline, -⟩
  obtain ⟨cs, d, -, front⟩ := skipBlank_of_outline outline
  rw [htext, skipBlank_append_cons blank rfl] at front
  cases front

section

variable {r' : Record σ} {forms' : List (Form σ)} {text : String} {a : σ}

theorem ofObject_strict_or (h : r.strict.HasForms forms) (h' : r'.HasForms forms')
    (sameNames : r'.names = r.names) (wider : ∀ e, Fits forms e → Fits forms' e) {b : List Char}
    (blank : Blank b) (htext : text.toList = b ++ '{' :: s) (after : Blank rest)
    (run : r.ofObject s = .ok (a, rest)) :
    (r.strict.ofObject s = .ok (a, rest) ∧ ∀ k, HasKey text k → k ∈ r.names) ∨
      ∃ k, HasKey text k ∧ k ∉ r.names ∧ ∀ t, ∃ e,
        r'.ofObject (s ++ t) = .error e ∧ e.cause = .unknownField k r.names := by
  obtain ⟨keys, hm, complete⟩ := ofObject_ok_iff.1 run
  have key := hasKey_iff h blank htext after hm
  rcases members_strict_or h h' sameNames wider (List.forall_mem_nil _) hm with
    ⟨closed, known⟩ | ⟨k, mem, unknown, fails⟩
  · exact .inl ⟨ofObject_ok_iff.2 ⟨keys, closed, complete⟩, fun k hk => known k ((key k).1 hk)⟩
  · refine .inr ⟨k, (key k).2 mem, unknown, fun t => ?_⟩
    obtain ⟨e, refused, cause⟩ := fails r'.start t
    exact ⟨e, by simp only [ofObject, refused], cause⟩

/-- **A text that an open record takes is one of the closed record, or has an unknown key.** In the
second case it is refused by every closed record with the same names that takes what the fields of
the open one take, whatever follows. -/
theorem readAll_strict_or (h : r.strict.HasForms forms) (h' : r'.HasForms forms')
    (sameNames : r'.names = r.names) (wider : ∀ e, Fits forms e → Fits forms' e)
    (read : r.reader.readAll text = .ok a) :
    (r.strict.reader.readAll text = .ok a ∧ ∀ k, HasKey text k → k ∈ r.names) ∨
      ∃ k, HasKey text k ∧ k ∉ r.names ∧ ∀ t, ∃ e,
        r'.reader.run (text.toList ++ t) = .error e ∧ e.cause = .unknownField k r.names := by
  obtain ⟨rest, run, after⟩ := Reader.readAll_iff.1 read
  change r.read text.toList = .ok (a, rest) at run
  rw [Reader.readAll_iff]
  show (∃ rest, r.strict.read text.toList = .ok (a, rest) ∧ Blank rest) ∧ _ ∨
    ∃ k, _ ∧ _ ∧ ∀ t, ∃ e, r'.read (text.toList ++ t) = .error e ∧ _
  rcases exists_bracket_of_read run with ⟨b, s, blank, htext⟩ | ⟨b, s, blank, htext⟩
  · simp only [htext, List.append_assoc, List.cons_append, read_brace _ blank] at run ⊢
    rcases ofObject_strict_or h h' sameNames wider blank htext after run with
      ⟨closed, known⟩ | unknown
    · exact .inl ⟨⟨rest, closed, after⟩, known⟩
    · exact .inr unknown
  · rw [htext, read_bracket r blank] at run
    refine .inl ⟨⟨rest, ?_, after⟩, fun k hk => absurd hk (not_hasKey blank htext k)⟩
    rw [htext, read_bracket _ blank, elements_strict]
    exact run

end

end Record

end ShortMessage.Json
