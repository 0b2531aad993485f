import ShortMessage.Proofs.Json.Object
import ShortMessage.Proofs.Json.Outline

/-!
# What is passed over is one value

A value that nobody asked for is passed over with a list of the brackets that are open. All that is
passed over is one value with blank space in front, and every value is passed over, whatever follows
it that ends a number.

* `Skip.string_of_isRaw` and `Skip.isRaw_of_string` say so of strings.
* `Skip.resume` goes on after a value, where brackets may be open. `Skip.run_of_spells` says that a
  value is passed over up to there.
* `Skip.Closes` are the texts that close the brackets that are open. `Skip.spells_of_run` says that
  what is passed over is a value and such a text.
* `skip_run_of_spells` and `spells_of_skip` are the two directions for one value.
-/

namespace ShortMessage.Json

/-- What spells a number after its sign spells it with either sign. -/
theorem Numeral.SpellsUnsigned.withSign {n : Numeral} {cs : List Char} (h : n.SpellsUnsigned cs)
    (negative : Bool) : SpellsUnsigned { n with negative } cs := by
  obtain ⟨whole, fraction, power⟩ := h
  exact .mk whole fraction power

/-- The character that opens a bracket. -/
def Bracket.opening : Bracket → Char
  | .array => '['
  | .object => '{'

namespace Skip

open Literal (SpellsUnit IsRaw letterEscape?)

/-! ### Strings -/

theorem escape_of_letter {c e : Char} (h : letterEscape? e = some c) (rest : List Char) :
    escape (e :: rest) = .ok rest := by
  have noUnit : e ≠ 'u' := by
    rintro rfl
    cases h
  simp [escape, noUnit, h]

theorem escape_of_unit {n : ℕ} {u : List Char} (code : SpellsUnit n u) (rest : List Char) :
    escape ('u' :: (u ++ rest)) = .ok rest := by
  simp [escape, Literal.hexUnit_of_spells code]

theorem escape_cases {s rest : List Char} (h : escape s = .ok rest) :
    (∃ c e, letterEscape? e = some c ∧ s = e :: rest) ∨
      ∃ n u, SpellsUnit n u ∧ s = 'u' :: (u ++ rest) := by
  unfold escape at h
  split at h
  · cases h
  · split at h
    · next isUnit =>
      split at h
      · next hu =>
        cases h
        obtain ⟨u, rfl, code⟩ := Literal.spells_of_hexUnit hu
        exact .inr ⟨_, u, code, by rw [isUnit]⟩
      · cases h
    · split at h
      · next isLetter =>
        cases h
        obtain ⟨c, letter⟩ := Option.isSome_iff_exists.1 isLetter
        exact .inl ⟨c, _, letter, rfl⟩
      · cases h

theorem string_quote (s : List Char) : string ('"' :: s) = .ok s := by
  rw [string]
  rfl

theorem string_plain {c : Char} (quote : c ≠ '"') (backslash : c ≠ '\\') (control : 0x20 ≤ c.toNat)
    (s : List Char) : string (c :: s) = string s := by
  rw [string]
  simp [quote, backslash, Nat.not_lt.2 control]

theorem string_escape {s rest : List Char} (h : escape s = .ok rest) :
    string ('\\' :: s) = string rest := by
  rw [string]
  simp only [reduceIte, Char.reduceEq]
  split
  · next he => rw [h] at he; cases he
  · next he => rw [h] at he; cases he; rfl

/-- What may stand between quotes is passed over, with the closing quote. -/
theorem string_of_isRaw {cs : List Char} (h : IsRaw cs) (rest : List Char) :
    string (cs ++ '"' :: rest) = .ok rest := by
  induction h with
  | nil => exact string_quote rest
  | plain quote backslash control _ ih =>
    rw [List.cons_append, string_plain quote backslash control, ih]
  | letter escape _ ih =>
    rw [List.cons_append, List.cons_append, string_escape (escape_of_letter escape _), ih]
  | unit code _ ih =>
    rw [List.cons_append, List.cons_append, List.append_assoc,
      string_escape (escape_of_unit code _), ih]

theorem isRaw_of_string {s rest : List Char} (h : string s = .ok rest) :
    ∃ cs, IsRaw cs ∧ s = cs ++ '"' :: rest := by
  fun_induction string s with
  | case2 =>
    cases h
    exact ⟨[], .nil, rfl⟩
  | case4 s more escaped _ _ ih =>
    obtain ⟨cs, raw, rfl⟩ := ih h
    rcases escape_cases escaped with ⟨c, e, letter, rfl⟩ | ⟨n, u, code, rfl⟩
    · exact ⟨_, .letter letter raw, rfl⟩
    · exact ⟨_, .unit code raw, by simp⟩
  | case6 c s quote backslash control ih =>
    obtain ⟨cs, raw, rfl⟩ := ih h
    exact ⟨_, .plain quote backslash (Nat.le_of_not_lt control) raw, rfl⟩
  | _ => cases h

/-- No two strings start the same text. -/
theorem isRaw_unique {cs ds s t : List Char} (hc : IsRaw cs) (hd : IsRaw ds)
    (same : cs ++ '"' :: s = ds ++ '"' :: t) : cs = ds ∧ s = t := by
  have rest : s = t := by
    have h := string_of_isRaw hc s
    rw [same, string_of_isRaw hd t] at h
    exact (Except.ok.inj h).symm
  exact ⟨by simpa [rest] using same, rest⟩

/-! ### Scalars -/

/-- The sign of a number is passed over before it. -/
theorem number_of_spells {n : Numeral} {cs rest : List Char} (h : n.SpellsUnsigned cs)
    (stop : EndsNumeral rest) : number (cs ++ rest) = .ok rest := by
  rw [number, Numeral.scan_of_spells (h.withSign false) stop .invalidNumber]

theorem spells_of_number {s rest : List Char} (h : number s = .ok rest) :
    ∃ (n : Numeral) (cs : List Char), n.negative = false ∧ n.SpellsUnsigned cs ∧
      s = cs ++ rest := by
  unfold number at h
  split at h
  · next hs =>
    cases h
    obtain ⟨sign, cs, rfl, spelled⟩ := Numeral.spells_of_scan hs
    exact ⟨_, cs, sign, spelled, rfl⟩
  · cases h

/-! ### Going on after a value -/

/-- Passes over the values that are left inside the brackets that are open, where a value stands
next if a bracket is. -/
def proceed : Result (List Bracket) → Except Failure (List Char)
  | .error e => .error e
  | .ok ([], rest) => .ok rest
  | .ok (b :: outer, rest) => run (b :: outer) rest

/-- What is passed over after a value. -/
def resume (outer : List Bracket) (s : List Char) : Except Failure (List Char) :=
  proceed (close outer s)

section

variable {b : Bracket} {outer : List Bracket} {a s rest : List Char}

theorem run_eq_proceed (outer : List Bracket) (s : List Char) :
    run outer s = proceed (item outer s) := by
  rw [run]
  split <;> next h => simp only [h, proceed]

theorem run_scalar (h : head s = .ok (none, rest)) : run outer s = resume outer rest := by
  rw [run_eq_proceed, item, h, resume]

theorem head_opening (b : Bracket) (blank : Blank a) (s : List Char) :
    head (a ++ b.opening :: s) = .ok (some b, s) := by
  cases b <;> rw [Bracket.opening, head, skipBlank_append_cons blank rfl] <;> rfl

theorem isBlank_closing (b : Bracket) : isBlank b.closing = false := by
  cases b <;> rfl

theorem closing_ne_comma (b : Bracket) : b.closing ≠ ',' := by
  cases b <;> decide

theorem resume_nil (s : List Char) : resume [] s = .ok s := rfl

theorem resume_closing (blank : Blank a) :
    resume (b :: outer) (a ++ b.closing :: rest) = resume outer rest := by
  rw [resume, close, skipBlank_append_cons blank (isBlank_closing b)]
  simp only [closing_ne_comma, if_false, if_true, resume]

theorem resume_comma (b : Bracket) (outer : List Bracket) (blank : Blank a)
    (led : lead b s = .ok rest) :
    resume (b :: outer) (a ++ ',' :: s) = run (b :: outer) rest := by
  rw [resume, close, skipBlank_append_cons blank rfl]
  simp only [if_true, led, proceed]

/-- Empty brackets are passed over as a value. -/
theorem run_empty (b : Bracket) (outer : List Bracket) {d : List Char} (blank : Blank a)
    (inner : Blank d) (s : List Char) :
    run outer (a ++ b.opening :: (d ++ b.closing :: s)) = resume outer s := by
  rw [run_eq_proceed, item, head_opening b blank]
  simp only [enter, skipBlank_append_cons inner (isBlank_closing b), if_true, resume]

/-- Of brackets that are not empty, what leads to the first value is passed over. -/
theorem run_filled (b : Bracket) (outer : List Bracket) {c : Char} {d : List Char}
    (blank : Blank a) (inner : Blank d) (notBlank : isBlank c = false) (notClosing : c ≠ b.closing)
    (led : lead b (c :: s) = .ok rest) :
    run outer (a ++ b.opening :: (d ++ c :: s)) = run (b :: outer) rest := by
  rw [run_eq_proceed, item, head_opening b blank]
  simp only [enter, skipBlank_append_cons inner notBlank, if_neg notClosing, led, proceed]

end

/-! ### Values are passed over -/

theorem key_of_spells {a b ks : List Char} (front : Blank a) (raw : IsRaw ks) (before : Blank b)
    (s : List Char) : key (a ++ '"' :: (ks ++ '"' :: (b ++ ':' :: s))) = .ok s := by
  rw [key, skipBlank_append_cons front rfl]
  simp only [string_of_isRaw raw, passColon_append before]

theorem head_string {a cs : List Char} (blank : Blank a) (raw : IsRaw cs) (rest : List Char) :
    head (a ++ ('"' :: (cs ++ ['"']) ++ rest)) = .ok (none, rest) := by
  rw [head, List.cons_append, skipBlank_append_cons blank rfl, List.append_assoc]
  simp [string_of_isRaw raw, Except.map]

theorem head_number {n : Numeral} {a cs rest : List Char} (blank : Blank a) (h : n.Spells cs)
    (stop : EndsNumeral rest) : head (a ++ (cs ++ rest)) = .ok (none, rest) := by
  cases h with
  | positive _ unsigned =>
    have taken := number_of_spells unsigned stop
    obtain ⟨d, t, rfl, digit⟩ := unsigned.exists_cons
    have other : ∀ {c : Char}, c.isDigit = false → d ≠ c := ne_of_isDigit digit
    rw [head, List.cons_append, skipBlank_append_cons blank (isBlank_of_isDigit digit)]
    rw [List.cons_append] at taken
    simp [other, digit, taken, Except.map]
  | negative _ unsigned =>
    rw [head, List.cons_append, skipBlank_append_cons blank rfl]
    simp [number_of_spells unsigned stop, Except.map]

-- The four lemmas follow the spelling of a value. A bracket that it opens is closed again before it
-- ends, so what is left then is what is left of the brackets that were open before it.
mutual

/-- A value is passed over, and then what is left of the brackets that are open. -/
theorem run_of_spells (outer : List Bracket) {v : Value (List Char)} {cs a rest : List Char}
    (blank : Blank a) (stop : EndsNumeral rest) :
    Spells Verbatim v cs → run outer (a ++ (cs ++ rest)) = resume outer rest
  | .null | .isTrue | .isFalse => by
    refine run_scalar ?_
    rw [head, List.cons_append, skipBlank_append_cons blank rfl]
    rfl
  | .number numeral => run_scalar (head_number blank numeral stop)
  | .string (.mk raw) => run_scalar (head_string blank raw rest)
  | .emptyArray inner => by
    rw [List.cons_append, List.append_assoc]
    exact run_empty .array outer blank inner rest
  | @Spells.array _ _ _ _ _ cs more inner first others => by
    have value := run_of_spells (.array :: outer) Blank.nil (others.endsNumeral rest) first
    have closed := resume_of_spellsRest outer rest others
    obtain ⟨c, t, hcs, notBlank, notClosing, -⟩ := first.exists_cons
    rw [hcs] at value ⊢
    simp only [List.cons_append, List.append_assoc]
    calc
      _ = run (.array :: outer) _ := run_filled .array outer blank inner notBlank notClosing rfl
      _ = resume (.array :: outer) (more ++ rest) := value
      _ = resume outer rest := closed
  | .emptyObject inner => by
    rw [List.cons_append, List.append_assoc]
    exact run_empty .object outer blank inner rest
  | @Spells.object _ _ _ _ _ more first others => by
    obtain ⟨d, u, t, inner, text, led, passed⟩ :=
      run_of_spellsMember (others.endsNumeral rest) first
    have closed := resume_of_spellsMembers outer rest others
    have key : lead .object ('"' :: u) = .ok t := led [] Blank.nil
    rw [List.cons_append, List.append_assoc, text]
    calc
      _ = run (.object :: outer) t := run_filled .object outer blank inner rfl (by decide) key
      _ = resume (.object :: outer) (more ++ rest) := passed _
      _ = resume outer rest := closed

/-- Elements are passed over up to the bracket that closes them. -/
theorem resume_of_spellsRest (outer : List Bracket) {vs : List (Value (List Char))}
    {cs : List Char} (rest : List Char) :
    SpellsRest Verbatim vs cs → resume (.array :: outer) (cs ++ rest) = resume outer rest
  | .close blank => by
    rw [List.append_assoc, List.singleton_append]
    exact resume_closing blank
  | @SpellsRest.next _ _ _ _ _ _ _ more before after value others => by
    have passed := run_of_spells (.array :: outer) after (others.endsNumeral rest) value
    have closed := resume_of_spellsRest outer rest others
    simp only [List.append_assoc, List.cons_append]
    calc
      _ = run (.array :: outer) _ := resume_comma .array outer before rfl
      _ = resume (.array :: outer) (more ++ rest) := passed
      _ = resume outer rest := closed

/-- A key is passed over with its colon, and then its value. -/
theorem run_of_spellsMember {m : List Char × Value (List Char)} {cs rest : List Char}
    (stop : EndsNumeral rest) :
    SpellsMember Verbatim m cs →
      ∃ d u t, Blank d ∧ cs ++ rest = d ++ '"' :: u ∧
        (∀ a, Blank a → key (a ++ '"' :: u) = .ok t) ∧
        ∀ outer, run outer t = resume outer rest
  | .mk front (.mk raw) before after value => by
    refine ⟨_, _, _, front, ?_, fun a blank => key_of_spells blank raw before _,
      fun outer => run_of_spells outer after stop value⟩
    simp only [List.append_assoc, List.cons_append]

/-- Members are passed over up to the brace that closes them. -/
theorem resume_of_spellsMembers (outer : List Bracket)
    {ms : List (List Char × Value (List Char))} {cs : List Char} (rest : List Char) :
    SpellsMembers Verbatim ms cs → resume (.object :: outer) (cs ++ rest) = resume outer rest
  | .close blank => by
    rw [List.append_assoc, List.singleton_append]
    exact resume_closing blank
  | @SpellsMembers.next _ _ _ _ _ _ more blank member others => by
    obtain ⟨d, u, t, inner, text, led, passed⟩ :=
      run_of_spellsMember (others.endsNumeral rest) member
    have closed := resume_of_spellsMembers outer rest others
    simp only [List.append_assoc, List.cons_append, text]
    calc
      _ = run (.object :: outer) t := resume_comma .object outer blank (led d inner)
      _ = resume (.object :: outer) (more ++ rest) := passed _
      _ = resume outer rest := closed

end

/-! ### Only values are passed over -/

theorem spells_of_key {s rest : List Char} (h : key s = .ok rest) :
    ∃ a ks b, Blank a ∧ IsRaw ks ∧ Blank b ∧ s = a ++ '"' :: (ks ++ '"' :: (b ++ ':' :: rest)) := by
  unfold key at h
  split at h
  · next t hs =>
    obtain ⟨a, front, rfl⟩ := exists_blank_of_skipBlank hs
    split at h
    · cases h
    · next hstring =>
      obtain ⟨ks, raw, rfl⟩ := isRaw_of_string hstring
      obtain ⟨b, before, rfl⟩ := eq_append_of_passColon h
      exact ⟨a, ks, b, front, raw, before, rfl⟩
  · cases h

theorem eq_ok_of_map {r : Except Failure (List Char)} {b : Option Bracket} {rest : List Char}
    (h : r.map (none, ·) = .ok (b, rest)) : b = none ∧ r = .ok rest := by
  cases r with
  | error e => cases h
  | ok more =>
    cases h
    exact ⟨rfl, rfl⟩

/-- What stands in front of a text that has a head is a scalar or the bracket. -/
theorem head_cases {s rest : List Char} {b : Option Bracket} (h : head s = .ok (b, rest)) :
    ∃ a, Blank a ∧ ((b = none ∧ ∃ v cs, Spells Verbatim v cs ∧ s = a ++ (cs ++ rest)) ∨
      ∃ bracket, b = some bracket ∧ s = a ++ bracket.opening :: rest) := by
  unfold head at h
  dsimp only at h
  split at h
  · cases h
  · next c t hs =>
    obtain ⟨a, blank, rfl⟩ := exists_blank_of_skipBlank hs
    refine ⟨a, blank, ?_⟩
    split at h
    · next hc =>
      obtain ⟨rfl, hw⟩ := eq_ok_of_map h
      exact .inl ⟨rfl, _, _, .null, by simp [hc, eq_append_of_word hw]⟩
    split at h
    · next hc =>
      obtain ⟨rfl, hw⟩ := eq_ok_of_map h
      exact .inl ⟨rfl, _, _, .isTrue, by simp [hc, eq_append_of_word hw]⟩
    split at h
    · next hc =>
      obtain ⟨rfl, hw⟩ := eq_ok_of_map h
      exact .inl ⟨rfl, _, _, .isFalse, by simp [hc, eq_append_of_word hw]⟩
    split at h
    · next hc =>
      obtain ⟨rfl, hstring⟩ := eq_ok_of_map h
      obtain ⟨cs, raw, rfl⟩ := isRaw_of_string hstring
      exact .inl ⟨rfl, _, _, .string (.mk raw), by simp [hc]⟩
    split at h
    · next hc =>
      cases h
      exact .inr ⟨.array, rfl, by rw [hc, Bracket.opening]⟩
    split at h
    · next hc =>
      cases h
      exact .inr ⟨.object, rfl, by rw [hc, Bracket.opening]⟩
    split at h
    · next hc =>
      obtain ⟨rfl, hnumber⟩ := eq_ok_of_map h
      obtain ⟨n, cs, -, unsigned, rfl⟩ := spells_of_number hnumber
      have spelled := Numeral.Spells.negative (n := { n with negative := true }) rfl
        (unsigned.withSign true)
      exact .inl ⟨rfl, _, _, .number spelled, by simp [hc]⟩
    split at h
    · obtain ⟨rfl, hnumber⟩ := eq_ok_of_map h
      obtain ⟨n, cs, sign, unsigned, text⟩ := spells_of_number hnumber
      exact .inl ⟨rfl, _, cs, .number (.positive sign unsigned), by rw [text]⟩
    · cases h

/-- The texts that close all brackets that are open, after a value. -/
inductive Closes : List Bracket → List Char → Prop
  | nil : Closes [] []
  | array {outer vs cs more} (others : SpellsRest Verbatim vs cs) (closes : Closes outer more) :
      Closes (.array :: outer) (cs ++ more)
  | object {outer ms cs more} (others : SpellsMembers Verbatim ms cs)
      (closes : Closes outer more) : Closes (.object :: outer) (cs ++ more)

/-- What is left to be passed over: nothing if no bracket is open, and else a value and what closes
the brackets. -/
def Awaits (rest : List Char) : List Bracket → List Char → Prop
  | [], s => s = rest
  | b :: outer, s => ∃ a v cs more, Blank a ∧ Spells Verbatim v cs ∧ Closes (b :: outer) more ∧
      s = a ++ (cs ++ (more ++ rest))

section

variable {b : Bracket} {outer inner : List Bracket} {a s t rest : List Char}

theorem Closes.closing (blank : Blank a) (h : Closes outer t) :
    Closes (b :: outer) (a ++ b.closing :: t) := by
  have text : a ++ b.closing :: t = (a ++ [b.closing]) ++ t := by simp
  rw [text]
  cases b with
  | array => exact .array (.close blank) h
  | object => exact .object (.close blank) h

/-- A comma and what leads to a value that is awaited go on with what closes the brackets. -/
theorem Closes.comma (blank : Blank a) (led : lead b s = .ok t)
    (h : Awaits rest (b :: outer) t) :
    ∃ more, Closes (b :: outer) more ∧ a ++ ',' :: s = more ++ rest := by
  obtain ⟨f, v, cs, more, front, spelled, closes, rfl⟩ := h
  cases closes with
  | array others closes =>
    obtain rfl := Except.ok.inj led
    exact ⟨_, .array (.next blank front spelled others) closes, by simp⟩
  | object others closes =>
    obtain ⟨d, ks, e, inner, raw, before, rfl⟩ := spells_of_key led
    exact ⟨_, .object (.next blank (.mk inner (.mk raw) before front spelled) others) closes,
      by simp⟩

/-- What is closed after a value closes the brackets that were open, together with what is awaited
then. -/
theorem closes_of_close (h : close outer s = .ok (inner, t)) (awaits : Awaits rest inner t) :
    ∃ more, Closes outer more ∧ s = more ++ rest := by
  induction outer generalizing s with
  | nil =>
    cases h
    cases awaits
    exact ⟨[], .nil, rfl⟩
  | cons b outer ih =>
    unfold close at h
    split at h
    · next c u hs =>
      obtain ⟨a, blank, rfl⟩ := exists_blank_of_skipBlank hs
      split at h
      · next hc =>
        subst hc
        split at h
        · next led =>
          cases h
          exact Closes.comma blank led awaits
        · cases h
      · split at h
        · next hc =>
          subst hc
          obtain ⟨more, closes, rfl⟩ := ih h
          exact ⟨_, closes.closing blank, by simp⟩
        · cases h
    · cases h

/-- What is entered is a value without its opening bracket, and then closes the brackets that were
open before it. -/
theorem spells_of_enter (h : enter b outer s = .ok (inner, t)) (awaits : Awaits rest inner t) :
    ∃ v cs more, Spells Verbatim v (b.opening :: cs) ∧ Closes outer more ∧
      s = cs ++ (more ++ rest) := by
  unfold enter at h
  split at h
  · next c u hs =>
    obtain ⟨a, blank, rfl⟩ := exists_blank_of_skipBlank hs
    split at h
    · next hc =>
      subst hc
      obtain ⟨more, closes, rfl⟩ := closes_of_close h awaits
      cases b with
      | array => exact ⟨_, _, more, .emptyArray blank, closes, by simp [Bracket.closing]⟩
      | object => exact ⟨_, _, more, .emptyObject blank, closes, by simp [Bracket.closing]⟩
    · split at h
      · next led =>
        cases h
        obtain ⟨f, v, cs, more, front, spelled, closes, rfl⟩ := awaits
        cases closes with
        | array others closes =>
          have text := Except.ok.inj led
          exact ⟨_, _, _, .array (blank.append front) spelled others, closes, by simp [text]⟩
        | object others closes =>
          obtain ⟨d, ks, e, inner, raw, before, text⟩ := spells_of_key led
          have member := SpellsMember.mk (blank.append inner) (.mk raw) before front spelled
          exact ⟨_, _, _, .object member others, closes, by simp [text]⟩
      · cases h
  · cases h

/-- A scalar or an opening bracket goes together with what is awaited after it. -/
theorem spells_of_item (h : item outer s = .ok (inner, t)) (awaits : Awaits rest inner t) :
    ∃ a v cs more, Blank a ∧ Spells Verbatim v cs ∧ Closes outer more ∧
      s = a ++ (cs ++ (more ++ rest)) := by
  unfold item at h
  split at h
  · cases h
  · next hh =>
    obtain ⟨a, blank, ⟨-, v, cs, spelled, rfl⟩ | ⟨b, ⟨⟩, -⟩⟩ := head_cases hh
    obtain ⟨more, closes, rfl⟩ := closes_of_close h awaits
    exact ⟨a, v, cs, more, blank, spelled, closes, rfl⟩
  · next hh =>
    obtain ⟨a, blank, ⟨⟨⟩, -⟩ | ⟨b, same, rfl⟩⟩ := head_cases hh
    obtain rfl := Option.some.inj same
    obtain ⟨v, cs, more, spelled, closes, rfl⟩ := spells_of_enter h awaits
    exact ⟨a, v, _, more, blank, spelled, closes, rfl⟩

/-- What is passed over is a value, and then what closes the brackets that are open. -/
theorem spells_of_run (h : run outer s = .ok rest) :
    ∃ a v cs more, Blank a ∧ Spells Verbatim v cs ∧ Closes outer more ∧
      s = a ++ (cs ++ (more ++ rest)) := by
  -- each round takes an item, and the rounds after it take what the item awaits
  fun_induction run outer s with
  | case1 => cases h
  | case2 outer s t hitem =>
    cases h
    exact spells_of_item hitem rfl
  | case3 outer s b more t hitem _ ih => exact spells_of_item hitem (ih h)

end

end Skip

/-- **Every value is passed over.** Blank space may stand in front of it, and what follows it has to
end a number. -/
theorem skip_run_of_spells {v : Value (List Char)} {a cs rest : List Char} (blank : Blank a)
    (spelled : Spells Verbatim v cs) (stop : EndsNumeral rest) :
    skip.run (a ++ (cs ++ rest)) = .ok ((), rest) := by
  simp only [skip, Skip.run_of_spells [] blank stop spelled, Skip.resume_nil]

/-- **Only a value is passed over.** -/
theorem spells_of_skip {s rest : List Char} (h : skip.run s = .ok ((), rest)) :
    ∃ a v cs, Blank a ∧ Spells Verbatim v cs ∧ s = a ++ (cs ++ rest) := by
  simp only [skip] at h
  split at h
  · next hrun =>
    cases h
    obtain ⟨a, v, cs, more, blank, spelled, closes, rfl⟩ := Skip.spells_of_run hrun
    cases closes
    exact ⟨a, v, cs, blank, spelled, rfl⟩
  · cases h

end ShortMessage.Json
