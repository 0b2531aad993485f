import ShortMessage.Proofs.Text.Hexadecimal
import ShortMessage.Text.Quoted

/-!
# What quotes show

Between quotes most characters stand for themselves, and the others have a form with a backslash. The
forms are read one after another, so a quoted text tells which text it shows, whatever that is.

* `Shows` is how one character stands between marks, and `shows_shown` says that it is written so.
* `readShown` takes one character off the front again, hence `Shows.unique`.
* `Quotes` is how a text stands between marks, and `Quotes.unique` that it is no other text.
-/

namespace ShortMessage.Text

/-- How a character stands between marks. Four controls have a letter, the backslash and the mark
have a backslash in front, every other hidden character is given by its code point, and all others
stand as they are. -/
inductive Shows (mark : Char) : Char → List Char → Prop
  | nul : Shows mark '\x00' ['\\', '0']
  | tab : Shows mark '\t' ['\\', 't']
  | carriage : Shows mark '\r' ['\\', 'r']
  | feed : Shows mark '\n' ['\\', 'n']
  | special {c : Char} (special : c = '\\' ∨ c = mark) : Shows mark c ['\\', c]
  | code {c : Char} {ds : List Char} (hidden : isHidden c = true)
      (letterless : c ∉ ['\x00', '\t', '\r', '\n']) (digits : IsHex smallDigits 1 c.toNat ds) :
      Shows mark c ('\\' :: 'u' :: '\x7b' :: (ds ++ ['\x7d']))
  | plain {c : Char} (visible : isHidden c = false) (ordinary : c ≠ '\\' ∧ c ≠ mark) :
      Shows mark c [c]

theorem shows_shown (mark c : Char) : Shows mark c (shown mark c) := by
  unfold shown
  split_ifs with nul tab carriage feed special hidden
  · rw [nul]; exact .nul
  · rw [tab]; exact .tab
  · rw [carriage]; exact .carriage
  · rw [feed]; exact .feed
  · exact .special special
  · have letterless : c ∉ ['\x00', '\t', '\r', '\n'] := by simp [nul, tab, carriage, feed]
    exact .code hidden letterless (isHex_hex Nat.one_pos _)
  · exact .plain (Bool.eq_false_iff.2 hidden) (not_or.1 special)

/-! ### Reading back -/

/-- Takes one character off the front of what stands between marks. -/
def readShown : List Char → Option (Char × List Char)
  | '\\' :: '0' :: rest => some ('\x00', rest)
  | '\\' :: 't' :: rest => some ('\t', rest)
  | '\\' :: 'r' :: rest => some ('\r', rest)
  | '\\' :: 'n' :: rest => some ('\n', rest)
  | '\\' :: 'u' :: '\x7b' :: rest =>
    some (Char.ofNat (hexValue smallDigits (rest.takeWhile (· != '\x7d'))),
      (rest.dropWhile (· != '\x7d')).tail)
  | '\\' :: c :: rest => some (c, rest)
  | c :: rest => some (c, rest)
  | [] => none

section

variable {mark c d : Char} {form form' rest rest' : List Char}
  (quote : mark = '"' ∨ mark = '\'')
include quote

/-- What shows a character is read as this character, whatever follows. -/
theorem readShown_of_shows (h : Shows mark c form) (rest : List Char) :
    readShown (form ++ rest) = some (c, rest) := by
  cases h with
  | nul | tab | carriage | feed => rfl
  | special special =>
    rcases special with rfl | rfl
    · rfl
    · rcases quote with rfl | rfl <;> rfl
  | @code _ ds hidden letterless digits =>
    -- the closing brace is no digit
    have inside : ∀ d ∈ ds, (d != '\x7d') = true := by
      intro d hd
      have none : (smallDigits.all fun d => d != '\x7d') = true := by decide
      exact List.all_eq_true.1 none d (digits.known d hd)
    have taken : (ds ++ '\x7d' :: rest).takeWhile (· != '\x7d') = ds := by
      rw [List.takeWhile_append_of_pos inside]
      simp
    have left : (ds ++ '\x7d' :: rest).dropWhile (· != '\x7d') = '\x7d' :: rest := by
      rw [List.dropWhile_append_of_pos inside]
      simp
    show readShown ('\\' :: 'u' :: '\x7b' :: ((ds ++ ['\x7d']) ++ rest)) = some (c, rest)
    rw [List.append_assoc, readShown, List.singleton_append, taken, left, digits.value,
      Char.ofNat_toNat, List.tail_cons]
  | plain visible ordinary =>
    have notBackslash := ordinary.1
    unfold readShown
    split <;> simp_all

/-- What shows a character shows no other, wherever it ends. -/
theorem Shows.unique (h : Shows mark c form) (h' : Shows mark d form')
    (same : form ++ rest = form' ++ rest') : c = d ∧ rest = rest' := by
  have read := readShown_of_shows quote h rest
  rw [same, readShown_of_shows quote h' rest', Option.some.injEq, Prod.mk.injEq] at read
  exact ⟨read.1.symm, read.2.symm⟩

/-- No form starts with the mark that stands behind the text. -/
theorem Shows.append_ne (h : Shows mark c form) : form ++ rest ≠ mark :: rest' := by
  have backslash : ∀ {t}, '\\' :: t ≠ mark :: rest' := by
    rcases quote with rfl | rfl <;> simp
  cases h with
  | nul | tab | carriage | feed | special | code => exact backslash
  | plain visible ordinary =>
    intro same
    exact ordinary.2 (List.cons.inj same).1

end

/-! ### Whole texts -/

/-- How a text stands between marks: each character in its form, one after another. -/
def Quotes (mark : Char) (cs quoted : List Char) : Prop :=
  ∃ forms, List.Forall₂ (Shows mark) cs forms ∧ quoted = mark :: (forms.flatten ++ [mark])

theorem quotes_flatMap_shown (mark : Char) (cs : List Char) :
    Quotes mark cs (mark :: cs.flatMap (shown mark) ++ [mark]) := by
  refine ⟨cs.map (shown mark), ?_, ?_⟩
  · rw [List.forall₂_map_right_iff, List.forall₂_same]
    exact fun c _ => shows_shown mark c
  · rw [List.flatMap_def, List.cons_append]

theorem quotes_quote (s : String) : Quotes '"' s.toList (quote s).toList := by
  rw [quote, String.toList_ofList]
  exact quotes_flatMap_shown '"' s.toList

theorem quotes_quoteChar (c : Char) : Quotes '\'' [c] (quoteChar c).toList := by
  rw [quoteChar, String.toList_ofList, ← List.flatMap_singleton (shown '\'')]
  exact quotes_flatMap_shown '\'' [c]

/-- What stands between marks is one text only. -/
theorem Quotes.unique {mark : Char} {cs ds quoted : List Char} (quote : mark = '"' ∨ mark = '\'')
    (h : Quotes mark cs quoted) (h' : Quotes mark ds quoted) : cs = ds := by
  obtain ⟨forms, shows, rfl⟩ := h
  obtain ⟨forms', shows', same⟩ := h'
  rw [List.cons.injEq] at same
  obtain ⟨-, same⟩ := same
  induction shows generalizing ds forms' with
  | nil =>
    cases shows' with
    | nil => rfl
    | cons first others =>
      rw [List.flatten_cons, List.append_assoc] at same
      exact absurd same.symm (first.append_ne quote)
  | cons first others ih =>
    cases shows' with
    | nil =>
      rw [List.flatten_cons, List.append_assoc] at same
      exact absurd same (first.append_ne quote)
    | cons first' others' =>
      rw [List.flatten_cons, List.flatten_cons, List.append_assoc, List.append_assoc] at same
      obtain ⟨rfl, further⟩ := first.unique quote first' same
      rw [ih _ others' further]

/-- Different texts are quoted differently. -/
theorem quote_inj {s t : String} : quote s = quote t ↔ s = t := by
  constructor
  · intro same
    have other := quotes_quote t
    rw [← same] at other
    exact String.toList_inj.1 ((quotes_quote s).unique (.inl rfl) other)
  · exact congrArg _

end ShortMessage.Text
