import ShortMessage.Proofs.Text.Quoted

/-!
# Texts on one line

A line ends at a line feed and at a carriage return. Digits are no line ends, and quotes leave none:
each of the two has a form of its own inside them, with a backslash.

* `Breaks` are the texts with a line end.
* `not_breaks_toString` and `IsHex.not_breaks` say that numbers stand on one line.
* `Quotes.not_breaks` says that what is quoted stands on one line, whatever it is.
-/

namespace ShortMessage.Text

/-- The characters that end a line. -/
def isLineEnd (c : Char) : Bool := c = '\n' || c = '\r'

/-- A text with a line end in it. -/
def Breaks (s : String) : Prop := s.toList.any isLineEnd = true

instance : DecidablePred Breaks :=
  fun s => inferInstanceAs (Decidable (s.toList.any isLineEnd = true))

theorem breaks_append {s t : String} : Breaks (s ++ t) ↔ Breaks s ∨ Breaks t := by
  rw [Breaks, String.toList_append, List.any_append, Bool.or_eq_true]
  rfl

theorem not_breaks_append {s t : String} (hs : ¬ Breaks s) (ht : ¬ Breaks t) :
    ¬ Breaks (s ++ t) := by
  rw [breaks_append]
  exact not_or.2 ⟨hs, ht⟩

theorem breaks_append_left {s t : String} (ht : ¬ Breaks t) : Breaks (s ++ t) ↔ Breaks s := by
  rw [breaks_append, or_iff_left ht]

theorem breaks_append_right {s t : String} (hs : ¬ Breaks s) : Breaks (s ++ t) ↔ Breaks t := by
  rw [breaks_append, or_iff_right hs]

/-- A text stands on one line if none of its characters is a line end. -/
theorem not_breaks_of_forall {s : String} (h : ∀ c ∈ s.toList, isLineEnd c = false) :
    ¬ Breaks s := by
  rw [Breaks, List.any_eq_true]
  rintro ⟨c, hc, ends⟩
  rw [h c hc] at ends
  cases ends

/-! ### Numbers -/

/-- No digit of base sixteen ends a line, in either case. -/
theorem isLineEnd_of_mem_digits {d : Char} (h : d ∈ smallDigits ++ capitalDigits) :
    isLineEnd d = false := by
  have none : ((smallDigits ++ capitalDigits).all fun d => !isLineEnd d) = true := by decide
  simpa using List.all_eq_true.1 none d h

theorem IsHex.not_breaks {width n : ℕ} {digits : String}
    (h : IsHex capitalDigits width n digits.toList) : ¬ Breaks digits :=
  not_breaks_of_forall fun d hd =>
    isLineEnd_of_mem_digits (List.mem_append_right _ (h.known d hd))

theorem not_breaks_toString (n : ℕ) : ¬ Breaks (toString n) := by
  apply not_breaks_of_forall
  intro c hc
  rw [Nat.toString_eq_ofList_toDigits, String.toList_ofList] at hc
  obtain ⟨k, hk, rfl⟩ := exists_of_mem_toDigits (by decide) hc
  have digits : ∀ k < 10, isLineEnd (Nat.digitChar k) = false := by decide
  exact digits k hk

/-! ### Quotes -/

/-- The line ends are hidden. -/
theorem isLineEnd_of_not_isHidden {c : Char} (visible : isHidden c = false) :
    isLineEnd c = false := by
  have shown : ∀ d : Char, d.toNat < 0x20 → c ≠ d := by
    rintro d low rfl
    rw [isHidden_of_lt low] at visible
    cases visible
  simp [isLineEnd, shown '\n' (by decide), shown '\r' (by decide)]

/-- A character with a backslash in front is a line end only if it was one before. -/
theorem isLineEnd_of_mem_escape {c d : Char} (h : isLineEnd c = false) (mem : d ∈ ['\\', c]) :
    isLineEnd d = false := by
  rcases List.mem_cons.1 mem with rfl | mem
  · rfl
  · rw [List.mem_singleton.1 mem, h]

/-- No character stands as a line end between marks: those that are one have a form of their own. -/
theorem Shows.isLineEnd_of_mem {mark c d : Char} {form : List Char} (h : Shows mark c form)
    (outside : isLineEnd mark = false) (mem : d ∈ form) : isLineEnd d = false := by
  cases h with
  | nul | tab | carriage | feed => exact isLineEnd_of_mem_escape rfl mem
  | special special =>
    rcases special with rfl | rfl
    · exact isLineEnd_of_mem_escape rfl mem
    · exact isLineEnd_of_mem_escape outside mem
  | code hidden letterless digits =>
    simp only [List.mem_cons, List.mem_append, List.not_mem_nil, or_false] at mem
    rcases mem with rfl | rfl | rfl | digit | rfl
    · rfl
    · rfl
    · rfl
    · exact isLineEnd_of_mem_digits (List.mem_append_left _ (digits.known d digit))
    · rfl
  | plain visible =>
    rw [List.mem_singleton.1 mem]
    exact isLineEnd_of_not_isHidden visible

/-- A text between marks stands on one line. -/
theorem Quotes.not_breaks {mark : Char} {cs : List Char} {quoted : String}
    (h : Quotes mark cs quoted.toList) (outside : isLineEnd mark = false) : ¬ Breaks quoted := by
  obtain ⟨forms, shows, characters⟩ := h
  have inside : ∀ d ∈ forms.flatten, isLineEnd d = false := by
    clear characters
    induction shows with
    | nil => exact nofun
    | cons first others ih =>
      intro d hd
      rw [List.flatten_cons, List.mem_append] at hd
      exact hd.elim (first.isLineEnd_of_mem outside) (ih d)
  apply not_breaks_of_forall
  intro d hd
  simp only [characters, List.mem_cons, List.mem_append, List.not_mem_nil, or_false] at hd
  rcases hd with rfl | hd | rfl
  · exact outside
  · exact inside d hd
  · exact outside

end ShortMessage.Text
