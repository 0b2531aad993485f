import ShortMessage.Proofs.Json.StringLiteral

/-!
# The outline of a document

What is passed over in a document has to be well formed, but its strings need not stand for texts: a
unit escape may give half of a pair. So the outline of a document is its value with the strings kept
as they are written.

* `Literal.IsRaw` are the characters that may stand between the quotes of a string.
* `Outline` are the texts that spell a value whose strings are kept as they are written.
* `Spells.verbatim` says that what spells a value has an outline.
-/

namespace ShortMessage.Json

/-- The characters that may stand between quotes: plain ones, escapes with a letter, and escapes
with any unit. -/
inductive Literal.IsRaw : List Char → Prop
  | nil : IsRaw []
  | plain {c cs} (quote : c ≠ '"') (backslash : c ≠ '\\') (control : 0x20 ≤ c.toNat)
      (more : IsRaw cs) : IsRaw (c :: cs)
  | letter {c e cs} (escape : letterEscape? e = some c) (more : IsRaw cs) : IsRaw ('\\' :: e :: cs)
  | unit {n u cs} (code : SpellsUnit n u) (more : IsRaw cs) : IsRaw ('\\' :: 'u' :: (u ++ cs))

/-- A string that is kept as it is written. -/
inductive Verbatim : List Char → List Char → Prop
  | mk {cs} (raw : Literal.IsRaw cs) : Verbatim cs cs

/-- The texts that spell a value and nothing else, with blank space around it, where strings are
kept as they are written. -/
def Outline (v : Value (List Char)) (text : String) : Prop :=
  ∃ a cs b, text.toList = a ++ (cs ++ b) ∧ Blank a ∧ Spells Verbatim v cs ∧ Blank b

/-! ### What spells a value has an outline -/

/-- What spells characters may stand between quotes. -/
theorem Literal.Spells.isRaw {ds cs : List Char} (h : Literal.Spells ds cs) : IsRaw cs := by
  induction h with
  | nil => exact .nil
  | plain quote backslash control _ ih => exact .plain quote backslash control ih
  | letter escape _ ih => exact .letter escape ih
  | unit code _ ih => exact .unit code ih
  | pair leading trailing _ _ _ _ ih => exact .unit leading (.unit trailing ih)

mutual

/-- What spells a value spells one whose strings are kept as they are written. -/
theorem Spells.verbatim {v : Value String} {cs : List Char} :
    Spells SpellsText v cs → ∃ o, Spells Verbatim o cs
  | .null => ⟨_, .null⟩
  | .isTrue => ⟨_, .isTrue⟩
  | .isFalse => ⟨_, .isFalse⟩
  | .number numeral => ⟨_, .number numeral⟩
  | .string text => ⟨_, .string (.mk text.isRaw)⟩
  | .emptyArray blank => ⟨_, .emptyArray blank⟩
  | .array blank first others =>
    let ⟨_, ho⟩ := first.verbatim
    let ⟨_, hos⟩ := others.verbatim
    ⟨_, .array blank ho hos⟩
  | .emptyObject blank => ⟨_, .emptyObject blank⟩
  | .object first others =>
    let ⟨_, ho⟩ := first.verbatim
    let ⟨_, hos⟩ := others.verbatim
    ⟨_, .object ho hos⟩

theorem SpellsRest.verbatim {vs : List (Value String)} {cs : List Char} :
    SpellsRest SpellsText vs cs → ∃ os, SpellsRest Verbatim os cs
  | .close blank => ⟨_, .close blank⟩
  | .next before after value others =>
    let ⟨_, ho⟩ := value.verbatim
    let ⟨_, hos⟩ := others.verbatim
    ⟨_, .next before after ho hos⟩

theorem SpellsMember.verbatim {m : String × Value String} {cs : List Char} :
    SpellsMember SpellsText m cs → ∃ o, SpellsMember Verbatim o cs
  | .mk front key before after value =>
    let ⟨_, ho⟩ := value.verbatim
    ⟨_, .mk front (.mk key.isRaw) before after ho⟩

theorem SpellsMembers.verbatim {ms : List (String × Value String)} {cs : List Char} :
    SpellsMembers SpellsText ms cs → ∃ os, SpellsMembers Verbatim os cs
  | .close blank => ⟨_, .close blank⟩
  | .next blank member others =>
    let ⟨_, ho⟩ := member.verbatim
    let ⟨_, hos⟩ := others.verbatim
    ⟨_, .next blank ho hos⟩

end

end ShortMessage.Json
