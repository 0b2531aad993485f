import ShortMessage.Json.Fault

/-!
# Readers

A reader takes a value from the front of a text and gives it with the text that is left, or fails.
Every reader takes at least one character, which is part of its type, so a loop over readers ends.

* `isBlank` and `skipBlank` pass over what may stand between the parts of a document.
* `passColon` passes over the colon after a key.
* `Reader.map` and `Reader.afterColon` build readers from readers.
* `Reader.readAll` reads a whole text and turns a failure into a fault with its place.
-/

namespace ShortMessage.Json

/-- What a reading step gives: a value and the text that is left, or a failure. -/
abbrev Result (α : Type) := Except Failure (α × List Char)

/-- Blank space: a space, a line feed, a tabulator or a carriage return. -/
def isBlank (c : Char) : Bool :=
  c = ' ' || c = '\n' || c = '\t' || c = '\r'

/-- A text without the blank space in front. -/
def skipBlank (s : List Char) : List Char :=
  s.dropWhile isBlank

theorem length_skipBlank_le (s : List Char) : (skipBlank s).length ≤ s.length :=
  (List.dropWhile_sublist _).length_le

/-- Passes over the colon between a key and its value. -/
def passColon (s : List Char) : Except Failure (List Char) :=
  match skipBlank s with
  | ':' :: rest => .ok rest
  | rest => .error (.here .endInObject .colonExpected rest)

theorem length_of_passColon {s rest : List Char} (h : passColon s = .ok rest) :
    rest.length < s.length := by
  have blank := length_skipBlank_le s
  unfold passColon at h
  split at h
  · next more hs => cases h; rw [hs] at blank; exact blank
  · cases h

/-- A way to read a value from the front of a text, which takes at least one character. -/
structure Reader (α : Type) where
  run : List Char → Result α
  shrinks : ∀ {s a rest}, run s = .ok (a, rest) → rest.length < s.length

namespace Reader

variable {α β : Type}

/-- Reads a value and applies a function to it. -/
def map (f : α → β) (p : Reader α) : Reader β where
  run s := match p.run s with
    | .ok (a, rest) => .ok (f a, rest)
    | .error e => .error e
  shrinks {_ _ _} h := by
    split at h
    · next ha => cases h; exact p.shrinks ha
    · cases h

/-- Reads a value after a colon. -/
def afterColon (p : Reader α) : Reader α where
  run s := match passColon s with
    | .ok rest => p.run rest
    | .error e => .error e
  shrinks {_ _ _} h := by
    split at h
    · next hc => exact Nat.lt_trans (p.shrinks h) (length_of_passColon hc)
    · cases h

/-- Reads a whole text, which may have blank space after the value and nothing else. -/
def readAll (p : Reader α) (text : String) : Except Fault α :=
  let s := text.toList
  match p.run s with
  | .error e => .error (e.inText s)
  | .ok (a, rest) => match skipBlank rest with
    | [] => .ok a
    | more => .error ((Failure.here .trailingCharacters .trailingCharacters more).inText s)

end Reader

end ShortMessage.Json
