import ShortMessage.Error
import ShortMessage.Event

/-!
# Attempts

An attempt ends in a value or in an error, and either way it leaves the events that it reported. A
step after a failed step is not made, and reports nothing.
-/

namespace ShortMessage

/-- How something ended, and what was reported on the way. -/
structure Attempt (α : Type) where
  result : Except Error α
  events : List Event

namespace Attempt

variable {α β : Type}

/-- Reports an event. -/
def report (e : Event) : Attempt Unit := ⟨.ok (), [e]⟩

/-- Ends in an error. -/
def fail (e : Error) : Attempt α := ⟨.error e, []⟩

/-- Ends as a computation without events ended. -/
def ofExcept (x : Except Error α) : Attempt α := ⟨x, []⟩

/-- One attempt after another. -/
protected def bind (x : Attempt α) (f : α → Attempt β) : Attempt β :=
  match x.result with
  | .error e => ⟨.error e, x.events⟩
  | .ok a =>
    let y := f a
    ⟨y.result, x.events ++ y.events⟩

instance : Monad Attempt where
  pure a := ⟨.ok a, []⟩
  bind := Attempt.bind

theorem ext {x y : Attempt α} (result : x.result = y.result) (events : x.events = y.events) :
    x = y := by
  cases x; cases y; cases result; cases events; rfl

@[simp] theorem pure_def (a : α) : (pure a : Attempt α) = ⟨.ok a, []⟩ := rfl

@[simp] theorem bind_ok (a : α) (es : List Event) (f : α → Attempt β) :
    (⟨.ok a, es⟩ : Attempt α) >>= f = ⟨(f a).result, es ++ (f a).events⟩ := rfl

@[simp] theorem bind_error (e : Error) (es : List Event) (f : α → Attempt β) :
    (⟨.error e, es⟩ : Attempt α) >>= f = ⟨.error e, es⟩ := rfl

@[simp] theorem report_bind (e : Event) (f : Unit → Attempt β) :
    report e >>= f = ⟨(f ()).result, e :: (f ()).events⟩ := rfl

theorem bind_assoc (x : Attempt α) (f : α → Attempt β) {γ : Type} (g : β → Attempt γ) :
    x >>= f >>= g = x >>= fun a => f a >>= g := by
  obtain ⟨_ | a, es⟩ := x
  · rfl
  · cases h : f a with
    | mk r fs => cases r <;> simp [h]

instance : LawfulMonad Attempt :=
  LawfulMonad.mk' Attempt
    (fun x => by
      obtain ⟨_ | a, es⟩ := x
      · rfl
      · exact ext rfl (List.append_nil es))
    (fun _ _ => ext rfl rfl)
    (fun x f g => bind_assoc x f g)

/-! ## How a composed attempt ends -/

@[simp] theorem result_bind (x : Attempt α) (f : α → Attempt β) :
    (x >>= f).result = x.result >>= fun a => (f a).result := by
  obtain ⟨_ | a, es⟩ := x <;> rfl

@[simp] theorem result_report (e : Event) : (report e).result = .ok () := rfl

@[simp] theorem result_fail (e : Error) : (fail e : Attempt α).result = .error e := rfl

@[simp] theorem result_ofExcept (x : Except Error α) : (ofExcept x).result = x := rfl

theorem result_bind_eq_ok_iff {x : Attempt α} {f : α → Attempt β} {b : β} :
    (x >>= f).result = .ok b ↔ ∃ a, x.result = .ok a ∧ (f a).result = .ok b := by
  obtain ⟨_ | a, es⟩ := x <;> simp

theorem result_map_eq_ok_iff {x : Attempt α} {f : α → β} {b : β} :
    (f <$> x).result = .ok b ↔ ∃ a, x.result = .ok a ∧ f a = b := by
  rw [map_eq_pure_bind, result_bind_eq_ok_iff]
  simp

/-! ## What a composed attempt reports -/

/-- An attempt that ends well reports its events in front of those of the next one. -/
theorem events_bind {x : Attempt α} {f : α → Attempt β} {a : α} (h : x.result = .ok a) :
    (x >>= f).events = x.events ++ (f a).events := by
  obtain ⟨result, events⟩ := x
  cases h
  rfl

/-- The lines that were reported, in order: how much each matters, and its text. -/
def log (x : Attempt α) : List (Level × String) :=
  x.events.map fun e => (e.level, e.message)

theorem log_bind {x : Attempt α} {f : α → Attempt β} {a : α} (h : x.result = .ok a) :
    (x >>= f).log = x.log ++ (f a).log := by
  rw [log, events_bind h, List.map_append]
  rfl

end Attempt

end ShortMessage
