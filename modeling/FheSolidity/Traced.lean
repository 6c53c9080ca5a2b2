import FheSolidity.Event

/-!
# Computations that record events

A traced computation succeeds or fails, and keeps the events up to that point either way.
-/

namespace FheSolidity

/-- The outcome of a computation and the events on the way to it. -/
structure Traced (ε α : Type) where
  /-- The events, the earliest first. -/
  events : List Event
  /-- What the computation came to. -/
  outcome : Except ε α

namespace Traced

variable {ε α β : Type}

/-- Records one event. -/
def record (event : Event) : Traced ε Unit :=
  ⟨[event], .ok ()⟩

/-- A computation without events. -/
def lift (outcome : Except ε α) : Traced ε α :=
  ⟨[], outcome⟩

/-- Goes on with the result of a computation. If it failed, its events are all there are. -/
def bind (first : Traced ε α) (next : α → Traced ε β) : Traced ε β :=
  match first.outcome with
  | .ok a => ⟨first.events ++ (next a).events, (next a).outcome⟩
  | .error e => ⟨first.events, .error e⟩

instance : Monad (Traced ε) where
  pure a := ⟨[], .ok a⟩
  bind := bind

theorem pure_eq (a : α) : (pure a : Traced ε α) = ⟨[], .ok a⟩ := rfl

/-- Going on from a success appends the events. -/
theorem bind_ok (events : List Event) (a : α) (next : α → Traced ε β) :
    (⟨events, .ok a⟩ : Traced ε α) >>= next = ⟨events ++ (next a).events, (next a).outcome⟩ := rfl

/-- A failure ends the computation. -/
theorem bind_error (events : List Event) (e : ε) (next : α → Traced ε β) :
    (⟨events, .error e⟩ : Traced ε α) >>= next = ⟨events, .error e⟩ := rfl

instance : LawfulMonad (Traced ε) :=
  LawfulMonad.mk' (Traced ε)
    (fun ⟨events, outcome⟩ => by
      cases outcome with
      | ok a => simp [Functor.map, bind]
      | error e => rfl)
    (fun a next => by rw [pure_eq, bind_ok, List.nil_append])
    (fun ⟨events, outcome⟩ next last => by
      cases outcome with
      | error e => rfl
      | ok a =>
        rw [bind_ok, bind_ok]
        obtain ⟨more, outcome⟩ := next a
        cases outcome with
        | error e => rfl
        | ok b => rw [bind_ok, bind_ok, List.append_assoc])

end Traced

end FheSolidity
