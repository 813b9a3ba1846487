import ExactAlgebra.Error
import ExactAlgebra.Matrix.Elimination

/-!
# Logged computations

Some operations report what they do as they go. What such an operation amounts to is the list of its
reports together with its outcome, and the reports made before an error stay made.

## Main definitions

* `Event`: what may be reported, with its `Level` and `Topic`.
* `Logged`: a computation that reports events and may fail.
* `Logged.report`, `Logged.collected`: making a report, and the reports from some level up.
-/

namespace ExactAlgebra

/-- How urgent a report is. -/
inductive Level where
  | debug
  | warning
  | error
  deriving DecidableEq, Repr

namespace Level

/-- The place of a level in the order of urgency. -/
def rank : Level → Nat
  | .debug => 0
  | .warning => 1
  | .error => 2

/-- The name of a level. -/
def name : Level → String
  | .debug => "DEBUG"
  | .warning => "WARNING"
  | .error => "ERROR"

end Level

/-- The part of the library that a report comes from. -/
inductive Topic where
  | expressions
  | reduction
  | determinants
  | reading
  | files
  deriving DecidableEq, Repr

/-- What may be reported. -/
inductive Event where
  /-- An expression was evaluated. -/
  | evaluated (text : List Char) (value : Quantity)
  /-- A step of a reduction found its pivot. -/
  | pivot (found : Pivot)
  /-- Row exchanges were left out of the sign of a determinant. -/
  | uncorrectedSign (swaps : Nat)
  /-- A matrix was read. -/
  | read (rows columns : Nat)
  /-- A matrix was written to a compressed file. -/
  | saved (rows columns : Nat) (path : String)
  /-- A compressed file was unpacked. -/
  | loaded (path : String)
  /-- A matrix was written to a file of records. -/
  | wrote (rows columns : Nat) (path : String)

namespace Event

/-- How urgent an event is: only a determinant of doubtful sign is worth a warning. -/
def level : Event → Level
  | .uncorrectedSign _ => .warning
  | _ => .debug

/-- The part of the library that an event comes from. -/
def topic : Event → Topic
  | .evaluated .. => .expressions
  | .pivot _ => .reduction
  | .uncorrectedSign _ => .determinants
  | .read .. => .reading
  | .saved .. | .loaded _ | .wrote .. => .files

end Event

/-- A computation that reports events and may fail. -/
structure Logged (α : Type) where
  /-- The events in the order of their reports. -/
  events : List Event
  /-- How the computation ended. -/
  outcome : Except Error α

namespace Logged

variable {α β : Type}

/-- A computation that reports one event. -/
def report (e : Event) : Logged Unit := ⟨[e], .ok ()⟩

/-- A computation that fails. -/
def fail (e : Error) : Logged α := ⟨[], .error e⟩

/-- A computation that reports nothing. -/
def ofExcept (x : Except Error α) : Logged α := ⟨[], x⟩

/-- One computation after another. The second is not started when the first fails. -/
def bind (x : Logged α) (f : α → Logged β) : Logged β :=
  match x.outcome with
  | .ok a => let y := f a; ⟨x.events ++ y.events, y.outcome⟩
  | .error e => ⟨x.events, .error e⟩

instance : Monad Logged where
  pure a := ⟨[], .ok a⟩
  bind := bind

instance : MonadLift (Except Error) Logged := ⟨ofExcept⟩

/-- The reports of at least the given urgency. -/
def collected (x : Logged α) (least : Level) : List Event :=
  x.events.filter fun e => decide (least.rank ≤ e.level.rank)

@[simp] theorem outcome_pure (a : α) : (pure a : Logged α).outcome = .ok a := rfl

@[simp] theorem events_pure (a : α) : (pure a : Logged α).events = [] := rfl

@[simp] theorem outcome_report (e : Event) : (report e).outcome = .ok () := rfl

@[simp] theorem outcome_ofExcept (x : Except Error α) : (ofExcept x).outcome = x := rfl

/-- The outcome of two computations in a row does not depend on the reports. -/
@[simp] theorem outcome_bind (x : Logged α) (f : α → Logged β) :
    (x >>= f).outcome = x.outcome >>= fun a => (f a).outcome := by
  show (bind x f).outcome = _
  unfold bind
  cases x.outcome <;> rfl

/-- After a computation that succeeds, the outcome is that of the next one. -/
theorem outcome_bind_of_ok {x : Logged α} {a : α} (ok : x.outcome = .ok a) (f : α → Logged β) :
    (x >>= f).outcome = (f a).outcome := by
  rw [outcome_bind, ok]
  rfl

end Logged

end ExactAlgebra
