/-
This file describes operations that leave a trail.

Besides its outcome, a value or a fault, an operation may write notes and may put questions to
a signer. Both are kept in the order in which they happen, whatever the outcome: what was noted
or asked before a fault stays on the trail.
-/

import Bolt11.Fault

namespace Bolt11

/-- The weight of a note. -/
inductive Level where
  | unset
  | debug
  | info
  | warning
  | error
  | critical
  deriving DecidableEq, Repr, Inhabited

namespace Level

/-- The levels in rising order of weight. -/
def rank : Level → Nat
  | unset => 0
  | debug => 10
  | info => 20
  | warning => 30
  | error => 40
  | critical => 50

/-- The name of a level. -/
def name : Level → String
  | unset => "NOTSET"
  | debug => "DEBUG"
  | info => "INFO"
  | warning => "WARNING"
  | error => "ERROR"
  | critical => "CRITICAL"

/-- The level of the given name; two levels have a second name. -/
def ofName? : String → Option Level
  | "NOTSET" => some unset
  | "DEBUG" => some debug
  | "INFO" => some info
  | "WARNING" => some warning
  | "WARN" => some warning
  | "ERROR" => some error
  | "CRITICAL" => some critical
  | "FATAL" => some critical
  | _ => none

end Level

/-- A note: its weight, the full name of the journal it is written to, and its text. -/
structure Note where
  level : Level
  source : String
  text : String
  deriving DecidableEq, Repr

/-- A question put to a signer. -/
inductive Question where
  | verify (key digest signature : Bytes)
  | recover (digest signature : Bytes) (number : Nat)
  | isPubkey (key : Bytes)
  deriving DecidableEq, Repr

/-- One thing that an operation did on its way. -/
inductive Event where
  | note (note : Note)
  | asked (question : Question)
  deriving DecidableEq, Repr

/-- An operation that has run: its outcome and its trail. -/
structure Traced (α : Type) where
  outcome : Except Fault α
  trail : List Event

namespace Traced

variable {α β γ : Type}

/-- The operation that does nothing and gives a value. -/
def done (value : α) : Traced α := ⟨.ok value, []⟩

/-- The operation that does nothing but fail. -/
def fail (fault : Fault) : Traced α := ⟨.error fault, []⟩

/-- The operation with the given outcome and no trail. -/
def ofExcept (outcome : Except Fault α) : Traced α := ⟨outcome, []⟩

/-- The operation that writes a note. -/
def note (level : Level) (source text : String) : Traced Unit :=
  ⟨.ok (), [.note ⟨level, source, text⟩]⟩

/-- One operation after another, the second made from the value of the first. A fault of the
first is the fault of both, and the second does not run. -/
def andThen (first : Traced α) (second : α → Traced β) : Traced β :=
  match first.outcome with
  | .error fault => ⟨.error fault, first.trail⟩
  | .ok value => ⟨(second value).outcome, first.trail ++ (second value).trail⟩

instance : Monad Traced where
  pure := done
  bind := andThen

instance : MonadLift (Except Fault) Traced := ⟨ofExcept⟩

/-- The notes on the trail. -/
def notes (operation : Traced α) : List Note :=
  operation.trail.filterMap fun
    | .note note => some note
    | .asked _ => none

/-- The questions on the trail. -/
def questions (operation : Traced α) : List Question :=
  operation.trail.filterMap fun
    | .note _ => none
    | .asked question => some question

/-! ### Laws of sequencing -/

@[simp] theorem pure_outcome (value : α) : (pure value : Traced α).outcome = .ok value := rfl

@[simp] theorem pure_trail (value : α) : (pure value : Traced α).trail = [] := rfl

@[simp] theorem fail_outcome (fault : Fault) : (fail fault : Traced α).outcome = .error fault := rfl

@[simp] theorem fail_trail (fault : Fault) : (fail fault : Traced α).trail = [] := rfl

@[simp] theorem note_outcome (level : Level) (source text : String) :
    (note level source text).outcome = .ok () := rfl

@[simp] theorem note_trail (level : Level) (source text : String) :
    (note level source text).trail = [.note ⟨level, source, text⟩] := rfl

theorem bind_eq_andThen (first : Traced α) (second : α → Traced β) :
    first >>= second = first.andThen second := rfl

theorem bind_of_ok {first : Traced α} {value : α} (second : α → Traced β)
    (succeeded : first.outcome = .ok value) :
    first >>= second = ⟨(second value).outcome, first.trail ++ (second value).trail⟩ := by
  simp only [bind_eq_andThen, andThen, succeeded]

theorem bind_of_error {first : Traced α} {fault : Fault} (second : α → Traced β)
    (failed : first.outcome = .error fault) :
    first >>= second = ⟨.error fault, first.trail⟩ := by
  simp only [bind_eq_andThen, andThen, failed]

/-- Sequencing succeeds exactly when both operations do. -/
theorem bind_outcome_ok_iff {first : Traced α} {second : α → Traced β} {result : β} :
    (first >>= second).outcome = .ok result ↔
      ∃ value, first.outcome = .ok value ∧ (second value).outcome = .ok result := by
  cases outcome : first.outcome with
  | error fault => simp [bind_of_error second outcome]
  | ok value => simp [bind_of_ok second outcome]

instance : LawfulMonad Traced :=
  LawfulMonad.mk' Traced
    (fun ⟨outcome, _⟩ => by cases outcome <;> simp [Functor.map, andThen, done])
    (fun value second => by simp [bind_of_ok second (pure_outcome value)])
    (fun ⟨outcome, _⟩ second _ => by
      cases outcome with
      | error fault => rfl
      | ok value =>
        simp only [bind_eq_andThen, andThen]
        cases (second value).outcome <;> simp)

end Traced

end Bolt11
