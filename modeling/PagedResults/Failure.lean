/-! # How an operation fails

An operation either fails with an error that its caller may handle, or it halts the thread that runs
it. A halted thread hands nothing to its caller: whoever joins it learns only that it ended. Waiting
for a reply that nothing will ever send counts as halting, because no caller sees the end of it.
-/

namespace PagedResults

/-- The reasons why a thread makes no further progress. -/
inductive Halt where
  /-- A list was announced whose items would not fit into the address space. -/
  | capacityOverflow
  /-- A row was asked for a column that it does not have. -/
  | indexOutOfBounds (length index : Nat)
  /-- A number was to be padded to more than 65535 characters. -/
  | widthOutOfRange
  /-- A pool was to be built without a worker. -/
  | emptyPool
  /-- An unsigned 64-bit sum left its range. -/
  | additionOverflow
  /-- A page source gave up with a text of its own. -/
  | raised (text : String)
  /-- A thread waits for something that cannot come any more. -/
  | endlessWait
deriving DecidableEq, Repr, Inhabited

/-- The text that a halted thread leaves behind. -/
def Halt.message : Halt → String
  | .capacityOverflow => "capacity overflow"
  | .indexOutOfBounds length index =>
      s!"index out of bounds: the len is {length} but the index is {index}"
  | .widthOutOfRange => "Formatting argument out of range"
  | .emptyPool => "assertion failed: size > 0"
  | .additionOverflow => "attempt to add with overflow"
  | .raised text => text
  | .endlessWait => "waiting for ever"

/-- An error for the caller, or the end of the thread. -/
inductive Failure (ε : Type) where
  | error (cause : ε)
  | halt (reason : Halt)
deriving DecidableEq, Repr

/-- What an operation leaves when it returns a value or fails with errors of type `ε`. -/
abbrev Outcome (ε α : Type) := Except (Failure ε) α

/-- An operation on a state `σ`: the state is kept whether or not the operation fails. -/
abbrev Op (ε σ α : Type) := ExceptT (Failure ε) (StateM σ) α

namespace Outcome

/-- Fail with an error. -/
def fail {ε α : Type} (cause : ε) : Outcome ε α := .error (.error cause)

/-- Halt the thread. -/
def halt {ε α : Type} (reason : Halt) : Outcome ε α := .error (.halt reason)

/-- Change the errors of an outcome and keep its values and halts. -/
def mapError {ε δ α : Type} (change : ε → δ) : Outcome ε α → Outcome δ α
  | .ok value => .ok value
  | .error (.error cause) => .error (.error (change cause))
  | .error (.halt reason) => .error (.halt reason)

end Outcome

namespace Op

variable {ε σ τ α : Type}

/-- Fail with an error and keep the state. -/
def fail (cause : ε) : Op ε σ α := fun state => (.error (.error cause), state)

/-- Halt the thread and keep the state. -/
def halt (reason : Halt) : Op ε σ α := fun state => (.error (.halt reason), state)

/-- Pass on an outcome that did not need the state. -/
def ofOutcome (outcome : Outcome ε α) : Op ε σ α := fun state => (outcome, state)

/-- Run an operation on a part of the state. -/
def onPart (part : σ → τ) (replace : τ → σ → σ) (op : Op ε τ α) : Op ε σ α := fun state =>
  let (outcome, next) := op (part state)
  (outcome, replace next state)

/-- Run an operation and hand over its error, so that the caller can go on. A halt stays a halt. -/
def attempt (op : Op ε σ α) : Op ε σ (Except ε α) := fun state =>
  match op state with
  | (.ok value, next) => (.ok (.ok value), next)
  | (.error (.error cause), next) => (.ok (.error cause), next)
  | (.error (.halt reason), next) => (.error (.halt reason), next)

/-- How a run of readings ended. -/
inductive Ending (ε : Type) where
  /-- As many items as asked for were read. -/
  | limit
  /-- There are no more items. -/
  | finished
  | failed (failure : Failure ε)
deriving DecidableEq, Repr

/-- Read up to `limit` items, one after the other. -/
def collect (next : Op ε σ (Option α)) : Nat → σ → (List α × Ending ε) × σ
  | 0, state => (([], .limit), state)
  | limit + 1, state =>
      match next state with
      | (.ok none, state) => (([], .finished), state)
      | (.error failure, state) => (([], .failed failure), state)
      | (.ok (some item), state) =>
          let ((items, ending), state) := collect next limit state
          ((item :: items, ending), state)

theorem bind_apply {β : Type} (op : Op ε σ α) (next : α → Op ε σ β) (state : σ) :
    (op >>= next) state =
      match op state with
      | (.ok value, state) => next value state
      | (.error failure, state) => (.error failure, state) := by
  simp only [bind, ExceptT.bind, ExceptT.mk, ExceptT.bindCont, StateT.bind, Id]
  rcases op state with ⟨outcome, state⟩
  cases outcome <;> rfl

/-- An operation that returns a value hands it on. -/
theorem bind_of_ok {β : Type} {op : Op ε σ α} {next : α → Op ε σ β} {state after : σ} {value : α}
    (returned : op state = (.ok value, after)) : (op >>= next) state = next value after := by
  rw [bind_apply, returned]

/-- An operation that fails leaves no room for what was to come behind it. -/
theorem bind_of_error {β : Type} {op : Op ε σ α} {state after : σ} {failure : Failure ε}
    (failed : op state = (.error failure, after)) (next : α → Op ε σ β) :
    (op >>= next) state = (.error failure, after) := by
  rw [bind_apply, failed]

theorem pure_apply (value : α) (state : σ) : (pure value : Op ε σ α) state = (.ok value, state) := rfl

theorem map_apply {β : Type} (change : α → β) (op : Op ε σ α) (state : σ) :
    (change <$> op) state = ((op state).1.map change, (op state).2) := by
  rw [map_eq_pure_bind, bind_apply]
  rcases op state with ⟨outcome, state⟩
  cases outcome <;> rfl

theorem get_apply (state : σ) : (get : Op ε σ σ) state = (.ok state, state) := rfl

theorem modify_apply (change : σ → σ) (state : σ) :
    (modify change : Op ε σ PUnit) state = (.ok ⟨⟩, change state) := rfl

theorem modifyGet_apply (change : σ → α × σ) (state : σ) :
    (modifyGet change : Op ε σ α) state = (.ok (change state).1, (change state).2) := rfl

theorem ofOutcome_apply (outcome : Outcome ε α) (state : σ) :
    (ofOutcome outcome : Op ε σ α) state = (outcome, state) := rfl

theorem ite_apply (condition : Prop) [Decidable condition] (yes no : Op ε σ α) (state : σ) :
    (if condition then yes else no) state = if condition then yes state else no state := by
  split <;> rfl

end Op

end PagedResults
