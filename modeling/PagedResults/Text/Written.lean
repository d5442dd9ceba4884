import PagedResults.Failure

/-! # Text in the making

A text is written piece by piece. A piece without a text halts the thread that writes it: what stands
before the piece is written by then, and nothing follows. `result_append` says that a text is complete
exactly if all its pieces are.
-/

namespace PagedResults

/-- What is written of a text, and why the rest of it is missing if there is a rest. -/
structure Written where
  text : String
  halt : Option Halt := none
deriving DecidableEq, Repr

namespace Written

/-- A text that is written completely. -/
def whole (text : String) : Written := { text }

/-- A piece that is written completely or not at all. -/
def piece : Except Halt String → Written
  | .ok text => whole text
  | .error reason => { text := "", halt := some reason }

/-- One text and then another one, unless the first one halts. -/
def append (first second : Written) : Written :=
  match first.halt with
  | some _ => first
  | none => { text := first.text ++ second.text, halt := second.halt }

instance : Append Written := ⟨append⟩

/-- Several texts in order with a separator between them. -/
def joined (separator : String) : List Written → Written
  | [] => whole ""
  | [last] => last
  | first :: rest => first ++ whole separator ++ joined separator rest

/-- The text, if all of it is written. -/
def result (written : Written) : Except Halt String :=
  match written.halt with
  | some reason => .error reason
  | none => .ok written.text

@[simp] theorem result_whole (text : String) : (whole text).result = .ok text := rfl

@[simp] theorem result_piece (outcome : Except Halt String) : (piece outcome).result = outcome := by
  cases outcome <;> rfl

theorem result_append (first second : Written) :
    (first ++ second).result =
      first.result.bind fun start => second.result.map fun rest => start ++ rest := by
  obtain ⟨start, halted⟩ := first
  obtain ⟨rest, ended⟩ := second
  cases halted <;> cases ended <;> rfl

end Written

end PagedResults
