import PagedResults.Cursor.Forward
import PagedResults.Cursor.Scrollable

/-! # Cursors

A cursor stands before the first row of a result, on a row, or after the last row. Moving past either
end is no error; the moves that a forward cursor does not know are.
-/

namespace PagedResults

/-- A cursor over a result, where `ρ` is a request under way. -/
inductive Cursor (ρ : Type) where
  | forward (cursor : ForwardCursor ρ)
  | scrollable (cursor : ScrollableCursor ρ)

/-- What can be asked of a cursor. -/
inductive CursorCall where
  | next
  | previous
  | first
  | last
  | absolute (row : Int64)
  | relative (offset : Int64)
  | isLast
  | beforeFirst
  | afterLast
  | close
deriving DecidableEq, Repr

/-- The name of a call. -/
def CursorCall.name : CursorCall → String
  | next => "next"
  | previous => "previous"
  | first => "first"
  | last => "last"
  | absolute _ => "absolute"
  | relative _ => "relative"
  | isLast => "is_last"
  | beforeFirst => "before_first"
  | afterLast => "after_last"
  | close => "close"

/-- The call of a name, where `argument` is the row or the offset of a call that has one. -/
def CursorCall.ofName? (name : String) (argument : Int) : Option CursorCall :=
  [next, previous, first, last, absolute (Int64.ofInt argument), relative (Int64.ofInt argument), isLast,
    beforeFirst, afterLast, close].find? (·.name == name)

namespace Cursor

variable {σ ρ : Type}

def supply : Cursor ρ → Supply ρ
  | forward cursor => cursor.supply
  | scrollable cursor => cursor.supply

def mode : Cursor ρ → CursorMode
  | forward _ => .forward
  | scrollable _ => .scrollable

/-- The row under the cursor. -/
def current : Cursor ρ → Option Row
  | forward cursor => cursor.current
  | scrollable cursor => cursor.current

/-- The index of the current row; -1 before the first row, and the number of rows seen after the last. -/
def position : Cursor ρ → Int
  | forward cursor => cursor.position
  | scrollable cursor => cursor.index.toInt

/-- The number of the current row, counted from 1; 0 when there is none. -/
def rowNumber (cursor : Cursor ρ) : Int := if cursor.current.isSome then cursor.position + 1 else 0

def isBeforeFirst : Cursor ρ → Bool
  | forward cursor => cursor.isBeforeFirst
  | scrollable cursor => cursor.isBeforeFirst

def isAfterLast : Cursor ρ → Bool
  | forward cursor => cursor.isAfterLast
  | scrollable cursor => cursor.isAfterLast

def isFirst (cursor : Cursor ρ) : Bool := cursor.current.isSome && cursor.position == 0

/-- The number of rows at hand. -/
def buffered : Cursor ρ → Nat
  | forward cursor => cursor.buffer.length
  | scrollable cursor => cursor.rows.size

variable [PageSource σ ρ]

/-- Open a cursor over the first page of a result. -/
def «open» (statement : UInt64) (first : Page) (options : FetchOptions) (ownsStatement : Bool)
    (source : σ) : Outcome Error (Cursor ρ) × σ :=
  let (rows, supply, source) := Supply.ofFirst statement first options ownsStatement source
  let cursor := rows.map fun rows =>
    match options.mode with
    | .forward => forward { supply, buffer := rows }
    | .scrollable => scrollable { supply, rows := rows.toArray }
  (cursor, source)

/-- Do what a forward cursor is asked; it answers calls that move with whether it is on a row. -/
def performForward : CursorCall → Op Error (ForwardCursor ρ × σ) (Option Bool)
  | .next => some <$> ForwardCursor.next
  | .isLast => some <$> ForwardCursor.isLast
  | .close => do
      ForwardCursor.close
      return none
  | call => Op.fail (.unsupported call.name)

/-- Do what a scrollable cursor is asked; it answers calls that move with whether it is on a row. -/
def performScrollable : CursorCall → Op Error (ScrollableCursor ρ × σ) (Option Bool)
  | .next => some <$> ScrollableCursor.next
  | .isLast => some <$> ScrollableCursor.isLast
  | .previous => some <$> ScrollableCursor.relative (-1)
  | .first => some <$> ScrollableCursor.absolute 1
  | .last => some <$> ScrollableCursor.absolute (-1)
  | .absolute row => some <$> ScrollableCursor.absolute row
  | .relative offset => some <$> ScrollableCursor.relative offset
  | .beforeFirst => do
      let _ ← ScrollableCursor.absolute 0
      return none
  | .afterLast => do
      ScrollableCursor.afterLast
      return none
  | .close => do
      ScrollableCursor.close
      return none

/-- Do what a cursor is asked. -/
def perform (call : CursorCall) : Op Error (Cursor ρ × σ) (Option Bool) := fun (cursor, source) =>
  match cursor with
  | forward cursor =>
      let (answer, cursor, source) := performForward call (cursor, source)
      (answer, forward cursor, source)
  | scrollable cursor =>
      let (answer, cursor, source) := performScrollable call (cursor, source)
      (answer, scrollable cursor, source)

/-- Move to the next row; the result says whether there is one. -/
def next : Op Error (Cursor ρ × σ) Bool := do return (← perform .next).getD false

/-- The next row, up to the end of the result. -/
def nextRow : Op Error (Cursor ρ × σ) (Option Row) := do
  if ← next then return (← get).1.current
  else return none

/-- Release the result. -/
def close : Op Error (Cursor ρ × σ) Unit := do
  let _ ← perform .close

/-- Release the result of a cursor that nobody uses any more. -/
def drop (cursor : Cursor ρ) : Op Error σ Unit := fun source =>
  let (outcome, _, source) := Supply.drop (cursor.supply, source)
  (outcome, source)

end Cursor

end PagedResults
