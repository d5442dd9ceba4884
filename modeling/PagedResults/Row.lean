import PagedResults.Error
import PagedResults.Value.Cell
import PagedResults.Value.Text

/-! # Rows and pages

A result is a sequence of rows, which the server hands out in pages. A page knows the position of its
first row within the result and whether the result ends with it. In transit a row is a list of cells;
reading a page turns every cell into a value, and the first defect is reported with the position of
its row in the whole result.
-/

namespace PagedResults

/-- What a result says about one of its columns. -/
structure Column where
  name : String
  kind : Kind
  nullable : Bool
deriving DecidableEq, Repr

/-- The name and what is said of its values, padded to a multiple of eight bytes. -/
instance : Layout Column := ⟨Layout.size String + 8⟩

/-- An ordered list of values, one for each column. -/
structure Row where
  values : List Value
deriving Repr, Inhabited

/-- A page in transit. -/
structure WirePage where
  /-- The position of the first row within the result. -/
  offset : UInt64
  isLast : Bool
  rows : List (List Cell)
deriving DecidableEq, Repr

/-- Consecutive rows of a result. -/
structure Page where
  /-- The position of the first row within the result. -/
  offset : UInt64
  isLast : Bool
  rows : List Row
deriving Repr

/-- A 64-bit position moved on by a number of rows. -/
def advance (position : UInt64) (count : Nat) : Except Halt UInt64 :=
  if position.toNat + count < UInt64.size then .ok (position + UInt64.ofNat count)
  else .error .additionOverflow

namespace Row

/-- The value of a column, if the row has the column. -/
def get? (row : Row) (column : Nat) : Option Value := row.values[column]?

/-- The value of a column that the row must have. -/
def column (row : Row) (index : Nat) : Except Halt Value :=
  match row.values[index]? with
  | some value => .ok value
  | none => .error (.indexOutOfBounds row.values.length index)

/-- A row as it is written: the values side by side. -/
def write (row : Row) : Written := .joined " | " (Value.writeAll row.values)

/-- The text of a row. -/
def toText (row : Row) : Except Halt String := row.write.result

/-- The row in transit. -/
def toCells (row : Row) : List Cell := Value.toCells row.values

/-- The values of cells from column `column` on; `number` is the position of their row. -/
def valuesOf (number : UInt64) (column : Nat) : List Cell → Outcome Error (List Value)
  | [] => .ok []
  | cell :: rest => do
      let value ← (Value.ofCell cell).mapError fun cause => .malformed number column cause.message
      let values ← valuesOf number (column + 1) rest
      return value :: values

/-- The row that a list of cells carries, for a result with `arity` columns. -/
def ofCells (number : UInt64) (arity : Nat) (cells : List Cell) : Outcome Error Row :=
  if cells.length = arity then (valuesOf number 0 cells).map Row.mk
  else
    Outcome.fail
      (.malformed number (min cells.length arity) s!"expected {arity} cells, found {cells.length}")

end Row

namespace Page

/-- The rows of a page from the one at index `index` on. -/
def rowsOf (offset : UInt64) (arity index : Nat) : List (List Cell) → Outcome Error (List Row)
  | [] => .ok []
  | cells :: rest => do
      let number ← match advance offset index with
        | .ok number => .ok number
        | .error reason => Outcome.halt reason
      let row ← Row.ofCells number arity cells
      let rows ← rowsOf offset arity (index + 1) rest
      return row :: rows

/-- The page that was sent, for a result with `arity` columns. -/
def ofWire (arity : Nat) (page : WirePage) : Outcome Error Page :=
  (rowsOf page.offset arity 0 page.rows).map fun rows => ⟨page.offset, page.isLast, rows⟩

end Page

end PagedResults
