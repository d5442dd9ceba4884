import PagedResults.Supply

/-! # Forward cursors

A forward cursor visits every row once and keeps no row that it has left. It holds the rows of one page
that are still to come. When few of them are left it begins to fetch the next page, and takes that page
in once none is left.
-/

namespace PagedResults

/-- A cursor that moves to the next row only. -/
structure ForwardCursor (ρ : Type) where
  supply : Supply ρ
  /-- The rows to come that are at hand. -/
  buffer : List Row
  current : Option Row := none
  /-- The number of rows visited. -/
  consumed : Nat := 0
  /-- The cursor has moved off the last row. -/
  afterLast : Bool := false

namespace ForwardCursor

variable {σ ρ : Type} [PageSource σ ρ]

/-- Run an operation of the supply. -/
def onSupply {α : Type} (operation : Op Error (Supply ρ × σ) α) : Op Error (ForwardCursor ρ × σ) α :=
  operation.onPart (fun (cursor, source) => (cursor.supply, source))
    fun (supply, source) (cursor, _) => ({ cursor with supply }, source)

/-- Change the cursor itself. -/
def update (change : ForwardCursor ρ → ForwardCursor ρ) : Op Error (ForwardCursor ρ × σ) Unit :=
  modify fun (cursor, source) => (change cursor, source)

/-- Take in the next page if no row is at hand. -/
def refill : Op Error (ForwardCursor ρ × σ) Unit := do
  let (cursor, _) ← get
  if cursor.buffer.isEmpty && (cursor.supply.inFlight.isSome || !cursor.supply.exhausted) then
    let rows ← onSupply Supply.fetchNow
    update fun cursor => { cursor with buffer := cursor.buffer ++ rows }

/-- Visit the first of the rows at hand. -/
def advance (cursor : ForwardCursor ρ) : Bool × ForwardCursor ρ :=
  match cursor.buffer with
  | row :: rest =>
      (true, { cursor with buffer := rest, current := some row, consumed := cursor.consumed + 1 })
  | [] => (false, { cursor with current := none, afterLast := true })

/-- Move to the next row; the result says whether there is one. -/
def next : Op Error (ForwardCursor ρ × σ) Bool := do
  onSupply Supply.checkOpen
  let (cursor, _) ← get
  if cursor.afterLast then return false
  if (cursor.buffer.drop cursor.supply.options.prefetchThreshold).isEmpty then
    onSupply (modify Supply.prefetch)
  refill
  modifyGet fun (cursor, source) => ((advance cursor).1, (advance cursor).2, source)

/-- Whether the current row is the last one. The next page may be needed to tell. -/
def isLast : Op Error (ForwardCursor ρ × σ) Bool := do
  onSupply Supply.checkOpen
  let (cursor, _) ← get
  if cursor.current.isNone then return false
  refill
  return (← get).1.buffer.isEmpty

/-- Drop all rows and release the result. -/
def close : Op Error (ForwardCursor ρ × σ) Unit := do
  update fun cursor => { cursor with current := none, buffer := [] }
  onSupply Supply.close

omit [PageSource σ ρ]

/-- The index of the current row; -1 before the first row, and the number of rows after the last. For up to
2 ^ 63 - 1 rows it is a word of 64 bits with a sign. -/
def position (cursor : ForwardCursor ρ) : Int :=
  if cursor.afterLast then cursor.consumed else cursor.consumed - 1

def isBeforeFirst (cursor : ForwardCursor ρ) : Bool :=
  cursor.consumed == 0 && !cursor.buffer.isEmpty

def isAfterLast (cursor : ForwardCursor ρ) : Bool := cursor.afterLast && cursor.consumed != 0

end ForwardCursor

end PagedResults
