import PagedResults.Supply

/-! # Scrollable cursors

A scrollable cursor keeps every row that it has seen and moves to any of them, or past either end. It
reads as many pages as a move needs. A move that counts from the end needs all of them, since only the
last page tells where the end is. Places are words of 64 bits with a sign.
-/

namespace PagedResults

/-- A cursor that moves to any row. -/
structure ScrollableCursor (ρ : Type) where
  supply : Supply ρ
  /-- All rows seen so far. -/
  rows : Array Row
  /-- The index of the current row; -1 before the first row, and the number of rows seen after the
  last. -/
  index : Int64 := -1

/-- The sum of two words, or the word next to it where it is none. -/
def saturatingAdd (first second : Int64) : Int64 := Int64.ofIntClamp (first.toInt + second.toInt)

namespace ScrollableCursor

variable {σ ρ : Type}

/-- The most rows that are kept, which are as many as have an index. -/
def mostRows : Nat := UInt64.size / 2 - 1

/-- The number of rows seen, as an index. -/
def length (cursor : ScrollableCursor ρ) : Int64 := Int64.ofNat cursor.rows.size

def onRow (cursor : ScrollableCursor ρ) : Bool := 0 ≤ cursor.index && cursor.index < cursor.length

def current (cursor : ScrollableCursor ρ) : Option Row :=
  if 0 ≤ cursor.index then cursor.rows[cursor.index.toNatClampNeg]? else none

def isBeforeFirst (cursor : ScrollableCursor ρ) : Bool := cursor.index < 0 && !cursor.rows.isEmpty

def isAfterLast (cursor : ScrollableCursor ρ) : Bool :=
  cursor.length ≤ cursor.index && !cursor.rows.isEmpty

/-- Keep more rows. -/
def keep (rows : List Row) (cursor : ScrollableCursor ρ) : ScrollableCursor ρ :=
  { cursor with rows := cursor.rows ++ rows.toArray }

/-- Keep more rows, as far as there is room. -/
def extend (rows : List Row) : Op Error (ScrollableCursor ρ × σ) Unit := fun (cursor, source) =>
  if mostRows < cursor.rows.size + rows.length then (Outcome.halt .capacityOverflow, cursor, source)
  else (.ok (), keep rows cursor, source)

variable [PageSource σ ρ]

/-- Run an operation of the supply. -/
def onSupply {α : Type} (operation : Op Error (Supply ρ × σ) α) :
    Op Error (ScrollableCursor ρ × σ) α :=
  operation.onPart (fun (cursor, source) => (cursor.supply, source))
    fun (supply, source) (cursor, _) => ({ cursor with supply }, source)

/-- Change the cursor itself. -/
def update (change : ScrollableCursor ρ → ScrollableCursor ρ) :
    Op Error (ScrollableCursor ρ × σ) Unit :=
  modify fun (cursor, source) => (change cursor, source)

/-- Keep the rows of the request under way, if any. -/
def mergeInFlight : Op Error (ScrollableCursor ρ × σ) Unit := do
  match ← onSupply Supply.join with
  | some rows => extend rows
  | none => return

/-- Read pages until the result ends or there are enough rows. -/
def readUntil (enough : Nat → Bool) (cursor : ScrollableCursor ρ) (source : σ) :
    Outcome Error Unit × ScrollableCursor ρ × σ :=
  if enough cursor.rows.size || cursor.supply.exhausted then (.ok (), cursor, source)
  else
    match Supply.fetchNow (cursor.supply, source) with
    | (.error failure, supply, source) => (.error failure, { cursor with supply }, source)
    | (.ok rows, supply, source) =>
        if rows = [] then (.ok (), { cursor with supply }, source)
        else if mostRows < cursor.rows.size + rows.length then
          (Outcome.halt .capacityOverflow, { cursor with supply }, source)
        else readUntil enough (keep rows { cursor with supply }) source
termination_by mostRows - cursor.rows.size
decreasing_by
  have positive : rows.length ≠ 0 := by simpa using ‹¬rows = []›
  simp only [keep, Array.size_append, List.size_toArray]
  omega

/-- Read up to a row; the result says whether there is such a row. -/
def materializeTo (target : Int64) : Op Error (ScrollableCursor ρ × σ) Bool := do
  let (cursor, _) ← get
  if target < cursor.length then return true
  mergeInFlight
  fun (cursor, source) => readUntil (fun size => target < Int64.ofNat size) cursor source
  return target < (← get).1.length

/-- Read the whole result. -/
def drain : Op Error (ScrollableCursor ρ × σ) Unit := do
  mergeInFlight
  fun (cursor, source) => readUntil (fun _ => false) cursor source
  let (cursor, _) ← get
  onSupply (Supply.note (.allRowsRead cursor.rows.size))

/-- Move to a row, or past the end that the row would lie behind. -/
def moveTo (target : Int64) : Op Error (ScrollableCursor ρ × σ) Bool := do
  if target < 0 then
    update fun cursor => { cursor with index := -1 }
    return false
  let found ← materializeTo target
  update fun cursor => { cursor with index := if found then target else cursor.length }
  return found

/-- Move to the next row; the result says whether there is one. -/
def next : Op Error (ScrollableCursor ρ × σ) Bool := do
  onSupply Supply.checkOpen
  let (cursor, _) ← get
  if cursor.length ≤ cursor.index then return false
  let ahead := cursor.length - cursor.index - 1
  if ahead ≤ Int64.ofNat cursor.supply.options.prefetchThreshold then onSupply (modify Supply.prefetch)
  let target := cursor.index + 1
  let _ ← materializeTo target
  update fun cursor => { cursor with index := min target cursor.length }
  return (← get).1.onRow

/-- Whether the current row is the last one. The next page may be needed to tell. -/
def isLast : Op Error (ScrollableCursor ρ × σ) Bool := do
  onSupply Supply.checkOpen
  let (cursor, _) ← get
  if !cursor.onRow then return false
  return !(← materializeTo (cursor.index + 1))

/-- Move to a row by its number: 1 is the first row, -1 the last, and 0 lies before the first. -/
def absolute (row : Int64) : Op Error (ScrollableCursor ρ × σ) Bool := do
  onSupply Supply.checkOpen
  if row = 0 then
    update fun cursor => { cursor with index := -1 }
    return false
  else if 0 < row then moveTo (row - 1)
  else
    drain
    moveTo ((← get).1.length + row)

/-- Move by a number of rows; no move at all says whether the cursor is on a row. -/
def relative (offset : Int64) : Op Error (ScrollableCursor ρ × σ) Bool := do
  onSupply Supply.checkOpen
  let (cursor, _) ← get
  if offset = 0 then return cursor.onRow
  moveTo (saturatingAdd cursor.index offset)

/-- Move past the last row. -/
def afterLast : Op Error (ScrollableCursor ρ × σ) Unit := do
  onSupply Supply.checkOpen
  drain
  update fun cursor => { cursor with index := cursor.length }

/-- Drop all rows and release the result. -/
def close : Op Error (ScrollableCursor ρ × σ) Unit := do
  update fun cursor => { cursor with rows := #[], index := -1 }
  onSupply Supply.close

end ScrollableCursor

end PagedResults
