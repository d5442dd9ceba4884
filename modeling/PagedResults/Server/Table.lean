import PagedResults.Row

/-! # Tables and their pages

A table is the full result of a statement. A page of it starts where it was asked to, or at the end of
the table if it was asked to start behind it, and holds as many rows as asked for, as long as there are
that many. The page that reaches the end is marked as the last one. `pagesFrom` follows the pages from
one to the next, up to the last.
-/

namespace PagedResults

/-- Columns and rows. -/
structure Table where
  columns : List Column
  rows : List Row
deriving Repr, Inhabited

namespace Table

/-- The rows of a page when the request leaves their number open. -/
def defaultPageSize : Nat := 100

/-- The number of rows that a request asks for. -/
def pageSize (fetchSize : UInt32) : Nat :=
  if fetchSize = 0 then defaultPageSize else fetchSize.toNat

theorem pageSize_pos (fetchSize : UInt32) : 0 < pageSize fetchSize := by
  unfold pageSize
  split
  · decide
  · next nonzero =>
    have : fetchSize.toNat ≠ 0 := fun zero => nonzero (UInt32.toNat_inj.mp zero)
    omega

/-- The table cut to at most `maxRows` rows, where 0 stands for any number. -/
def cut (maxRows : UInt64) (table : Table) : Table :=
  if maxRows = 0 then table else { table with rows := table.rows.take maxRows.toNat }

/-- `size` rows from `start` on. -/
def pageFrom (start size : Nat) (table : Table) : WirePage :=
  let first := min start table.rows.length
  let rows := (table.rows.drop first).take size
  ⟨UInt64.ofNat first, table.rows.length ≤ first + size, rows.map Row.toCells⟩

/-- The page that a request asks for. -/
def page (offset : UInt64) (fetchSize : UInt32) (table : Table) : WirePage :=
  table.pageFrom offset.toNat (pageSize fetchSize)

/-- The pages from `start` on, each behind the one before it, up to the last one. -/
def pagesFrom (start : Nat) (fetchSize : UInt32) (table : Table) : List WirePage :=
  table.pageFrom start (pageSize fetchSize) ::
    if table.rows.length ≤ start + pageSize fetchSize then []
    else pagesFrom (start + pageSize fetchSize) fetchSize table
termination_by table.rows.length - start
decreasing_by
  have := pageSize_pos fetchSize
  omega

/-- `count` numbered rows from `first` on. -/
def seriesRows (first count : Nat) : List Row :=
  (List.range' first count).map fun number : Nat =>
    ⟨[.int64 (Int64.ofNat number), .text s!"r{number}"]⟩

/-- A table of two columns whose rows are numbered from 0. -/
def series (count : Nat) : Table where
  columns := [⟨"id", .int64, false⟩, ⟨"label", .text, true⟩]
  rows := seriesRows 0 count

end Table

end PagedResults
