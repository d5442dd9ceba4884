import Mathlib.Algebra.GroupWithZero.Nat
import PagedResults.Proofs.Cells.Exact

/-! # How deep a cell nests

The cells of an array fill its payload, twelve bytes and the payload of each of them behind the eight bytes
of the count. So every array inside of an array is at least twenty bytes shorter, which bounds how many
calls the reading of a cell has open at a time, and each value inside of a value costs twelve bytes, which
bounds what is read.
-/

namespace PagedResults.Value

mutual

/-- The number of values that a value consists of, itself included. -/
def nodes : Value → Nat
  | array items => 1 + nodesAll items
  | _ => 1

/-- The number of values that several values consist of. -/
def nodesAll : List Value → Nat
  | [] => 0
  | value :: rest => nodes value + nodesAll rest

end

mutual

/-- The number of values inside of each other, the outermost one included. -/
def depth : Value → Nat
  | array items => 1 + depthAll items
  | _ => 1

/-- The depth of the deepest one of several values. -/
def depthAll : List Value → Nat
  | [] => 0
  | value :: rest => max (depth value) (depthAll rest)

end

/-- The value that a cell carries, read with at most so many calls inside of each other; `none` if more
would be needed. -/
def ofCellWithin : Nat → Cell → ExceptT (Failure CellError) Option Value
  | 0, _ => ExceptT.mk none
  | calls + 1, cell =>
      if cell.kind = .array then
        match nestedCells cell.payload with
        | .ok cells => array <$> cells.mapM (ofCellWithin calls)
        | .error failure => throw failure
      else ExceptT.mk (some (ofCell cell))

/-! ## The cells of an array -/

/-- The cells of an array fill its payload. -/
theorem length_payload_nested {payload : Bytes} {cells : List Cell}
    (nested : nestedCells payload = .ok cells) :
    8 + (cells.map fun inner => 12 + inner.payload.length).sum = payload.length := by
  have sums (cells : List Cell) : Reader.total (fun inner : Cell => 12 + inner.payload.length) cells =
      (cells.map fun inner => 12 + inner.payload.length).sum := by
    induction cells with
    | nil => rfl
    | cons cell cells ih => rw [Reader.total, ih, List.map_cons, List.sum_cons]
  rw [← sums]
  exact (Reader.cells_length (nestedCells_eq_ok.mp nested)).symm

/-! ## Reading ends -/

/-- Cells that are all read within a number of calls are read so one after the other. -/
theorem mapM_within {read : Cell → ExceptT (Failure CellError) Option Value} {cells : List Cell}
    (each : ∀ cell ∈ cells, read cell = ExceptT.mk (some (ofCell cell))) :
    cells.mapM read = ExceptT.mk (some (cells.mapM ofCell)) := by
  induction cells with
  | nil => rfl
  | cons cell cells ih =>
    obtain ⟨here, others⟩ := List.forall_mem_cons.mp each
    rw [List.mapM_cons, List.mapM_cons, here, ih others]
    cases ofCell cell with
    | error failure => rfl
    | ok value => cases cells.mapM ofCell <;> rfl

/-- One call for the cell and one for every twenty bytes of it suffice. -/
theorem ofCellWithin_eq {calls : Nat} {cell : Cell} (enough : 1 + cell.payload.length / 20 ≤ calls) :
    ofCellWithin calls cell = ExceptT.mk (some (ofCell cell)) := by
  induction calls generalizing cell with
  | zero => omega
  | succ calls ih =>
    obtain ⟨kind, payload⟩ := cell
    dsimp only at enough
    rw [ofCellWithin]
    by_cases isArray : kind = .array
    · subst isArray
      rw [if_pos rfl]
      cases nested : nestedCells payload with
      | error failure =>
        rw [ofCell_array_error nested]
        rfl
      | ok cells =>
        have each : ∀ inner ∈ cells, ofCellWithin calls inner = ExceptT.mk (some (ofCell inner)) := by
          intro inner member
          have shorter := Reader.cell_shorter (nestedCells_eq_ok.mp nested) member
          exact ih (by omega)
        dsimp only
        rw [ofCell_array nested, mapM_within each]
        cases cells.mapM ofCell <;> rfl
    · rw [if_neg isArray]

/-! ## What is read is bounded -/

mutual

/-- Every value inside of a value takes twelve bytes of its cell. -/
theorem nodes_le : (value : Value) → 12 * value.nodes ≤ 12 + (toCell value).payload.length
  | .array items => by
    have inside := nodesAll_le items
    have size := Codec.length_list Cell.codec (toCells items)
    rw [nodes, toCell]
    dsimp only
    omega
  | .null | .bool _ | .int8 _ | .int16 _ | .int32 _ | .int64 _ | .float32 _ | .float64 _ | .decimal _ _
  | .text _ | .bytes _ | .date _ | .time _ | .timestamp _ | .lob _ => Nat.le_add_right _ _

/-- Several values take twelve bytes of their cells for every value that they consist of. -/
theorem nodesAll_le : (values : List Value) →
    12 * nodesAll values ≤ ((toCells values).flatMap Cell.codec.write).length
  | [] => by
    rw [nodesAll]
    omega
  | value :: values => by
    have here := nodes_le value
    have others := nodesAll_le values
    rw [nodesAll, toCells, List.flatMap_cons, List.length_append, Cell.length_write]
    omega

end

mutual

/-- Every array around a value takes twenty bytes of its cell. -/
theorem depth_le : (value : Value) → 20 * value.depth ≤ 20 + (toCell value).payload.length
  | .array items => by
    have inside := depthAll_le items
    have size := Codec.length_list Cell.codec (toCells items)
    rw [depth, toCell]
    dsimp only
    omega
  | .null | .bool _ | .int8 _ | .int16 _ | .int32 _ | .int64 _ | .float32 _ | .float64 _ | .decimal _ _
  | .text _ | .bytes _ | .date _ | .time _ | .timestamp _ | .lob _ => Nat.le_add_right _ _

/-- Together with the count in front of them, the cells of several values take twenty bytes for every array
around the innermost value. -/
theorem depthAll_le : (values : List Value) →
    20 * depthAll values ≤ 8 + ((toCells values).flatMap Cell.codec.write).length
  | [] => by
    rw [depthAll]
    omega
  | value :: values => by
    have here := depth_le value
    have others := depthAll_le values
    rw [depthAll, toCells, List.flatMap_cons, List.length_append, Cell.length_write]
    omega

end

/-- The cells of an array fill its payload, so that each of them is shorter by at least twenty bytes. Hence
reading a cell ends, with no more calls open at a time than its length allows, and what is read has no more
values, and no more of them inside of each other, than its length allows. -/
theorem nesting_bounded :
    (∀ payload cells, (Codec.list Cell.codec).read payload = .ok (cells, []) →
      8 + (cells.map fun inner => 12 + inner.payload.length).sum = payload.length ∧
        ∀ inner ∈ cells, inner.payload.length + 20 ≤ payload.length) ∧
      (∀ cell, ofCellWithin (1 + cell.payload.length / 20) cell = ExceptT.mk (some (ofCell cell))) ∧
      ∀ cell value, ofCell cell = .ok value →
        value.nodes ≤ 1 + cell.payload.length / 12 ∧ value.depth ≤ 1 + cell.payload.length / 20 := by
  refine ⟨fun payload cells read => ⟨?_, ?_⟩, fun cell => ofCellWithin_eq (Nat.le_refl _), ?_⟩
  · exact length_payload_nested (nestedCells_eq_ok.mpr read)
  · exact fun inner member => Reader.cell_shorter read member
  · intro cell value read
    have wide := nodes_le value
    have deep := depth_le value
    rw [toCell_of_ofCell cell value read] at wide deep
    constructor <;> omega

/-- An array in an array: three values, of which all are inside of each other, in forty bytes. -/
theorem nesting_bounded_tight :
    let value := array [array [null]]
    let cell := toCell value
    cell.payload.length = 40 ∧ ofCell cell = .ok value ∧
      (Codec.list Cell.codec).read cell.payload = .ok ([toCell (array [null])], []) ∧
      8 + (12 + (toCell (array [null])).payload.length) = cell.payload.length ∧
      value.nodes = 3 ∧ value.nodes ≤ 1 + cell.payload.length / 12 ∧
      value.depth = 3 ∧ value.depth ≤ 1 + cell.payload.length / 20 := by
  intro value cell
  have size : cell.payload.length = 40 := by decide +kernel
  have storable : value.Storable := storable_of_small value (by rw [size]; decide)
  have back : ofCell cell = .ok value := ofCell_toCell value storable
  have read : (Codec.list Cell.codec).read cell.payload = .ok ([toCell (array [null])], []) :=
    nestedCells_eq_ok.mp (nestedCells_write storable.1)
  obtain ⟨wide, deep⟩ := nesting_bounded.2.2 cell value back
  exact ⟨size, back, read, (nesting_bounded.1 _ _ read).1, by decide, wide, by decide, deep⟩

end PagedResults.Value
