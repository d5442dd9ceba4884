import PagedResults.Proofs.Codec
import PagedResults.Row

/-! # Values survive their journey as cells

The cell of a value gives the value back, bit for bit and through any nesting of arrays, as far as the cells
of these can be in memory. Rows and pages of such cells are read back as they were written.
-/

namespace PagedResults

theorem Kind.codec_roundTrips : Kind.codec.RoundTrips where
  read_write kind rest _ := by
    have entry : (Kind.all.map (pure : Kind → Reader Kind))[kind.number]? = some (pure kind) := by
      rw [List.getElem?_map, Kind.all_number]
      rfl
    have small : kind.number < 2 ^ 32 := by cases kind <;> decide
    exact Reader.choice_write entry small rest
  storable _ _ := trivial

namespace Cell

theorem codec_roundTrips : codec.RoundTrips :=
  (Kind.codec_roundTrips.pair Codec.bytes_roundTrips).through fun _ => rfl

/-- The kind, the length and the payload. -/
theorem length_write (cell : Cell) : (codec.write cell).length = 12 + cell.payload.length := by
  change (LittleEndian.write 4 cell.kind.number ++
    (LittleEndian.write 8 cell.payload.length ++ cell.payload)).length = _
  simp only [List.length_append, LittleEndian.length_write]
  omega

theorem codec_takes : codec.Takes where
  size_pos := by decide
  size_le cell := by
    change 32 ≤ _
    rw [length_write]
    omega

theorem cells_roundTrips : (Codec.list codec).RoundTrips := codec_roundTrips.list codec_takes

end Cell

namespace Value

private theorem fixedWord_write {width number : Nat} (small : number < LittleEndian.wordCount width) :
    fixedWord width (LittleEndian.write width number) = .ok number := by
  rw [fixedWord, if_pos (LittleEndian.length_write _ _), LittleEndian.read_write, Nat.mod_eq_of_lt small]

private theorem fixedWords_write {first second number other : Nat} (small : number < LittleEndian.wordCount first)
    (little : other < LittleEndian.wordCount second) :
    fixedWords first second (LittleEndian.write first number ++ LittleEndian.write second other) =
      .ok (number, other) := by
  have size : (LittleEndian.write first number ++ LittleEndian.write second other).length =
      first + second := by
    rw [List.length_append, LittleEndian.length_write, LittleEndian.length_write]
  have cut : (LittleEndian.write first number).length = first := LittleEndian.length_write _ _
  rw [fixedWords, if_pos size, List.take_left' cut, List.drop_left' cut, LittleEndian.read_write,
    LittleEndian.read_write, Nat.mod_eq_of_lt small, Nat.mod_eq_of_lt little]

theorem nestedCells_write {cells : List Cell} (storable : (Codec.list Cell.codec).Storable cells) :
    nestedCells ((Codec.list Cell.codec).write cells) = .ok cells := by
  have read := Cell.cells_roundTrips.read_write cells [] storable
  rw [List.append_nil] at read
  exact nestedCells_eq_ok.mpr read

/-- A cell of an array carries the values of the cells in its payload. -/
theorem ofCell_array {payload : Bytes} {cells : List Cell} (nested : nestedCells payload = .ok cells) :
    ofCell ⟨.array, payload⟩ = (cells.mapM ofCell).map array := by
  rw [ofCell]
  dsimp only
  split
  · next found same =>
    obtain rfl : cells = found := Except.ok.inj (nested.symm.trans same)
    rw [List.mapM_subtype (fun _ _ => rfl), List.unattach_attach]
  · next failure same =>
    rw [nested] at same
    contradiction

/-- A cell of an array without cells in its payload has their failure. -/
theorem ofCell_array_error {payload : Bytes} {failure : Failure CellError}
    (nested : nestedCells payload = .error failure) : ofCell ⟨.array, payload⟩ = .error failure := by
  rw [ofCell]
  dsimp only
  split
  · next found same =>
    rw [nested] at same
    contradiction
  · next other same =>
    obtain rfl : failure = other := Except.error.inj (nested.symm.trans same)
    rfl

/-! ## Arrays in memory -/

mutual

/-- The cells of every array in a value can be in memory. -/
def Storable : Value → Prop
  | array items => (Codec.list Cell.codec).Storable (toCells items) ∧ StorableAll items
  | _ => True

/-- The cells of every array in several values can be in memory. -/
def StorableAll : List Value → Prop
  | [] => True
  | value :: rest => Storable value ∧ StorableAll rest

end

theorem storableAll_iff {values : List Value} : StorableAll values ↔ ∀ value ∈ values, value.Storable := by
  induction values with
  | nil => simp [StorableAll]
  | cons value values ih => rw [StorableAll, List.forall_mem_cons, ih]

mutual

/-- The arrays in a value take in memory at most three times the bytes of its cell. -/
theorem storable_of_small : (value : Value) →
    3 * (toCell value).payload.length ≤ Bytes.capacity → value.Storable
  | .array items, bounded => by
    rw [toCell] at bounded
    have size := Codec.length_list Cell.codec (toCells items)
    dsimp only at bounded
    rw [Storable]
    exact ⟨Cell.cells_roundTrips.storable _ bounded, storableAll_of_small items (by omega)⟩
  | .null, _ | .bool _, _ | .int8 _, _ | .int16 _, _ | .int32 _, _ | .int64 _, _ | .float32 _, _
  | .float64 _, _ | .decimal _ _, _ | .text _, _ | .bytes _, _ | .date _, _ | .time _, _
  | .timestamp _, _ | .lob _, _ => trivial

theorem storableAll_of_small : (values : List Value) →
    3 * ((toCells values).flatMap Cell.codec.write).length ≤ Bytes.capacity → StorableAll values
  | [], _ => trivial
  | value :: values, bounded => by
    rw [toCells, List.flatMap_cons, List.length_append, Cell.length_write] at bounded
    rw [StorableAll]
    exact ⟨storable_of_small value (by omega), storableAll_of_small values (by omega)⟩

end

/-! ## There and back -/

mutual

/-- A value is read back from its cell. -/
theorem ofCell_toCell : (value : Value) → value.Storable → ofCell (toCell value) = .ok value
  | .null, _ => by rw [toCell, ofCell]; rfl
  | .bool value, _ => by cases value <;> (rw [toCell, ofCell]; rfl)
  | .int8 value, _ => by
    rw [toCell, ofCell]
    dsimp only
    rw [fixedWord_write value.toUInt8.toNat_lt, Except.map, UInt8.ofNat_toNat, Int8.toInt8_toUInt8]
  | .int16 value, _ => by
    rw [toCell, ofCell]
    dsimp only
    rw [fixedWord_write value.toUInt16.toNat_lt, Except.map, UInt16.ofNat_toNat, Int16.toInt16_toUInt16]
  | .int32 value, _ => by
    rw [toCell, ofCell]
    dsimp only
    rw [fixedWord_write value.toUInt32.toNat_lt, Except.map, UInt32.ofNat_toNat, Int32.toInt32_toUInt32]
  | .int64 value, _ => by
    rw [toCell, ofCell]
    dsimp only
    rw [fixedWord_write value.toUInt64.toNat_lt, Except.map, UInt64.ofNat_toNat, Int64.toInt64_toUInt64]
  | .float32 pattern, _ => by
    rw [toCell, ofCell]
    dsimp only
    rw [fixedWord_write pattern.toNat_lt, Except.map, UInt32.ofNat_toNat]
  | .float64 pattern, _ => by
    rw [toCell, ofCell]
    dsimp only
    rw [fixedWord_write pattern.toNat_lt, Except.map, UInt64.ofNat_toNat]
  | .decimal unscaled scale, _ => by
    rw [toCell, ofCell]
    dsimp only
    rw [fixedWords_write unscaled.isLt scale.toNat_lt]
    simp only [Except.map, BitVec.ofNat_toNat, BitVec.setWidth_eq, UInt32.ofNat_toNat]
  | .text value, _ => by
    rw [toCell, ofCell]
    dsimp only
    rw [Utf8.decode_encode]
  | .bytes value, _ => by rw [toCell, ofCell]
  | .date days, _ => by
    rw [toCell, ofCell]
    dsimp only
    rw [fixedWord_write days.toUInt32.toNat_lt, Except.map, UInt32.ofNat_toNat, Int32.toInt32_toUInt32]
  | .time micros, _ => by
    rw [toCell, ofCell]
    dsimp only
    rw [fixedWord_write micros.toUInt64.toNat_lt, Except.map, UInt64.ofNat_toNat, Int64.toInt64_toUInt64]
  | .timestamp micros, _ => by
    rw [toCell, ofCell]
    dsimp only
    rw [fixedWord_write micros.toUInt64.toNat_lt, Except.map, UInt64.ofNat_toNat, Int64.toInt64_toUInt64]
  | .lob handle, _ => by
    rw [toCell, ofCell]
    dsimp only
    rw [fixedWords_write handle.id.toNat_lt handle.length.toNat_lt]
    simp only [Except.map, UInt64.ofNat_toNat]
  | .array items, storable => by
    rw [Storable] at storable
    rw [toCell, ofCell_array (nestedCells_write storable.1), mapM_toCells items storable.2]
    rfl

/-- The items of an array are read back from their cells. -/
theorem mapM_toCells : (values : List Value) → StorableAll values →
    (toCells values).mapM ofCell = .ok values
  | [], _ => by rw [toCells, List.mapM_nil]; rfl
  | value :: values, storable => by
    rw [StorableAll] at storable
    rw [toCells, List.mapM_cons, ofCell_toCell value storable.1, mapM_toCells values storable.2]
    rfl

end

theorem length_toCells (values : List Value) : (toCells values).length = values.length := by
  induction values with
  | nil => rw [toCells, List.length_nil, List.length_nil]
  | cons value values ih => rw [toCells, List.length_cons, List.length_cons, ih]

end Value

/-! ## Rows and pages -/

private theorem Row.valuesOf_toCells (number : UInt64) (column : Nat) {values : List Value}
    (storable : ∀ value ∈ values, value.Storable) :
    Row.valuesOf number column (Value.toCells values) = .ok values := by
  induction values generalizing column with
  | nil => rw [Value.toCells, valuesOf]
  | cons value values ih =>
    obtain ⟨here, others⟩ := List.forall_mem_cons.mp storable
    rw [Value.toCells, valuesOf, Value.ofCell_toCell value here, ih (column + 1) others]
    rfl

/-- The values of a row can be in memory, as cells too. -/
def Row.Storable (row : Row) : Prop := ∀ value ∈ row.values, value.Storable

theorem Row.storable_of_small {row : Row}
    (bounded : 3 * ((Codec.list Cell.codec).write row.toCells).length ≤ Bytes.capacity) : row.Storable := by
  rw [Codec.length_list, toCells] at bounded
  exact Value.storableAll_iff.mp (Value.storableAll_of_small row.values (by omega))

/-- A row with as many values as there are columns is read back. -/
theorem Row.ofCells_toCells (number : UInt64) {arity : Nat} {row : Row}
    (complete : row.values.length = arity) (storable : row.Storable) :
    Row.ofCells number arity row.toCells = .ok row := by
  have cells : row.toCells.length = arity := (Value.length_toCells row.values).trans complete
  rw [ofCells, if_pos cells, toCells, valuesOf_toCells number 0 storable]
  rfl

/-- The rows of a page are read back, as long as their positions are numbers of 64 bits. -/
theorem Page.rowsOf_toCells {offset : UInt64} {arity : Nat} (index : Nat) (rows : List Row)
    (complete : ∀ row ∈ rows, row.values.length = arity)
    (addressable : offset.toNat + index + rows.length ≤ UInt64.size)
    (storable : ∀ row ∈ rows, row.Storable) :
    Page.rowsOf offset arity index (rows.map Row.toCells) = .ok rows := by
  induction rows generalizing index with
  | nil => rw [List.map_nil, rowsOf]
  | cons row rows ih =>
    obtain ⟨full, others⟩ := List.forall_mem_cons.mp complete
    obtain ⟨here, behind⟩ := List.forall_mem_cons.mp storable
    rw [List.length_cons] at addressable
    have number : advance offset index = .ok (offset + UInt64.ofNat index) := by
      rw [advance, if_pos (by omega)]
    have rest := ih (index + 1) others (by omega) behind
    rw [List.map_cons, rowsOf, number]
    simp only [bind, Except.bind, rest, Row.ofCells_toCells _ full here]
    rfl

end PagedResults
