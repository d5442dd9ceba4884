import PagedResults.Proofs.Cells
import PagedResults.Proofs.Codec.Exact

/-! # Values and cells correspond one to one

A cell from which a value is read is the cell of this value: every kind has one layout, and an array has
one list of cells. The argument follows the nesting of arrays, whose items lie inside a shorter payload.
-/

namespace PagedResults

theorem Kind.codec_exact : Kind.codec.Exact := by
  refine (Reader.Variants.of_pure (fun index kind entry => ?_) fun _ => trivial).exact rfl
    Kind.codec_roundTrips
  have distinct : Kind.all.Nodup := by decide
  have small : kind.number < Kind.all.length := (List.getElem?_eq_some_iff.mp kind.all_number).1
  have same := (List.getElem?_inj small distinct).mp (kind.all_number.trans entry.symm)
  rw [Nat.zero_add, ← same]
  rfl

theorem Cell.codec_exact : Cell.codec.Exact :=
  (Kind.codec_exact.pair Codec.bytes_exact).through (fun _ => rfl) (fun _ => rfl)

theorem Cell.cells_exact : (Codec.list codec).Exact := codec_exact.list codec_takes (by decide)

namespace Value

variable {value : Value} {payload : Bytes}

/-- A payload from which a value of fixed width is read is the word of a number. -/
theorem fixedWord_map_eq_ok {width : Nat} {build : Nat → Value}
    (read : (fixedWord width payload).map build = .ok value) :
    ∃ number < LittleEndian.wordCount width, payload = LittleEndian.write width number ∧ value = build number := by
  rw [fixedWord] at read
  split at read
  · next size =>
    refine ⟨LittleEndian.read payload, size ▸ LittleEndian.read_lt payload, ?_, (Except.ok.inj read).symm⟩
    rw [← size, LittleEndian.write_read]
  · contradiction

private theorem fixedWords_map_eq_ok {first second : Nat} {build : Nat × Nat → Value}
    (read : (fixedWords first second payload).map build = .ok value) :
    ∃ number < LittleEndian.wordCount first, ∃ other < LittleEndian.wordCount second,
      payload = LittleEndian.write first number ++ LittleEndian.write second other ∧
      value = build (number, other) := by
  rw [fixedWords] at read
  split at read
  · next size =>
    have front : (payload.take first).length = first := by rw [List.length_take]; omega
    have back : (payload.drop first).length = second := by rw [List.length_drop]; omega
    have head := LittleEndian.write_read (payload.take first)
    have headSmall := LittleEndian.read_lt (payload.take first)
    rw [front] at head headSmall
    have tail := LittleEndian.write_read (payload.drop first)
    have tailSmall := LittleEndian.read_lt (payload.drop first)
    rw [back] at tail tailSmall
    refine ⟨LittleEndian.read (payload.take first), headSmall,
      LittleEndian.read (payload.drop first), tailSmall, ?_, (Except.ok.inj read).symm⟩
    rw [head, tail, List.take_append_drop]
  · contradiction

/-- The items of an array are read from their own cells if each of them is. -/
theorem toCells_of_mapM {cells : List Cell} {values : List Value}
    (each : ∀ cell ∈ cells, ∀ value, ofCell cell = .ok value → toCell value = cell)
    (read : cells.mapM ofCell = .ok values) : toCells values = cells := by
  induction cells generalizing values with
  | nil =>
    rw [List.mapM_nil] at read
    obtain rfl := Except.ok.inj read
    rw [toCells]
  | cons cell cells ih =>
    obtain ⟨here, others⟩ := List.forall_mem_cons.mp each
    rw [List.mapM_cons] at read
    rcases one : ofCell cell with failure | value
    · rw [one] at read
      contradiction
    · rcases all : cells.mapM ofCell with failure | values
      · rw [one, all] at read
        contradiction
      · rw [one, all] at read
        obtain rfl := Except.ok.inj read
        rw [toCells, here value one, ih others all]

/-- A value is read from its own cell only. -/
theorem toCell_of_ofCell : (cell : Cell) → (value : Value) → ofCell cell = .ok value → toCell value = cell := by
  rintro ⟨kind, payload⟩ value read
  cases kind <;> rw [ofCell] at read <;> dsimp only at read
  case null =>
    split at read
    · next empty =>
      obtain rfl := Except.ok.inj read
      rw [toCell, empty]
    · contradiction
  case bool =>
    split at read
    · next zero =>
      obtain rfl := Except.ok.inj read
      rw [zero]
      rfl
    · split at read
      · next one =>
        obtain rfl := Except.ok.inj read
        rw [one]
        rfl
      · contradiction
  case int8 =>
    obtain ⟨number, small, rfl, rfl⟩ := fixedWord_map_eq_ok read
    rw [toCell, UInt8.toUInt8_toInt8, UInt8.toNat_ofNat_of_lt' small]
  case int16 =>
    obtain ⟨number, small, rfl, rfl⟩ := fixedWord_map_eq_ok read
    rw [toCell, UInt16.toUInt16_toInt16, UInt16.toNat_ofNat_of_lt' small]
  case int32 =>
    obtain ⟨number, small, rfl, rfl⟩ := fixedWord_map_eq_ok read
    rw [toCell, UInt32.toUInt32_toInt32, UInt32.toNat_ofNat_of_lt' small]
  case int64 =>
    obtain ⟨number, small, rfl, rfl⟩ := fixedWord_map_eq_ok read
    rw [toCell, UInt64.toUInt64_toInt64, UInt64.toNat_ofNat_of_lt' small]
  case float32 =>
    obtain ⟨number, small, rfl, rfl⟩ := fixedWord_map_eq_ok read
    rw [toCell, UInt32.toNat_ofNat_of_lt' small]
  case float64 =>
    obtain ⟨number, small, rfl, rfl⟩ := fixedWord_map_eq_ok read
    rw [toCell, UInt64.toNat_ofNat_of_lt' small]
  case decimal =>
    obtain ⟨unscaled, fits, scale, small, rfl, rfl⟩ := fixedWords_map_eq_ok read
    have unscaledFits : unscaled < 2 ^ 128 := fits
    rw [toCell, BitVec.toNat_ofNat, Nat.mod_eq_of_lt unscaledFits, UInt32.toNat_ofNat_of_lt' small]
  case text =>
    split at read
    · next text decoded =>
      obtain rfl := Except.ok.inj read
      rw [toCell, Utf8.encode_of_decode decoded]
    · contradiction
  case bytes =>
    obtain rfl := Except.ok.inj read
    rw [toCell]
  case date =>
    obtain ⟨number, small, rfl, rfl⟩ := fixedWord_map_eq_ok read
    rw [toCell, UInt32.toUInt32_toInt32, UInt32.toNat_ofNat_of_lt' small]
  case time =>
    obtain ⟨number, small, rfl, rfl⟩ := fixedWord_map_eq_ok read
    rw [toCell, UInt64.toUInt64_toInt64, UInt64.toNat_ofNat_of_lt' small]
  case timestamp =>
    obtain ⟨number, small, rfl, rfl⟩ := fixedWord_map_eq_ok read
    rw [toCell, UInt64.toUInt64_toInt64, UInt64.toNat_ofNat_of_lt' small]
  case lob =>
    obtain ⟨id, fits, length, small, rfl, rfl⟩ := fixedWords_map_eq_ok read
    rw [toCell, UInt64.toNat_ofNat_of_lt' fits, UInt64.toNat_ofNat_of_lt' small]
  case array =>
    split at read
    · next cells nested =>
      have filled := nestedCells_eq_ok.mp nested
      rw [List.mapM_subtype (fun _ _ => rfl), List.unattach_attach] at read
      rcases all : cells.mapM ofCell with failure | values
      · rw [all] at read
        contradiction
      · rw [all] at read
        obtain rfl := Except.ok.inj read
        have items : toCells values = cells := toCells_of_mapM (fun inner member value read =>
          have _shorter := Reader.cell_shorter filled member
          toCell_of_ofCell inner value read) all
        have written := Cell.cells_exact.canonical.write_read filled
        rw [List.append_nil] at written
        rw [toCell, items, written]
    · contradiction
termination_by cell => cell.payload.length
decreasing_by omega

mutual

/-- The cells of the arrays in a value that was read are in memory. -/
theorem storable_of_ofCell : (value : Value) → ofCell (toCell value) = .ok value → value.Storable
  | .array items, read => by
    rw [toCell] at read
    cases nested : nestedCells ((Codec.list Cell.codec).write (toCells items)) with
    | error failure =>
      rw [ofCell_array_error nested] at read
      contradiction
    | ok cells =>
      rw [ofCell_array nested] at read
      rcases all : cells.mapM ofCell with failure | values
      · rw [all] at read
        contradiction
      · rw [all] at read
        obtain rfl : items = values := (Value.array.inj (Except.ok.inj read)).symm
        have same : toCells items = cells :=
          toCells_of_mapM (fun inner _ value => toCell_of_ofCell inner value) all
        rw [← same] at all nested
        rw [Storable]
        exact ⟨Cell.cells_exact.canonical.storable (nestedCells_eq_ok.mp nested),
          storableAll_of_mapM items all⟩
  | .null, _ | .bool _, _ | .int8 _, _ | .int16 _, _ | .int32 _, _ | .int64 _, _ | .float32 _, _
  | .float64 _, _ | .decimal _ _, _ | .text _, _ | .bytes _, _ | .date _, _ | .time _, _
  | .timestamp _, _ | .lob _, _ => trivial

private theorem storableAll_of_mapM : (values : List Value) → (toCells values).mapM ofCell = .ok values →
    StorableAll values
  | [], _ => trivial
  | value :: values, read => by
    rw [toCells, List.mapM_cons] at read
    rcases one : ofCell (toCell value) with failure | first
    · rw [one] at read
      contradiction
    · rcases all : (toCells values).mapM ofCell with failure | others
      · rw [one, all] at read
        contradiction
      · rw [one, all] at read
        obtain ⟨head, tail⟩ := List.cons.inj (Except.ok.inj read)
        rw [head] at one
        rw [tail] at all
        rw [StorableAll]
        exact ⟨storable_of_ofCell value one, storableAll_of_mapM values all⟩

end

/-- The cell of a value gives the value back, and no other cell does. The values that are read from cells
are those whose arrays can be in memory as cells. -/
theorem cells_oneToOne :
    (∀ value, value.Storable → ofCell (toCell value) = .ok value) ∧
    (∀ cell value, ofCell cell = .ok value → value.Storable ∧ toCell value = cell) ∧
    (∀ value, value.Storable → ∀ cell, ofCell cell = .ok value ↔ cell = toCell value) := by
  refine ⟨ofCell_toCell, fun cell value read => ?_, fun value storable cell => ⟨fun read => ?_, ?_⟩⟩
  · have same := toCell_of_ofCell cell value read
    rw [← same] at read
    exact ⟨storable_of_ofCell value read, same⟩
  · exact (toCell_of_ofCell cell value read).symm
  · rintro rfl
    exact ofCell_toCell value storable

/-- A signalling NaN, a missing value and a text two levels deep, in an array and back. -/
theorem cells_oneToOne_nested :
    let value := array [float32 0x7f800001, array [null, array [text "é"]]]
    value.Storable ∧ ofCell (toCell value) = .ok value ∧
      ∀ cell, ofCell cell = .ok value ↔ cell = toCell value := by
  intro value
  have storable : value.Storable := storable_of_small value (by decide +kernel)
  exact ⟨storable, cells_oneToOne.1 value storable, cells_oneToOne.2.2 value storable⟩

end Value

end PagedResults
