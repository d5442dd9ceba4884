import PagedResults.Codec.Length

/-! # Values as cells

A value of fixed width becomes a little-endian word, a text its UTF-8 bytes, and an array the encoded
list of the cells of its items. Reading accepts no other payload, so that each value has one cell.
An array nested in an array is shorter than the array around it, and hence reading ends.
-/

namespace PagedResults

/-- Why a cell holds no value. -/
inductive CellError where
  | nullCarries (length : Nat)
  | invalidBoolean
  | wrongLength (expected found : Nat)
  | invalidText (cause : Utf8.Error)
  | invalidArray (cause : DecodeError)
  | trailingBytes
deriving DecidableEq, Repr

/-- The error in words. -/
def CellError.message : CellError → String
  | .nullCarries length => s!"null cell carries {length} bytes"
  | .invalidBoolean => "invalid boolean payload"
  | .wrongLength expected found => s!"expected {expected} bytes, found {found}"
  | .invalidText cause => s!"invalid utf-8: {cause.message}"
  | .invalidArray cause => s!"invalid array payload: {cause.message}"
  | .trailingBytes => "trailing bytes after array payload"

namespace Value

mutual

/-- The cell that carries a value. -/
def toCell : Value → Cell
  | null => ⟨.null, []⟩
  | bool value => ⟨.bool, [if value then 1 else 0]⟩
  | int8 value => ⟨.int8, LittleEndian.write 1 value.toUInt8.toNat⟩
  | int16 value => ⟨.int16, LittleEndian.write 2 value.toUInt16.toNat⟩
  | int32 value => ⟨.int32, LittleEndian.write 4 value.toUInt32.toNat⟩
  | int64 value => ⟨.int64, LittleEndian.write 8 value.toUInt64.toNat⟩
  | float32 pattern => ⟨.float32, LittleEndian.write 4 pattern.toNat⟩
  | float64 pattern => ⟨.float64, LittleEndian.write 8 pattern.toNat⟩
  | decimal unscaled scale =>
      ⟨.decimal, LittleEndian.write 16 unscaled.toNat ++ LittleEndian.write 4 scale.toNat⟩
  | text value => ⟨.text, Utf8.encode value⟩
  | bytes value => ⟨.bytes, value⟩
  | date days => ⟨.date, LittleEndian.write 4 days.toUInt32.toNat⟩
  | time micros => ⟨.time, LittleEndian.write 8 micros.toUInt64.toNat⟩
  | timestamp micros => ⟨.timestamp, LittleEndian.write 8 micros.toUInt64.toNat⟩
  | lob handle =>
      ⟨.lob, LittleEndian.write 8 handle.id.toNat ++ LittleEndian.write 8 handle.length.toNat⟩
  | array items => ⟨.array, (Codec.list Cell.codec).write (toCells items)⟩

/-- The cells that carry several values. -/
def toCells : List Value → List Cell
  | [] => []
  | value :: rest => toCell value :: toCells rest

end

/-- A payload that must be a word of `width` bytes. -/
def fixedWord (width : Nat) (payload : Bytes) : Outcome CellError Nat :=
  if payload.length = width then .ok (LittleEndian.read payload)
  else Outcome.fail (.wrongLength width payload.length)

/-- A payload that must consist of two words. -/
def fixedWords (first second : Nat) (payload : Bytes) : Outcome CellError (Nat × Nat) :=
  if payload.length = first + second then
    .ok (LittleEndian.read (payload.take first), LittleEndian.read (payload.drop first))
  else Outcome.fail (.wrongLength (first + second) payload.length)

/-- The cells of an array, which must fill its payload. -/
def nestedCells (payload : Bytes) : Outcome CellError (List Cell) :=
  match (Codec.list Cell.codec).read payload with
  | .ok (cells, []) => .ok cells
  | .ok (_, _ :: _) => Outcome.fail .trailingBytes
  | .error (.error cause) => Outcome.fail (.invalidArray cause)
  | .error (.halt reason) => Outcome.halt reason

theorem nestedCells_eq_ok {payload : Bytes} {cells : List Cell} :
    nestedCells payload = .ok cells ↔ (Codec.list Cell.codec).read payload = .ok (cells, []) := by
  rw [nestedCells]
  split <;> simp_all [Outcome.fail, Outcome.halt]

/-- The value that a cell carries. -/
def ofCell (cell : Cell) : Outcome CellError Value :=
  match cell.kind with
  | .null => if cell.payload = [] then .ok null else Outcome.fail (.nullCarries cell.payload.length)
  | .bool =>
      if cell.payload = [0] then .ok (bool false)
      else if cell.payload = [1] then .ok (bool true)
      else Outcome.fail .invalidBoolean
  | .int8 => (fixedWord 1 cell.payload).map fun word => int8 (UInt8.ofNat word).toInt8
  | .int16 => (fixedWord 2 cell.payload).map fun word => int16 (UInt16.ofNat word).toInt16
  | .int32 => (fixedWord 4 cell.payload).map fun word => int32 (UInt32.ofNat word).toInt32
  | .int64 => (fixedWord 8 cell.payload).map fun word => int64 (UInt64.ofNat word).toInt64
  | .float32 => (fixedWord 4 cell.payload).map fun word => float32 (UInt32.ofNat word)
  | .float64 => (fixedWord 8 cell.payload).map fun word => float64 (UInt64.ofNat word)
  | .decimal => (fixedWords 16 4 cell.payload).map fun (unscaled, scale) =>
      decimal (BitVec.ofNat 128 unscaled) (UInt32.ofNat scale)
  | .text =>
      match Utf8.decode cell.payload with
      | .ok value => .ok (text value)
      | .error cause => Outcome.fail (.invalidText cause)
  | .bytes => .ok (bytes cell.payload)
  | .date => (fixedWord 4 cell.payload).map fun word => date (UInt32.ofNat word).toInt32
  | .time => (fixedWord 8 cell.payload).map fun word => time (UInt64.ofNat word).toInt64
  | .timestamp => (fixedWord 8 cell.payload).map fun word => timestamp (UInt64.ofNat word).toInt64
  | .lob => (fixedWords 8 8 cell.payload).map fun (id, length) =>
      lob ⟨UInt64.ofNat id, UInt64.ofNat length⟩
  | .array =>
      match _nested : nestedCells cell.payload with
      | .ok cells =>
          (cells.attach.mapM fun (inner : { inner // inner ∈ cells }) => ofCell inner.val).map array
      | .error failure => .error failure
termination_by cell.payload.length
decreasing_by
  have shorter := Reader.cell_shorter (nestedCells_eq_ok.mp _nested) inner.property
  omega

end Value

end PagedResults
