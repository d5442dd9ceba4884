import PagedResults.Codec
import PagedResults.Decimal.Binary

/-! # Values and cells

A value is what a column of a row holds. It travels as a cell: the kind of the value and a payload of
bytes. Floating-point values are kept as bit patterns, so that nothing is lost on the way; `agrees`
compares values as a program would that computes with them.
-/

namespace PagedResults

/-- The kinds of values, in the order of their numbers. -/
inductive Kind where
  | null | bool | int8 | int16 | int32 | int64 | float32 | float64 | decimal | text | bytes | date
  | time | timestamp | lob | array
deriving DecidableEq, Repr, Inhabited

namespace Kind

def all : List Kind := [.null, .bool, .int8, .int16, .int32, .int64, .float32, .float64, .decimal,
  .text, .bytes, .date, .time, .timestamp, .lob, .array]

/-- The number of a kind. -/
def number : Kind → Nat
  | .null => 0 | .bool => 1 | .int8 => 2 | .int16 => 3 | .int32 => 4 | .int64 => 5 | .float32 => 6
  | .float64 => 7 | .decimal => 8 | .text => 9 | .bytes => 10 | .date => 11 | .time => 12
  | .timestamp => 13 | .lob => 14 | .array => 15

theorem all_number (kind : Kind) : all[kind.number]? = some kind := by cases kind <;> rfl

/-- The name of a kind. -/
def name : Kind → String
  | .null => "Null" | .bool => "Bool" | .int8 => "Int8" | .int16 => "Int16" | .int32 => "Int32"
  | .int64 => "Int64" | .float32 => "Float32" | .float64 => "Float64" | .decimal => "Decimal"
  | .text => "Text" | .bytes => "Bytes" | .date => "Date" | .time => "Time"
  | .timestamp => "Timestamp" | .lob => "Lob" | .array => "Array"

def codec : Codec Kind where
  write kind := Codec.tag kind.number
  read := Reader.choice "CellKind" (all.map pure)
  Storable _ := True

end Kind

/-- A value in transit. -/
structure Cell where
  kind : Kind
  payload : Bytes
deriving DecidableEq, Repr

/-- The payload and the kind, padded to a multiple of eight bytes. -/
instance : Layout Cell := ⟨Layout.size Bytes + 8⟩

def Cell.codec : Codec Cell :=
  (Kind.codec.pair Codec.bytes).through (fun cell => (cell.kind, cell.payload))
    (fun (kind, payload) => ⟨kind, payload⟩)

/-- Reference to a large object that stays on the server. -/
structure Lob where
  id : UInt64
  length : UInt64
deriving DecidableEq, Repr

/-- Signed 128-bit numbers. -/
abbrev Int128 := BitVec 128

/-- What a column of a row holds. -/
inductive Value where
  | null
  | bool (value : Bool)
  | int8 (value : Int8)
  | int16 (value : Int16)
  | int32 (value : Int32)
  | int64 (value : Int64)
  /-- The bit pattern of a single-precision number. -/
  | float32 (pattern : UInt32)
  /-- The bit pattern of a double-precision number. -/
  | float64 (pattern : UInt64)
  /-- The number `unscaled / 10 ^ scale`. -/
  | decimal (unscaled : Int128) (scale : UInt32)
  | text (value : String)
  | bytes (value : Bytes)
  /-- Days since 1 January 1970. -/
  | date (days : Int32)
  /-- Microseconds since midnight. -/
  | time (micros : Int64)
  /-- Microseconds since the start of 1970. -/
  | timestamp (micros : Int64)
  | lob (handle : Lob)
  | array (items : List Value)
deriving Repr, Inhabited

namespace Value

def kind : Value → Kind
  | null => .null
  | bool _ => .bool
  | int8 _ => .int8
  | int16 _ => .int16
  | int32 _ => .int32
  | int64 _ => .int64
  | float32 _ => .float32
  | float64 _ => .float64
  | decimal _ _ => .decimal
  | text _ => .text
  | bytes _ => .bytes
  | date _ => .date
  | time _ => .time
  | timestamp _ => .timestamp
  | lob _ => .lob
  | array _ => .array

def isNull : Value → Bool
  | null => true
  | _ => false

/-- The value of an integer of any width. -/
def asInt64? : Value → Option Int64
  | int8 value => some value.toInt64
  | int16 value => some value.toInt64
  | int32 value => some value.toInt64
  | int64 value => some value
  | _ => none

/-- The content of a text. -/
def asText? : Value → Option String
  | text value => some value
  | _ => none

mutual

/-- Whether two values are equal as values: equal kinds and contents, where floating-point numbers
are compared as numbers. -/
def agrees : Value → Value → Bool
  | null, null => true
  | bool left, bool right => left == right
  | int8 left, int8 right => left == right
  | int16 left, int16 right => left == right
  | int32 left, int32 right => left == right
  | int64 left, int64 right => left == right
  | float32 left, float32 right => Decimal.BinaryFormat.single.agree left.toNat right.toNat
  | float64 left, float64 right => Decimal.BinaryFormat.double.agree left.toNat right.toNat
  | decimal left scale, decimal right other => left == right && scale == other
  | text left, text right => left == right
  | bytes left, bytes right => left == right
  | date left, date right => left == right
  | time left, time right => left == right
  | timestamp left, timestamp right => left == right
  | lob left, lob right => left == right
  | array left, array right => agreeAll left right
  | _, _ => false

/-- Whether two lists hold equal values in the same order. -/
def agreeAll : List Value → List Value → Bool
  | [], [] => true
  | left :: lefts, right :: rights => agrees left right && agreeAll lefts rights
  | _, _ => false

end

end Value

end PagedResults
