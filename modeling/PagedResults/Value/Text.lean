import PagedResults.Text.Written
import PagedResults.Value

/-! # The text of a value

Numbers are decimal and never have an exponent. A scaled number has exactly as many decimal places as
its scale; a scale above 65534 has no text and halts the thread that asks for it.
-/

namespace PagedResults

/-- The number `unscaled / 10 ^ scale` with all its decimal places. -/
def Decimal.scaled (unscaled : Int) (scale : Nat) : Except Halt (List Char) :=
  if 65535 ≤ scale then .error .widthOutOfRange
  else
    let magnitude := fixedPoint scale unscaled.natAbs
    .ok (if unscaled < 0 then '-' :: magnitude else magnitude)

namespace Value

mutual

/-- A value as it is written. The items of an array are written one after another. -/
def write : Value → Written
  | null => .whole "NULL"
  | bool value => .whole (if value then "true" else "false")
  | int8 value => .whole (toString value.toInt)
  | int16 value => .whole (toString value.toInt)
  | int32 value => .whole (toString value.toInt)
  | int64 value => .whole (toString value.toInt)
  | float32 pattern => .whole (String.ofList (Decimal.BinaryFormat.single.text pattern.toNat))
  | float64 pattern => .whole (String.ofList (Decimal.BinaryFormat.double.text pattern.toNat))
  | decimal unscaled scale =>
      .piece ((Decimal.scaled unscaled.toInt scale.toNat).map String.ofList)
  | text value => .whole value
  | bytes value => .whole ("0x" ++ value.toHex)
  | date days => .whole s!"date({days.toInt})"
  | time micros => .whole s!"time({micros.toInt})"
  | timestamp micros => .whole s!"timestamp({micros.toInt})"
  | lob handle => .whole s!"lob#{handle.id}[{handle.length}]"
  | array items => .whole "[" ++ .joined ", " (writeAll items) ++ .whole "]"

/-- Several values as they are written. -/
def writeAll : List Value → List Written
  | [] => []
  | value :: rest => write value :: writeAll rest

end

/-- The text of a value. -/
def toText (value : Value) : Except Halt String := value.write.result

end Value

end PagedResults
