/-! # Byte strings

Messages are built and read as lists of bytes. Streams move them in packed buffers; `toBuffer` and
`ofBuffer` go from one form to the other and back.
-/

namespace PagedResults

abbrev Bytes := List UInt8

namespace Bytes

/-- The most bytes that can be set aside at once. That less than this may be too much for a machine is left
out. -/
def capacity : Nat := UInt64.size / 2 - 1

/-- Pack a byte string for a stream. -/
def toBuffer (bytes : Bytes) : ByteArray := ⟨bytes.toArray⟩

/-- Unpack what a stream delivered. -/
def ofBuffer (buffer : ByteArray) : Bytes := buffer.data.toList

@[simp] theorem ofBuffer_toBuffer (bytes : Bytes) : ofBuffer (toBuffer bytes) = bytes := by
  simp [ofBuffer, toBuffer]

@[simp] theorem toBuffer_ofBuffer (buffer : ByteArray) : toBuffer (ofBuffer buffer) = buffer := by
  simp [ofBuffer, toBuffer]

/-- The digit of a number below 16; letters are lower case. -/
def hexDigit (nibble : Nat) : Char :=
  if nibble < 10 then Char.ofNat ('0'.toNat + nibble) else Char.ofNat ('a'.toNat + (nibble - 10))

/-- Two lower-case hexadecimal digits for each byte. -/
def toHex (bytes : Bytes) : String :=
  String.ofList (bytes.flatMap fun byte => [hexDigit (byte.toNat / 16), hexDigit (byte.toNat % 16)])

/-- The value of a hexadecimal digit in either case. -/
def hexValue? (digit : Char) : Option Nat :=
  if '0' ≤ digit ∧ digit ≤ '9' then some (digit.toNat - '0'.toNat)
  else if 'a' ≤ digit ∧ digit ≤ 'f' then some (digit.toNat - 'a'.toNat + 10)
  else if 'A' ≤ digit ∧ digit ≤ 'F' then some (digit.toNat - 'A'.toNat + 10)
  else none

/-- Read pairs of hexadecimal digits. -/
def ofHexDigits? : List Char → Option Bytes
  | [] => some []
  | high :: low :: rest => do
      let high ← hexValue? high
      let low ← hexValue? low
      let bytes ← ofHexDigits? rest
      return UInt8.ofNat (16 * high + low) :: bytes
  | [_] => none

/-- Read a byte string written by `toHex`. -/
def ofHex? (text : String) : Option Bytes := ofHexDigits? text.toList

end Bytes

end PagedResults
