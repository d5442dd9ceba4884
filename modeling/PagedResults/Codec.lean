import PagedResults.Bytes.LittleEndian
import PagedResults.Failure
import PagedResults.Text.Utf8
import PagedResults.Text.Quoted

/-! # Binary encoding of messages

A codec writes values of a type as bytes and reads them back from the front of a byte string. Numbers
are little-endian words of fixed width, truth values and option tags are one byte, alternatives begin
with their number as a word of four bytes, and lists and byte strings with their length as a word of
eight bytes. Reading stops at the first fault. A reader sets memory aside for as many elements as a length
announces before it looks at the first of them; where these would take more than `Bytes.capacity`, it halts. That
a machine may run out of memory before that is left out.
-/

namespace PagedResults

/-- How many bytes a value of a type takes in memory as an element of a list. -/
class Layout (α : Type) where
  size : Nat

namespace Layout

variable {α β : Type}

instance : Layout UInt8 := ⟨1⟩

-- a text and a list are the place, the number and the room of what they hold

instance : Layout String := ⟨24⟩

instance : Layout (List α) := ⟨24⟩

instance [Layout α] [Layout β] : Layout (α × β) := ⟨size α + size β⟩

/-- No element of a list in a message takes more than two texts do. -/
def widest : Nat := size (String × String)

end Layout

/-- Why a byte string is not the encoding of a value. -/
inductive DecodeError where
  /-- The bytes end where `additional` more are needed. -/
  | unexpectedEnd (additional : Nat)
  /-- A truth value is neither 0 nor 1. -/
  | invalidBoolean (byte : Nat)
  /-- The number of an alternative is above the last one of its type. -/
  | unexpectedVariant (typeName : String) (last found : Nat)
  /-- A text is not UTF-8. -/
  | invalidText (cause : Utf8.Error)
deriving DecidableEq, Repr

/-- The error in words. -/
def DecodeError.message : DecodeError → String
  | .unexpectedEnd additional => s!"UnexpectedEnd \x7b additional: {additional} \x7d"
  | .invalidBoolean byte => s!"InvalidBooleanValue({byte})"
  | .unexpectedVariant typeName last found =>
      s!"UnexpectedVariant \x7b type_name: {Text.quoted typeName}, allowed: Range \x7b min: 0, max: {last} \x7d, found: {found} \x7d"
  | .invalidText ⟨validUpTo, some length⟩ =>
      s!"Utf8 \x7b inner: Utf8Error \x7b valid_up_to: {validUpTo}, error_len: Some({length}) \x7d \x7d"
  | .invalidText ⟨validUpTo, none⟩ =>
      s!"Utf8 \x7b inner: Utf8Error \x7b valid_up_to: {validUpTo}, error_len: None \x7d \x7d"

/-- Takes a value from the front of a byte string and leaves the rest. -/
abbrev Reader (α : Type) := StateT Bytes (Except (Failure DecodeError)) α

namespace Reader

variable {α : Type}

def fail (error : DecodeError) : Reader α := fun _ => .error (.error error)

def halt (reason : Halt) : Reader α := fun _ => .error (.halt reason)

/-- Exactly `count` bytes. -/
def take (count : Nat) : Reader Bytes := fun input =>
  let (front, rest) := input.splitAt count
  if front.length = count then .ok (front, rest)
  else .error (.error (.unexpectedEnd (count - front.length)))

/-- A word of `width` bytes. -/
def word (width : Nat) : Reader Nat := LittleEndian.read <$> take width

/-- The length of a list, for which memory is set aside: `size` bytes for each element. -/
def length (size : Nat) : Reader Nat := do
  let length ← word 8
  if Bytes.capacity < length * size then halt .capacityOverflow else return length

/-- The number of an alternative of a type, and then what the alternative with this number reads. -/
def choice (typeName : String) (alternatives : List (Reader α)) : Reader α := do
  let found ← word 4
  match alternatives[found]? with
  | some alternative => alternative
  | none => fail (.unexpectedVariant typeName (alternatives.length - 1) found)

/-- `count` items, one after the other. -/
def many (item : Reader α) : Nat → Reader (List α)
  | 0 => return []
  | count + 1 => do
      let first ← item
      let rest ← many item count
      return first :: rest

end Reader

/-- A way to write values of a type and to read them back. -/
structure Codec (α : Type) where
  write : α → Bytes
  read : Reader α
  /-- The value can be in memory: each list in it takes no more bytes than can be set aside. -/
  Storable : α → Prop

namespace Codec

variable {α β : Type}

/-- Encode a type through another one. -/
def through (codec : Codec α) (pack : β → α) (unpack : α → β) : Codec β where
  write value := codec.write (pack value)
  read := unpack <$> codec.read
  Storable value := codec.Storable (pack value)

/-- Two values, one after the other. -/
def pair (first : Codec α) (second : Codec β) : Codec (α × β) where
  write value := first.write value.1 ++ second.write value.2
  read := do
    let left ← first.read
    let right ← second.read
    return (left, right)
  Storable value := first.Storable value.1 ∧ second.Storable value.2

/-- A number below `256 ^ width`. -/
def word (width : Nat) : Codec Nat where
  write number := LittleEndian.write width number
  read := Reader.word width
  Storable _ := True

def uint32 : Codec UInt32 := (word 4).through UInt32.toNat UInt32.ofNat

def uint64 : Codec UInt64 := (word 8).through UInt64.toNat UInt64.ofNat

def int32 : Codec Int32 := uint32.through Int32.toUInt32 UInt32.toInt32

/-- One byte, 0 or 1. -/
def bool : Codec Bool where
  write value := [if value then 1 else 0]
  read := do
    let byte ← Reader.word 1
    if byte = 0 then return false
    else if byte = 1 then return true
    else Reader.fail (.invalidBoolean byte)
  Storable _ := True

/-- A byte string behind its length. -/
def bytes : Codec Bytes where
  write value := LittleEndian.write 8 value.length ++ value
  read := do
    let length ← Reader.length (Layout.size UInt8)
    Reader.take length
  Storable value := value.length * Layout.size UInt8 ≤ Bytes.capacity

/-- A text as its UTF-8 bytes behind their number. -/
def text : Codec String where
  write value := bytes.write (Utf8.encode value)
  read := do
    let content ← bytes.read
    match Utf8.decode content with
    | .ok value => return value
    | .error cause => Reader.fail (.invalidText cause)
  Storable value := bytes.Storable (Utf8.encode value)

/-- A list behind its length. -/
def list [Layout α] (item : Codec α) : Codec (List α) where
  write values := LittleEndian.write 8 values.length ++ values.flatMap item.write
  read := do
    let length ← Reader.length (Layout.size α)
    Reader.many item.read length
  Storable values := values.length * Layout.size α ≤ Bytes.capacity ∧ ∀ value ∈ values, item.Storable value

/-- A byte, 0 or 1, and for 1 the value. -/
def option (typeName : String) (item : Codec α) : Codec (Option α) where
  write
    | none => [0]
    | some value => 1 :: item.write value
  read := do
    let tag ← Reader.word 1
    if tag = 0 then return none
    else if tag = 1 then some <$> item.read
    else Reader.fail (.unexpectedVariant typeName 1 tag)
  Storable
    | none => True
    | some value => item.Storable value

/-- The number of an alternative, which precedes its fields. -/
def tag (number : Nat) : Bytes := LittleEndian.write 4 number

end Codec

end PagedResults
