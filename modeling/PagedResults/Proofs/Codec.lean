import Mathlib.Algebra.Group.Nat.Defs
import PagedResults.Codec.Length
import PagedResults.Proofs.Utf8

/-! # What is written is read back

A codec round-trips if it reads back every value that can be in memory, and leaves what follows. A value
takes in memory at most three times the bytes that it is written as, so that all values of short messages
are among these. The ways to build a codec from others keep both, which hence hold of a message once they
hold of the fields.
-/

namespace PagedResults

variable {α β : Type}

namespace Reader

/-- A word takes its own bytes and nothing of the rest. -/
theorem word_write {width number : Nat} (small : number < LittleEndian.wordCount width) (rest : Bytes) :
    word width (LittleEndian.write width number ++ rest) = .ok (number, rest) := by
  refine map_eq_ok.mpr ⟨_, take_eq_ok.mpr ⟨rfl, LittleEndian.length_write _ _⟩, ?_⟩
  rw [LittleEndian.read_write, Nat.mod_eq_of_lt small]

theorem length_write {number size : Nat} (bounded : number * size ≤ Bytes.capacity) (some_bytes : 0 < size)
    (rest : Bytes) : length size (LittleEndian.write 8 number ++ rest) = .ok (number, rest) := by
  have words : LittleEndian.wordCount 8 = UInt64.size := rfl
  have capacity : Bytes.capacity < UInt64.size := by decide
  have fewer := Nat.le_mul_of_pos_right number some_bytes
  exact length_eq_ok.mpr ⟨word_write (by omega) rest, bounded⟩

/-- The number of an alternative leads to what the alternative reads. -/
theorem choice_write {typeName : String} {alternatives : List (Reader α)} {alternative : Reader α}
    {number : Nat} (entry : alternatives[number]? = some alternative) (small : number < 2 ^ 32)
    (input : Bytes) :
    choice typeName alternatives (Codec.tag number ++ input) = alternative input := by
  have tagged : word 4 (Codec.tag number ++ input) = .ok (number, input) := word_write small input
  simp only [choice, bind, StateT.bind, Except.bind, tagged, entry]

/-- A byte that stands for a number. -/
theorem word_byte (byte : UInt8) (rest : Bytes) : word 1 (byte :: rest) = .ok (byte.toNat, rest) := by
  refine map_eq_ok.mpr ⟨[byte], take_eq_ok.mpr ⟨rfl, rfl⟩, ?_⟩
  rw [LittleEndian.read, LittleEndian.read, Nat.mul_zero, Nat.add_zero]

end Reader

namespace Codec

/-- Every value that can be in memory is read back, with what follows left, and a value of which three times
the bytes can be set aside can be in memory. -/
structure RoundTrips (codec : Codec α) : Prop where
  read_write : ∀ value rest, codec.Storable value → codec.read (codec.write value ++ rest) = .ok (value, rest)
  storable : ∀ value, 3 * (codec.write value).length ≤ Bytes.capacity → codec.Storable value

/-- An element of a list takes some bytes in memory, at most three times as many as it is written as. -/
structure Takes [Layout α] (codec : Codec α) : Prop where
  size_pos : 0 < Layout.size α
  size_le : ∀ value, Layout.size α ≤ 3 * (codec.write value).length

theorem RoundTrips.through {codec : Codec α} (roundTrips : codec.RoundTrips) {pack : β → α}
    {unpack : α → β} (inverse : ∀ value, unpack (pack value) = value) :
    (codec.through pack unpack).RoundTrips where
  read_write value _ storable :=
    Reader.map_eq_ok.mpr ⟨pack value, roundTrips.read_write _ _ storable, inverse value⟩
  storable value := roundTrips.storable (pack value)

theorem RoundTrips.pair {first : Codec α} {second : Codec β} (left : first.RoundTrips)
    (right : second.RoundTrips) : (first.pair second).RoundTrips where
  read_write := by
    rintro ⟨value, other⟩ rest ⟨one, two⟩
    change (first.pair second).read ((first.write value ++ second.write other) ++ rest) = _
    rw [List.append_assoc]
    refine Reader.bind_eq_ok.mpr ⟨value, _, left.read_write _ _ one, ?_⟩
    exact Reader.bind_eq_ok.mpr ⟨other, rest, right.read_write _ _ two, rfl⟩
  storable := by
    rintro ⟨value, other⟩ bounded
    change 3 * (first.write value ++ second.write other).length ≤ _ at bounded
    rw [List.length_append] at bounded
    exact ⟨left.storable value (by omega), right.storable other (by omega)⟩

/-! ## Numbers and flags -/

theorem uint32_roundTrips : uint32.RoundTrips where
  read_write value rest _ :=
    Reader.map_eq_ok.mpr ⟨value.toNat, Reader.word_write value.toNat_lt rest, UInt32.ofNat_toNat⟩
  storable _ _ := trivial

theorem uint64_roundTrips : uint64.RoundTrips where
  read_write value rest _ :=
    Reader.map_eq_ok.mpr ⟨value.toNat, Reader.word_write value.toNat_lt rest, UInt64.ofNat_toNat⟩
  storable _ _ := trivial

theorem int32_roundTrips : int32.RoundTrips :=
  uint32_roundTrips.through fun _ => rfl

theorem bool_roundTrips : bool.RoundTrips where
  read_write value rest _ := by
    cases value with
    | false => exact Reader.bind_eq_ok.mpr ⟨0, rest, Reader.word_byte 0 rest, rfl⟩
    | true => exact Reader.bind_eq_ok.mpr ⟨1, rest, Reader.word_byte 1 rest, rfl⟩
  storable _ _ := trivial

/-! ## What has a length -/

theorem length_bytes (value : Bytes) : (bytes.write value).length = 8 + value.length := by
  change (LittleEndian.write 8 value.length ++ value).length = _
  rw [List.length_append, LittleEndian.length_write]

theorem bytes_roundTrips : bytes.RoundTrips where
  read_write value rest storable := by
    change bytes.read ((LittleEndian.write 8 value.length ++ value) ++ rest) = _
    rw [List.append_assoc]
    have counted := Reader.length_write storable Nat.zero_lt_one (value ++ rest)
    refine Reader.bind_eq_ok.mpr ⟨value.length, value ++ rest, counted, ?_⟩
    exact Reader.take_eq_ok.mpr ⟨rfl, rfl⟩
  storable value bounded := by
    rw [length_bytes] at bounded
    change value.length * 1 ≤ _
    omega

theorem text_roundTrips : text.RoundTrips where
  read_write value rest storable := by
    refine Reader.bind_eq_ok.mpr ⟨Utf8.encode value, rest, bytes_roundTrips.read_write _ _ storable, ?_⟩
    rw [Utf8.decode_encode]
    rfl
  storable value := bytes_roundTrips.storable (Utf8.encode value)

theorem many_write {item : Codec α} (roundTrips : item.RoundTrips) {values : List α}
    (storable : ∀ value ∈ values, item.Storable value) (rest : Bytes) :
    Reader.many item.read values.length (values.flatMap item.write ++ rest) = .ok (values, rest) := by
  induction values with
  | nil => rfl
  | cons value values ih =>
    obtain ⟨here, others⟩ := List.forall_mem_cons.mp storable
    rw [List.flatMap_cons, List.append_assoc]
    refine Reader.bind_eq_ok.mpr ⟨value, _, roundTrips.read_write _ _ here, ?_⟩
    exact Reader.bind_eq_ok.mpr ⟨values, rest, ih others, rfl⟩

section Lists

variable [Layout α]

/-- In memory the items of a list take at most three times the bytes that they are written as. -/
theorem Takes.size_list_le {item : Codec α} (takes : item.Takes) (values : List α) :
    values.length * Layout.size α ≤ 3 * (values.flatMap item.write).length := by
  induction values with
  | nil => exact Nat.le_of_eq (Nat.zero_mul _)
  | cons value values ih =>
    have := takes.size_le value
    rw [List.flatMap_cons, List.length_append, List.length_cons, Nat.succ_mul]
    omega

theorem length_list (item : Codec α) (values : List α) :
    ((list item).write values).length = 8 + (values.flatMap item.write).length := by
  change (LittleEndian.write 8 values.length ++ values.flatMap item.write).length = _
  rw [List.length_append, LittleEndian.length_write]

omit [Layout α] in
theorem length_write_le (item : Codec α) {values : List α} {value : α} (member : value ∈ values) :
    (item.write value).length ≤ (values.flatMap item.write).length := by
  obtain ⟨before, after, rfl⟩ := List.append_of_mem member
  rw [List.flatMap_append, List.flatMap_cons, List.length_append, List.length_append]
  omega

theorem RoundTrips.list {item : Codec α} (roundTrips : item.RoundTrips) (takes : item.Takes) :
    (list item).RoundTrips where
  read_write := by
    rintro values rest ⟨bounded, storable⟩
    change (Codec.list item).read ((LittleEndian.write 8 values.length ++ values.flatMap item.write) ++ rest) = _
    rw [List.append_assoc]
    have counted := Reader.length_write bounded takes.size_pos (values.flatMap item.write ++ rest)
    exact Reader.bind_eq_ok.mpr ⟨values.length, _, counted, many_write roundTrips storable rest⟩
  storable values bounded := by
    rw [length_list] at bounded
    have size := takes.size_list_le values
    refine ⟨by omega, fun value member => roundTrips.storable value ?_⟩
    have part := length_write_le item member
    omega

end Lists

theorem RoundTrips.option {item : Codec α} (roundTrips : item.RoundTrips) (typeName : String) :
    (option typeName item).RoundTrips where
  read_write value rest storable := by
    cases value with
    | none => exact Reader.bind_eq_ok.mpr ⟨0, rest, Reader.word_byte 0 rest, rfl⟩
    | some value =>
      refine Reader.bind_eq_ok.mpr ⟨1, item.write value ++ rest, Reader.word_byte 1 _, ?_⟩
      exact Reader.map_eq_ok.mpr ⟨value, roundTrips.read_write _ _ storable, rfl⟩
  storable value bounded := by
    cases value with
    | none => trivial
    | some value =>
      refine roundTrips.storable value (Nat.le_trans ?_ bounded)
      exact Nat.mul_le_mul_left 3 (Nat.le_succ _)

/-! ## How much elements of lists take -/

theorem text_takes : text.Takes where
  size_pos := by decide
  size_le value := by
    change 24 ≤ 3 * (bytes.write (Utf8.encode value)).length
    rw [length_bytes]
    omega

theorem Takes.pair [Layout α] [Layout β] {first : Codec α} {second : Codec β} (left : first.Takes)
    (right : second.Takes) : (first.pair second).Takes where
  size_pos := Nat.add_pos_left left.size_pos _
  size_le := by
    rintro ⟨value, other⟩
    have one := left.size_le value
    have two := right.size_le other
    change Layout.size α + Layout.size β ≤ 3 * (first.write value ++ second.write other).length
    rw [List.length_append]
    omega

theorem list_takes [Layout α] (item : Codec α) : (list item).Takes where
  size_pos := Nat.succ_pos 23
  size_le values := by
    change 24 ≤ _
    rw [length_list]
    omega

end Codec

end PagedResults
