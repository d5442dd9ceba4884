import PagedResults.Bytes

/-! # Little-endian words

A word of `width` bytes holds a number below `wordCount width`, its lowest byte first. Writing a number
and reading it back gives its remainder modulo that bound, and reading and writing back gives the
same bytes.
-/

namespace PagedResults.LittleEndian

/-- The lowest `width` bytes of a number, lowest first. -/
def write : (width number : Nat) → Bytes
  | 0, _ => []
  | width + 1, number => UInt8.ofNat number :: write width (number / 256)

/-- The number that a word stands for. -/
def read : Bytes → Nat
  | [] => 0
  | byte :: rest => byte.toNat + 256 * read rest

@[simp] theorem length_write (width number : Nat) : (write width number).length = width := by
  induction width generalizing number with
  | zero => rfl
  | succ width ih => simp [write, ih]

/-- The number of words of a width. -/
def wordCount (width : Nat) : Nat := Nat.pow 256 width

private theorem wordCount_succ (width : Nat) : wordCount (width + 1) = 256 * wordCount width := Nat.mul_comm _ _

theorem read_lt (bytes : Bytes) : read bytes < wordCount bytes.length := by
  induction bytes with
  | nil => simp [read, wordCount]
  | cons byte rest ih =>
    have small : byte.toNat < 256 := byte.toNat_lt
    simp only [read, List.length_cons, wordCount_succ]
    omega

theorem read_write (width number : Nat) :
    read (write width number) = number % wordCount width := by
  induction width generalizing number with
  | zero => simp [read, write, wordCount, Nat.mod_one]
  | succ width ih =>
    have low : (UInt8.ofNat number).toNat = number % 256 := by simp
    rw [write, read, ih, low, wordCount_succ, Nat.mod_mul]

theorem write_read (bytes : Bytes) : write bytes.length (read bytes) = bytes := by
  induction bytes with
  | nil => rfl
  | cons byte rest ih =>
    have small : byte.toNat < 256 := byte.toNat_lt
    have high : (byte.toNat + 256 * read rest) / 256 = read rest := by omega
    have low : UInt8.ofNat (byte.toNat + 256 * read rest) = byte := by
      apply UInt8.toNat_inj.mp
      simp only [UInt8.toNat_ofNat']
      omega
    simp only [List.length_cons, read, write, high, low, ih]

end PagedResults.LittleEndian
