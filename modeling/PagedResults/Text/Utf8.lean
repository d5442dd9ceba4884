import PagedResults.Bytes

/-! # UTF-8

A character is one to four bytes: a lead byte, which fixes the number of bytes that follow and the
range of the first of them, and continuation bytes of six bits each. Overlong forms, surrogates and
numbers above `0x10ffff` are excluded by the range of the second byte. Decoding stops at the first
byte string that is no character; the error says how much text precedes it and how long the broken
start of a character is, or that the bytes ended inside a character.
-/

namespace PagedResults.Utf8

/-- The bytes of a character. -/
def encodeChar (char : Char) : Bytes :=
  let code := char.toNat
  if code < 0x80 then [UInt8.ofNat code]
  else if code < 0x800 then [UInt8.ofNat (0xc0 + code / 64), UInt8.ofNat (0x80 + code % 64)]
  else if code < 0x10000 then
    [UInt8.ofNat (0xe0 + code / 4096), UInt8.ofNat (0x80 + code / 64 % 64), UInt8.ofNat (0x80 + code % 64)]
  else
    [UInt8.ofNat (0xf0 + code / 262144), UInt8.ofNat (0x80 + code / 4096 % 64),
      UInt8.ofNat (0x80 + code / 64 % 64), UInt8.ofNat (0x80 + code % 64)]

/-- The bytes of a text. -/
def encode (text : String) : Bytes := text.toList.flatMap encodeChar

/-- Where a byte string stops being text. -/
structure Error where
  /-- The number of bytes before the fault. -/
  validUpTo : Nat
  /-- The length of the broken start of a character, or `none` when the bytes end inside one. -/
  brokenLength : Option Nat
deriving DecidableEq, Repr

/-- The fault in words. -/
def Error.message (error : Error) : String :=
  match error.brokenLength with
  | some length => s!"invalid utf-8 sequence of {length} bytes from index {error.validUpTo}"
  | none => s!"incomplete utf-8 byte sequence from index {error.validUpTo}"

/-- What a lead byte announces. -/
structure Lead where
  /-- The number of bytes that follow. -/
  following : Nat
  /-- The bits that the lead byte itself carries. -/
  bits : Nat
  /-- The least and the greatest byte that may come second. -/
  low : UInt8
  high : UInt8
deriving DecidableEq, Repr

/-- Read a lead byte. -/
def lead? (byte : UInt8) : Option Lead :=
  if byte < 0x80 then some ⟨0, byte.toNat, 0x80, 0xbf⟩
  else if byte < 0xc2 then none
  else if byte < 0xe0 then some ⟨1, byte.toNat - 0xc0, 0x80, 0xbf⟩
  else if byte = 0xe0 then some ⟨2, 0, 0xa0, 0xbf⟩
  else if byte = 0xed then some ⟨2, 0xd, 0x80, 0x9f⟩
  else if byte < 0xf0 then some ⟨2, byte.toNat - 0xe0, 0x80, 0xbf⟩
  else if byte = 0xf0 then some ⟨3, 0, 0x90, 0xbf⟩
  else if byte < 0xf4 then some ⟨3, byte.toNat - 0xf0, 0x80, 0xbf⟩
  else if byte = 0xf4 then some ⟨3, 4, 0x80, 0x8f⟩
  else none

/-- Read `following` continuation bytes after `taken` bytes, the first of them within a range. -/
def continued : (low high : UInt8) → (following taken bits : Nat) → Bytes → Except (Option Nat) Nat
  | _, _, 0, _, bits, _ => .ok bits
  | _, _, _ + 1, _, _, [] => .error none
  | low, high, following + 1, taken, bits, byte :: rest =>
      if low ≤ byte ∧ byte ≤ high then
        continued 0x80 0xbf following (taken + 1) (64 * bits + byte.toNat % 64) rest
      else .error (some taken)

/-- Read the character that begins with `first`, and count the bytes that it takes after it. -/
def scan (first : UInt8) (rest : Bytes) : Except (Option Nat) (Char × Nat) := do
  let some lead := lead? first | .error (some 1)
  let code ← continued lead.low lead.high lead.following 1 lead.bits rest
  return (Char.ofNat code, lead.following)

/-- Read all characters of a byte string that begins at `position`. -/
def decodeFrom (position : Nat) : Bytes → Except Error (List Char)
  | [] => .ok []
  | first :: rest =>
      match scan first rest with
      | .error brokenLength => .error ⟨position, brokenLength⟩
      | .ok (char, following) =>
          (decodeFrom (position + following + 1) (rest.drop following)).map (char :: ·)
termination_by bytes => bytes.length

/-- Read a byte string as text. -/
def decode (bytes : Bytes) : Except Error String := (decodeFrom 0 bytes).map String.ofList

end PagedResults.Utf8
