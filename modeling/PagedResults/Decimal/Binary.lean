import PagedResults.Decimal.Shortest

/-! # Binary floating-point numbers as decimals

A number is given by its bit pattern: sign, exponent and fraction. Its text is the shortest decimal
that reads back, written out in full. Two numbers compare as equal when they have the same value:
zero has two patterns, and a pattern that is not a number equals nothing.
-/

namespace PagedResults.Decimal

/-- The widths of the fields of a pattern. -/
structure BinaryFormat where
  fractionBits : Nat
  exponentBits : Nat
deriving DecidableEq, Repr

namespace BinaryFormat

def single : BinaryFormat := ⟨23, 8⟩

def double : BinaryFormat := ⟨52, 11⟩

variable (format : BinaryFormat)

def fraction (pattern : Nat) : Nat := pattern % Nat.pow 2 format.fractionBits

def exponent (pattern : Nat) : Nat :=
  pattern / Nat.pow 2 format.fractionBits % Nat.pow 2 format.exponentBits

def isNegative (pattern : Nat) : Bool :=
  pattern / Nat.pow 2 (format.fractionBits + format.exponentBits) % 2 == 1

/-- All exponent bits are set: the pattern is infinite or not a number. -/
def isSpecial (pattern : Nat) : Bool :=
  format.exponent pattern == Nat.pow 2 format.exponentBits - 1

def isNaN (pattern : Nat) : Bool := format.isSpecial pattern && format.fraction pattern != 0

def isZero (pattern : Nat) : Bool := format.exponent pattern == 0 && format.fraction pattern == 0

/-- The interval around the magnitude of a finite number that is not zero. Below a power of two the
spacing is half as wide as above it. -/
def neighbourhood (pattern : Nat) : Neighbourhood :=
  let fraction := format.fraction pattern
  let exponent := format.exponent pattern
  let significand := if exponent = 0 then fraction else Nat.pow 2 format.fractionBits + fraction
  let bias := Nat.pow 2 (format.exponentBits - 1) - 1 + format.fractionBits
  let up := Nat.pow 2 (max exponent 1 - bias)
  let down := Nat.pow 2 (bias - max exponent 1)
  let below := if fraction = 0 ∧ 1 < exponent then 1 else 2
  { value := 4 * significand * up
    low := (4 * significand - below) * up
    high := (4 * significand + 2) * up
    scale := 4 * down
    closed := significand % 2 == 0 }

/-- The text of a magnitude. -/
def magnitude (pattern : Nat) : List Char :=
  if format.isSpecial pattern then ['i', 'n', 'f']
  else if format.isZero pattern then ['0']
  else ((format.neighbourhood pattern).shortest?.map Numeral.positional).getD []

/-- The text of a number. -/
def text (pattern : Nat) : List Char :=
  if format.isNaN pattern then ['N', 'a', 'N']
  else if format.isNegative pattern then '-' :: format.magnitude pattern
  else format.magnitude pattern

/-- Whether two patterns have the same value. -/
def agree (left right : Nat) : Bool :=
  !format.isNaN left && !format.isNaN right &&
    (left == right || (format.isZero left && format.isZero right))

end BinaryFormat

end PagedResults.Decimal
