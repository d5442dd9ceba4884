/-! # Decimal digits

A number is written with its highest digit first and without leading zeros. Writing a number with a
point `places` digits from the right pads it with zeros until a digit stands before the point.
-/

namespace PagedResults.Decimal

/-- The digits of a number, highest first; zero has one digit. -/
def digits (number : Nat) : List Nat :=
  if number < 10 then [number] else digits (number / 10) ++ [number % 10]

/-- The number that a list of digits stands for, highest first. -/
def ofDigits (digits : List Nat) : Nat := digits.foldl (fun number digit => 10 * number + digit) 0

/-- The character of a digit. -/
def digitChar (digit : Nat) : Char := Char.ofNat ('0'.toNat + digit)

/-- The digits of a number as characters. -/
def digitChars (number : Nat) : List Char := (digits number).map digitChar

/-- At least `width` digits: zeros stand in front of a number that has fewer. -/
def padded (width number : Nat) : List Char :=
  let digits := digitChars number
  List.replicate (width - digits.length) '0' ++ digits

/-- A number divided by `10 ^ places`, written out in full; at least one digit stands before the
point, and there is no point when there are no places. -/
def fixedPoint (places number : Nat) : List Char :=
  if places = 0 then digitChars number
  else
    let digits := padded (places + 1) number
    digits.take (digits.length - places) ++ '.' :: digits.drop (digits.length - places)

end PagedResults.Decimal
