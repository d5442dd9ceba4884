import PagedResults.Decimal.Digits

/-! # The shortest decimal that reads back

A number stored in a finite precision stands for all numbers that round to it. The shortest decimal
within that interval lies on the coarsest grid of powers of ten that has a point there. Of the two
grid points around the number the nearer one is taken, and the upper one when both are equally near.
All comparisons are exact.
-/

namespace PagedResults.Decimal

/-- A positive number `value / scale` and the interval of the numbers that round to it. -/
structure Neighbourhood where
  value : Nat
  low : Nat
  high : Nat
  scale : Nat
  /-- Whether both ends of the interval still round to the number. -/
  closed : Bool
deriving DecidableEq, Repr

/-- The number `coefficient * 10 ^ exponent`. -/
structure Numeral where
  coefficient : Nat
  exponent : Int
deriving DecidableEq, Repr

namespace Neighbourhood

/-- Whether `left ≤ right`, or `left < right` for an open interval. -/
def precedes (near : Neighbourhood) (left right : Nat) : Bool :=
  if near.closed then left ≤ right else left < right

/-- The better one of the two points around the number on the grid `10 ^ exponent`, when at least one
of them lies in the interval. -/
def onGrid? (near : Neighbourhood) (exponent : Int) : Option Numeral :=
  let up := Nat.pow 10 exponent.toNat
  let down := Nat.pow 10 (-exponent).toNat
  let unit := up * near.scale
  let value := near.value * down
  let below := value / unit
  let above := below + 1
  let contains (point : Nat) : Bool :=
    near.precedes (near.low * down) (point * unit) && near.precedes (point * unit) (near.high * down)
  if contains below && contains above then
    if value - below * unit < above * unit - value then some ⟨below, exponent⟩
    else some ⟨above, exponent⟩
  else if contains below then some ⟨below, exponent⟩
  else if contains above then some ⟨above, exponent⟩
  else none

/-- The shortest decimal in the interval. The search begins above the number and ends on a grid that
is finer than the interval. -/
def shortest? (near : Neighbourhood) : Option Numeral :=
  let top := (digits (near.value / near.scale)).length
  let span := top + (digits near.scale).length + 2
  (List.range span).findSome? fun (step : Nat) => near.onGrid? ((top : Int) - (step : Int))

end Neighbourhood

/-- A decimal written out in full, never with an exponent. -/
def Numeral.positional (numeral : Numeral) : List Char :=
  match numeral.exponent with
  | .ofNat zeros => digitChars numeral.coefficient ++ List.replicate zeros '0'
  | .negSucc places => fixedPoint (places + 1) numeral.coefficient

end PagedResults.Decimal
