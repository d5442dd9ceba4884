/-! # Durations

A duration is a whole number of nanoseconds. Its text uses the largest of the units s, ms, µs and ns
that it reaches, with as many decimal places as it needs.
-/

namespace PagedResults

/-- A span of time. -/
structure Duration where
  nanoseconds : Nat
deriving DecidableEq, Repr, Inhabited

namespace Duration

def ofSeconds (seconds : Nat) : Duration := ⟨seconds * 1000000000⟩

def ofMilliseconds (milliseconds : Nat) : Duration := ⟨milliseconds * 1000000⟩

/-- The whole seconds of a duration. -/
def seconds (duration : Duration) : Nat := duration.nanoseconds / 1000000000

/-- What a duration has beyond its whole seconds. -/
def subsecond (duration : Duration) : Nat := duration.nanoseconds % 1000000000

/-- A deadline of no time at all waits for ever. -/
def isZero (duration : Duration) : Bool := duration.nanoseconds == 0

/-- A number of units that are `10 ^ places` nanoseconds long, with the places that are not zero. -/
def inUnit (nanoseconds places : Nat) (unit : String) : String :=
  let unitLength := Nat.pow 10 places
  let whole := nanoseconds / unitLength
  let digits := (toString (unitLength + nanoseconds % unitLength)).toList.drop 1
  match (digits.reverse.dropWhile (· == '0')).reverse with
  | [] => s!"{whole}{unit}"
  | fraction => s!"{whole}.{String.ofList fraction}{unit}"

/-- The duration in its largest unit. -/
def text (duration : Duration) : String :=
  if 1000000000 ≤ duration.nanoseconds then inUnit duration.nanoseconds 9 "s"
  else if 1000000 ≤ duration.nanoseconds then inUnit duration.nanoseconds 6 "ms"
  else if 1000 ≤ duration.nanoseconds then inUnit duration.nanoseconds 3 "µs"
  else inUnit duration.nanoseconds 0 "ns"

end Duration

end PagedResults
