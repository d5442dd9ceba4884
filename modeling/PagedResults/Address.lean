/-! # Network addresses

An address is that of a host, with four octets or with eight groups and an optional zone, together
with a port. The text of a grouped address leaves out the longest run of at least two zero groups, the
first one if several are equally long. Reading accepts every such text and the usual longer forms.
-/

namespace PagedResults

/-- The address of a host and a port on it. -/
inductive Address where
  | v4 (octets : List Nat) (port : Nat)
  | v6 (groups : List Nat) (zone port : Nat)
deriving DecidableEq, Repr, Inhabited

namespace Address

/-- Takes something from the front of a text. -/
abbrev Scan (α : Type) := List Char → Option (α × List Char)

/-- The value of a digit in a base of at most 16. -/
def digit? (base : Nat) (char : Char) : Option Nat :=
  let value? :=
    if '0' ≤ char ∧ char ≤ '9' then some (char.toNat - '0'.toNat)
    else if 'a' ≤ char ∧ char ≤ 'f' then some (char.toNat - 'a'.toNat + 10)
    else if 'A' ≤ char ∧ char ≤ 'F' then some (char.toNat - 'A'.toNat + 10)
    else none
  value?.filter (· < base)

/-- A number up to `greatest`, written with at most `maxDigits` digits if there is such a bound. -/
def number (base greatest : Nat) (maxDigits : Option Nat) (leadingZeros : Bool) : Scan Nat :=
  fun input =>
    let digits := input.takeWhile fun char => (digit? base char).isSome
    let value := digits.foldl (fun value char => base * value + (digit? base char).getD 0) 0
    let short := maxDigits.all (digits.length ≤ ·)
    let plain := leadingZeros || digits.length ≤ 1 || digits.head? != some '0'
    if digits ≠ [] ∧ short ∧ plain ∧ value ≤ greatest then some (value, input.drop digits.length)
    else none

/-- One given character. -/
def given (expected : Char) : Scan Unit
  | char :: rest => if char = expected then some ((), rest) else none
  | [] => none

/-- What follows a separator; nothing separates the first part. -/
def after {α : Type} (separator : Char) (isFirst : Bool) (scan : Scan α) : Scan α := fun input =>
  if isFirst then scan input
  else do
    let (_, rest) ← given separator input
    scan rest

def octet : Scan Nat := number 10 255 (some 3) false

/-- Four octets with dots between them. -/
def octets : Scan (List Nat) := fun input => do
  let (a, rest) ← octet input
  let (b, rest) ← after '.' false octet rest
  let (c, rest) ← after '.' false octet rest
  let (d, rest) ← after '.' false octet rest
  return ([a, b, c, d], rest)

/-- As many groups as there are, at most `left`. Four octets may stand for the last two groups; the
flag says whether they did. -/
def groups : (left : Nat) → (isFirst : Bool) → List Char → List Nat × Bool × List Char
  | 0, _, input => ([], false, input)
  | left + 1, isFirst, input =>
      match if 1 ≤ left then after ':' isFirst octets input else none with
      | some (parts, rest) =>
          ([256 * parts.getD 0 0 + parts.getD 1 0, 256 * parts.getD 2 0 + parts.getD 3 0], true, rest)
      | none =>
          match after ':' isFirst (number 16 65535 (some 4) true) input with
          | some (group, rest) =>
              let (others, octets, rest) := groups left false rest
              (group :: others, octets, rest)
          | none => ([], false, input)

/-- Eight groups, or fewer with two colons in place of the missing zeros. -/
def host6 : Scan (List Nat) := fun input =>
  let (head, octets, rest) := groups 8 true input
  if head.length = 8 then some (head, rest)
  else if octets then none
  else do
    let (_, rest) ← given ':' rest
    let (_, rest) ← given ':' rest
    let (tail, _, rest) := groups (7 - head.length) true rest
    return (head ++ List.replicate (8 - head.length - tail.length) 0 ++ tail, rest)

def port : Scan Nat := after ':' false (number 10 65535 none true)

/-- A zone behind a per cent sign; zone 0 when there is none. -/
def zone : Scan Nat := fun input =>
  match after '%' false (number 10 4294967295 none true) input with
  | some found => some found
  | none => some (0, input)

/-- An address in either form. -/
def scan : Scan Address := fun input =>
  match (do
    let (host, rest) ← octets input
    let (port, rest) ← port rest
    return (Address.v4 host port, rest)) with
  | some found => some found
  | none => do
      let (_, rest) ← given '[' input
      let (host, rest) ← host6 rest
      let (zone, rest) ← zone rest
      let (_, rest) ← given ']' rest
      let (port, rest) ← port rest
      return (Address.v6 host zone port, rest)

/-- Read a text that is an address and nothing else. -/
def ofText? (text : String) : Option Address :=
  match scan text.toList with
  | some (address, []) => some address
  | _ => none

/-- The start and the length of the longest run of zeros, the first of equals. -/
def longestZeros (groups : List Nat) : Nat × Nat :=
  let runs := (List.range groups.length).map fun start =>
    (start, ((groups.drop start).takeWhile (· == 0)).length)
  runs.foldl (fun best run => if best.2 < run.2 then run else best) (0, 0)

/-- Groups in hexadecimal digits with colons between them. -/
def joinGroups (groups : List Nat) : String :=
  String.intercalate ":" (groups.map fun group => String.ofList (Nat.toDigits 16 group))

/-- The text of a grouped host. -/
def host6Text (groups : List Nat) : String :=
  if groups.take 5 = [0, 0, 0, 0, 0] ∧ groups.getD 5 0 = 65535 then
    let high := groups.getD 6 0
    let low := groups.getD 7 0
    s!"::ffff:{high / 256}.{high % 256}.{low / 256}.{low % 256}"
  else
    let (start, length) := longestZeros groups
    if 1 < length then
      s!"{joinGroups (groups.take start)}::{joinGroups (groups.drop (start + length))}"
    else joinGroups groups

/-- The text of an address. -/
def toText : Address → String
  | v4 octets port => String.intercalate "." (octets.map toString) ++ s!":{port}"
  | v6 groups 0 port => s!"[{host6Text groups}]:{port}"
  | v6 groups zone port => s!"[{host6Text groups}%{zone}]:{port}"

end Address

end PagedResults
