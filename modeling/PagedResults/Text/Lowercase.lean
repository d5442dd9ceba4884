import PagedResults.Text.CaseTable

/-! # Lower case

Every character is replaced by its lower-case form. Two characters need more than a table: the dotted
capital I becomes two characters, and a capital sigma becomes a final sigma at the end of a word, that
is after a letter and not before one.
-/

namespace PagedResults.Text

/-- Whether a character lies in one of the ranges. -/
def inRanges (ranges : List (Nat × Nat)) (char : Char) : Bool :=
  ranges.any fun (first, last) => first ≤ char.toNat && char.toNat ≤ last

def isCased (char : Char) : Bool := inRanges casedRanges char

def isCaseIgnorable (char : Char) : Bool := inRanges caseIgnorableRanges char

/-- Whether a run of upper-case characters holds this one. -/
def CaseRun.contains (run : CaseRun) (char : Char) : Bool :=
  run.first ≤ char.toNat && char.toNat ≤ run.last && (char.toNat - run.first) % run.step == 0

/-- The lower-case form of a character on its own. -/
def lowerChar (char : Char) : List Char :=
  if char = 'İ' then ['i', '\u0307']
  else
    match lowerCaseRuns.find? (·.contains char) with
    | some run => [Char.ofNat (char.toNat + run.shift).toNat]
    | none => [char]

/-- Whether a letter comes next, apart from characters that do not count. -/
def meetsLetter (chars : List Char) : Bool :=
  match chars.dropWhile isCaseIgnorable with
  | [] => false
  | char :: _ => isCased char

/-- Lower-case the rest of a text of which `before` precedes, nearest character first. -/
def lowerAfter (before : List Char) : List Char → List Char
  | [] => []
  | char :: rest =>
      let lower :=
        if char = 'Σ' then
          if meetsLetter before && !meetsLetter rest then ['ς'] else ['σ']
        else lowerChar char
      lower ++ lowerAfter (char :: before) rest

/-- The lower-case form of a text. -/
def lower (text : List Char) : List Char := lowerAfter [] text

end PagedResults.Text
