/-! # Blank characters

Blank are the characters that Unicode calls white space. Statements are trimmed and split at them.
-/

namespace PagedResults.Text

/-- The white space of Unicode. -/
def isBlank (char : Char) : Bool :=
  let code := char.toNat
  (9 ≤ code && code ≤ 13) || code == 0x20 || code == 0x85 || code == 0xa0 || code == 0x1680 ||
    (0x2000 ≤ code && code ≤ 0x200a) || code == 0x2028 || code == 0x2029 || code == 0x202f ||
    code == 0x205f || code == 0x3000

/-- Drop the characters with a property from the end of a text. -/
def dropWhileEnd (property : Char → Bool) (text : List Char) : List Char :=
  (text.reverse.dropWhile property).reverse

/-- Drop the blanks at both ends. -/
def trim (text : List Char) : List Char := dropWhileEnd isBlank (text.dropWhile isBlank)

/-- The longest runs of characters that are not blank, in order. -/
def words (text : List Char) : List (List Char) :=
  match _start : text.dropWhile isBlank with
  | [] => []
  | char :: rest =>
      (char :: rest.takeWhile fun char => !isBlank char) ::
        words (rest.dropWhile fun char => !isBlank char)
termination_by text.length
decreasing_by
  have shorter := (List.dropWhile_suffix isBlank (l := text)).length_le
  have inner := (List.dropWhile_suffix (fun char => !isBlank char) (l := rest)).length_le
  simp only [_start, List.length_cons] at shorter
  omega

end PagedResults.Text
