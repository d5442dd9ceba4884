import PagedResults.Text.Lowercase
import PagedResults.Text.ShownTable

/-! # Quoted text

A description shows a text between double quotes. Quotes, backslashes, tabs, line ends and the null
character are written with a backslash, and characters without a glyph of their own by their number.
-/

namespace PagedResults.Text

/-- A number in lower-case hexadecimal digits without leading zeros. -/
def hex (number : Nat) : List Char := Nat.toDigits 16 number

/-- A character inside quotes. -/
def quotedChar (char : Char) : List Char :=
  if char = '\x00' then ['\\', '0']
  else if char = '\t' then ['\\', 't']
  else if char = '\r' then ['\\', 'r']
  else if char = '\n' then ['\\', 'n']
  else if char = '"' then ['\\', '"']
  else if char = '\\' then ['\\', '\\']
  else if inRanges hiddenRanges char then ['\\', 'u', '\x7b'] ++ hex char.toNat ++ ['\x7d']
  else [char]

/-- A text between double quotes. -/
def quoted (text : String) : String := String.ofList ('"' :: text.toList.flatMap quotedChar ++ ['"'])

/-- A text that may be missing. -/
def quotedOption : Option String → String
  | some text => s!"Some({quoted text})"
  | none => "None"

end PagedResults.Text
