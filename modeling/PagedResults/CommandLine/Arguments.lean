/-! # Command-line arguments

Arguments are read from left to right. An argument that begins with a hyphen is an option, unless it is
a hyphen alone or stands behind two hyphens alone; the others are taken in order. An option is given at
most once. Its value, if it has one, follows an equals sign or is the next argument, which must not look
like an option then. The first fault, or the first request for help or for the version, decides.
-/

namespace PagedResults.CommandLine

/-- Why no program is run. -/
inductive Stop where
  | usage
  | help
  | version
deriving DecidableEq, Repr

/-- What a program accepts. Values and operands are checked as soon as they are read. -/
structure Grammar where
  /-- The options without a value. -/
  flags : List String
  /-- The options with a value. -/
  settings : List (String × (String → Bool))
  /-- The operands, all of which must be given. -/
  operands : List (String → Bool)

/-- The arguments of a program by their meaning. -/
structure Arguments where
  flags : List String := []
  settings : List (String × String) := []
  operands : List String := []
deriving DecidableEq, Repr

namespace Arguments

/-- The value of an option. -/
def setting? (name : String) (arguments : Arguments) : Option String := arguments.settings.lookup name

/-- The option is given. -/
def hasFlag (name : String) (arguments : Arguments) : Bool := arguments.flags.contains name

end Arguments

/-- An argument that is taken for an option. -/
def looksLikeOption (argument : String) : Bool := argument.startsWith "-" && argument != "-"

/-- The name of an option, and the value behind an equals sign. -/
def splitOption (body : List Char) : String × Option String :=
  let name := body.takeWhile (· != '=')
  (String.ofList name, (body.drop name.length).tail?.map String.ofList)

namespace Grammar

/-- Take an operand. -/
def operand (grammar : Grammar) (argument : String) (arguments : Arguments) : Except Stop Arguments :=
  match grammar.operands[arguments.operands.length]? with
  | some isValid =>
      if isValid argument then
        .ok { arguments with operands := arguments.operands ++ [argument] }
      else .error .usage
  | none => .error .usage

/-- Take an option without a value. -/
def flag (grammar : Grammar) (name : String) (arguments : Arguments) : Except Stop Arguments :=
  if name = "help" then .error .help
  else if name = "version" then .error .version
  else if grammar.flags.contains name && !arguments.hasFlag name then
    .ok { arguments with flags := name :: arguments.flags }
  else .error .usage

/-- Take an option with its value. -/
def setting (grammar : Grammar) (name value : String) (arguments : Arguments) :
    Except Stop Arguments :=
  match grammar.settings.lookup name with
  | some isValid =>
      if isValid value && (arguments.setting? name).isNone then
        .ok { arguments with settings := (name, value) :: arguments.settings }
      else .error .usage
  | none => .error .usage

/-- Nothing may be missing at the end. -/
def finish (grammar : Grammar) (arguments : Arguments) : Except Stop Arguments :=
  if arguments.operands.length = grammar.operands.length then .ok arguments else .error .usage

/-- Take operands only. -/
def readOperands (grammar : Grammar) : List String → Arguments → Except Stop Arguments
  | [], arguments => grammar.finish arguments
  | argument :: rest, arguments => do grammar.readOperands rest (← grammar.operand argument arguments)

/-- Take arguments from left to right. -/
def readFrom (grammar : Grammar) : List String → Arguments → Except Stop Arguments
  | [], arguments => grammar.finish arguments
  | argument :: rest, arguments =>
      match argument.toList with
      | '-' :: '-' :: [] => grammar.readOperands rest arguments
      | '-' :: '-' :: body =>
          match splitOption body with
          | (name, some value) => do grammar.readFrom rest (← grammar.setting name value arguments)
          | (name, none) =>
              if (grammar.settings.lookup name).isSome then
                match rest with
                | value :: rest =>
                    if looksLikeOption value then .error .usage
                    else do grammar.readFrom rest (← grammar.setting name value arguments)
                | [] => .error .usage
              else do grammar.readFrom rest (← grammar.flag name arguments)
      | '-' :: 'h' :: _ => .error .help
      | '-' :: 'V' :: _ => .error .version
      | '-' :: _ :: _ => .error .usage
      | _ => do grammar.readFrom rest (← grammar.operand argument arguments)

/-- Read all arguments. -/
def read (grammar : Grammar) (arguments : List String) : Except Stop Arguments :=
  grammar.readFrom arguments {}

end Grammar

/-- The number that decimal digits stand for, if there is a digit and nothing else. -/
def digits? (digits : List Char) : Option Nat :=
  if digits ≠ [] ∧ digits.all Char.isDigit then
    some (digits.foldl (fun value digit => 10 * value + (digit.toNat - '0'.toNat)) 0)
  else none

/-- A number with an optional plus sign, below a bound. -/
def natural? (bound : Nat) (text : String) : Option Nat :=
  let number? := match text.toList with
    | '+' :: digits => digits? digits
    | digits => digits? digits
  number?.filter (· < bound)

/-- A number with an optional sign, where the number zero alone may be negative. -/
def unsigned? (bound : Nat) (text : String) : Option Nat :=
  match text.toList with
  | '-' :: digits => (digits? digits).filter (· = 0)
  | _ => natural? bound text

end PagedResults.CommandLine
