import PagedResults.CommandLine.Arguments
import PagedResults.Session.OpenResult

/-! # The client program

The program runs one statement and prints its columns and rows, forwards or from the last row to the
first. It reports how many rows it printed, and the first error that ends it. A value without a text
halts the program inside the line of its row, of which the part before the value is printed.
-/

namespace PagedResults.CommandLine

/-- What a program has printed, and how it ended. -/
structure Report where
  /-- The lines of the standard output. -/
  output : List String := []
  /-- The beginning of a line of the standard output that the program did not finish. -/
  unfinished : String := ""
  /-- The lines of the standard error. -/
  notices : List String := []
  code : Nat := 0
deriving DecidableEq, Repr

/-- Lines with their ends. -/
def textOfLines (lines : List String) : String := String.join (lines.map (· ++ "\n"))

/-- The text of the standard output. -/
def Report.outputText (report : Report) : String := textOfLines report.output ++ report.unfinished

/-- The text of the standard error. -/
def Report.noticeText (report : Report) : String := textOfLines report.notices

/-- The line that gives the version. -/
def versionLine : String := "floe 0.1.0"

/-- What a program prints that is not run. -/
def Stop.report (explanation : List String) : Stop → Report
  | .usage => { code := 2 }
  | .help => { output := explanation }
  | .version => { output := [versionLine] }

namespace Client

/-- What the client is asked to do. -/
structure Job where
  address : Address
  sql : String
  fetchSize : UInt32 := 100
  maxRows : UInt64 := 0
  reverse : Bool := false
  user : String := ""
  password : String := ""
deriving DecidableEq, Repr

def grammar : Grammar where
  flags := ["reverse"]
  settings := [("fetch-size", fun text => (unsigned? UInt32.size text).isSome),
    ("max-rows", fun text => (natural? UInt64.size text).isSome),
    ("user", fun _ => true), ("password", fun _ => true)]
  operands := [fun text => (Address.ofText? text).isSome, fun _ => true]

/-- The lines that explain the arguments. -/
def help : List String := [
  "A client driver that pages database results over a multiplexed binary RPC connection",
  "",
  "Usage: floe_cli [OPTIONS] <ADDRESS> <SQL>",
  "",
  "Arguments:",
  "  <ADDRESS>  Server address",
  "  <SQL>      Statement to run",
  "",
  "Options:",
  "      --fetch-size <FETCH_SIZE>  Rows requested per page [default: 100]",
  "      --max-rows <MAX_ROWS>      Stop after this many rows; 0 reads everything [default: 0]",
  "      --reverse                  Print the result from the last row backwards",
  "      --user <USER>              [default: ]",
  "      --password <PASSWORD>      [default: ]",
  "  -h, --help                     Print help",
  "  -V, --version                  Print version"]

/-- What the arguments ask for. -/
def Job.ofArguments (arguments : List String) : Except Stop Job := do
  let arguments ← grammar.read arguments
  match arguments.operands with
  | [address, sql] =>
      match Address.ofText? address with
      | some address => return {
          address
          sql
          fetchSize := ((arguments.setting? "fetch-size").bind (unsigned? UInt32.size)).elim 100 UInt32.ofNat
          maxRows := ((arguments.setting? "max-rows").bind (natural? UInt64.size)).elim 0 UInt64.ofNat
          reverse := arguments.hasFlag "reverse"
          user := (arguments.setting? "user").getD ""
          password := (arguments.setting? "password").getD "" }
      | none => .error .usage
  | _ => .error .usage

def Job.connectionOptions (job : Job) : ConnectionOptions :=
  { address := job.address, user := job.user, password := job.password }

def Job.fetchOptions (job : Job) : FetchOptions where
  fetchSize := job.fetchSize
  maxRows := job.maxRows
  mode := if job.reverse then .scrollable else .forward

/-- The state of a run: what was printed, and the session. -/
abbrev Run (π : Type) := Op Error (Report × Session π)

variable {π : Type}

/-- Print a line. -/
def print (line : String) : Run π Unit :=
  modify fun (report, session) => ({ report with output := report.output ++ [line] }, session)

/-- Report a line. -/
def notify (line : String) : Run π Unit :=
  modify fun (report, session) => ({ report with notices := report.notices ++ [line] }, session)

variable [Peer π]

/-- Run an operation of the session. -/
def onSession {α : Type} (operation : Op Error (Session π) α) : Run π α :=
  operation.onPart (·.2) fun session state => (state.1, session)

/-- Run an operation on an open result. -/
def onResult {α : Type} (result : OpenResult) (operation : Op Error (OpenResult × Session π) α) :
    Run π (α × OpenResult) := fun (report, session) =>
  let (outcome, result, session) := operation (result, session)
  (outcome.map (·, result), report, session)

/-- The lines of the rows from the current one on, where `move` goes to the next, and the beginning of
the line that is not finished. Rows are counted in 64 bits. -/
def listRows (move : CursorCall) (printed : Nat) (lines : List String) (result : OpenResult)
    (session : Session π) :
    Outcome Error Nat × List String × String × OpenResult × Session π :=
  match result.cursor.current with
  | none => (.ok printed, lines.reverse, "", result, session)
  | some row =>
      let written := row.write
      match written.halt with
      | some reason => (Outcome.halt reason, lines.reverse, written.text, result, session)
      | none =>
          let lines := written.text :: lines
          if UInt64.size ≤ printed + 1 then
            (Outcome.halt .additionOverflow, lines.reverse, "", result, session)
          else
            match Cursor.perform move (result.cursor, session) with
            | (.error failure, cursor, session) =>
                (.error failure, lines.reverse, "", { result with cursor }, session)
            | (.ok _, cursor, session) =>
                listRows move (printed + 1) lines { result with cursor } session
termination_by UInt64.size - printed

/-- Print the rows from the current one on; the result is their number. -/
def printRows (move : CursorCall) (result : OpenResult) : Run π (Nat × OpenResult) :=
  fun (report, session) =>
    let (outcome, lines, unfinished, result, session) := listRows move 0 [] result session
    (outcome.map (·, result), { report with output := report.output ++ lines, unfinished }, session)

/-- Run the statement and print its result. An interrupted run prints no rows. -/
def carryOut (job : Job) (interrupted : Bool) : Run π Unit := do
  let result ← onSession (OpenResult.query job.sql job.fetchOptions)
  print (String.intercalate " | " (result.columns.map (·.name)))
  let (_, result) ← onResult result <| OpenResult.onCursor <|
    Cursor.perform (if job.reverse then .last else .next)
  let result ←
    if interrupted then do
      notify "interrupted after 0 rows"
      pure result
    else do
      let (printed, result) ← printRows (if job.reverse then .previous else .next) result
      notify s!"{printed} rows"
      pure result
  match ← (onResult result OpenResult.close).attempt with
  | .ok _ => pure ()
  | .error cause => notify s!"failed to close result. error: {cause.message}"
  onSession Session.close

/-- The end of a run. An error is reported; a halt is seen by the code alone. -/
def ended (report : Report) : Outcome Error Unit → Report
  | .ok () => report
  | .error (.error cause) =>
      { report with notices := report.notices ++ [s!"Error: {cause.description}"], code := 1 }
  | .error (.halt _) => { report with code := 101 }

/-- Run the program. `listener` is the server at each address. -/
def run (arguments : List String) (listener : Address → Option π) (interrupted : Bool) : Report :=
  match Job.ofArguments arguments with
  | .error stop => stop.report help
  | .ok job =>
      match listener job.address with
      | none => ended {} (Outcome.fail (Session.refused job.address))
      | some peer =>
          match Session.start job.connectionOptions { peer } with
          | (.error failure, _) => ended {} (.error failure)
          | (.ok _, session) =>
              let (outcome, report, _) := carryOut job interrupted ({}, session)
              ended report outcome

end Client

end PagedResults.CommandLine
