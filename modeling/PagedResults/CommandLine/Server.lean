import PagedResults.CommandLine.Client
import PagedResults.Server.Serving
import PagedResults.Server.Workers

/-! # The server program

The program serves a catalog with one table of numbered rows, by a pool of workers that each serve one
connection at a time.
-/

namespace PagedResults.CommandLine.Server

/-- What the server is asked to do. -/
structure Job where
  address : Address
  rows : Nat := 1000
  workers : Nat := 4
deriving DecidableEq, Repr

def grammar : Grammar where
  flags := []
  settings := [("rows", fun text => (natural? UInt64.size text).isSome),
    ("workers", fun text => (natural? UInt64.size text).isSome)]
  operands := [fun text => (Address.ofText? text).isSome]

/-- The lines that explain the arguments. -/
def help : List String := [
  "A client driver that pages database results over a multiplexed binary RPC connection",
  "",
  "Usage: floe_server [OPTIONS] <ADDRESS>",
  "",
  "Arguments:",
  "  <ADDRESS>  Listen for new connection at address",
  "",
  "Options:",
  "      --rows <ROWS>        Rows in the generated \x60numbers\x60 table [default: 1000]",
  "      --workers <WORKERS>  Connections served concurrently [default: 4]",
  "  -h, --help               Print help",
  "  -V, --version            Print version"]

/-- What the arguments ask for. -/
def Job.ofArguments (arguments : List String) : Except Stop Job := do
  let arguments ← grammar.read arguments
  let number (name : String) (standard : Nat) : Nat :=
    ((arguments.setting? name).bind (natural? UInt64.size)).getD standard
  match arguments.operands.head?.bind Address.ofText? with
  | some address => return { address, rows := number "rows" 1000, workers := number "workers" 4 }
  | none => .error .usage

/-- The tables that are served. -/
def Job.catalog (job : Job) : Catalog := Catalog.withTable "numbers" (Table.series job.rows) {}

/-- The server's end of a new connection, or what the program prints when it cannot serve. The address
must be free, and there must be a worker. -/
def start (arguments : List String) (isFree : Address → Bool) : Except Report Serving :=
  match Job.ofArguments arguments with
  | .error stop => .error (stop.report help)
  | .ok job =>
      match (Workers.ofSize job.workers : Except Halt (Workers Unit)) with
      | .error _ => .error { code := 101 }
      | .ok _ =>
          if isFree job.address then .ok { data := job.catalog.query }
          else
            let cause := "Error: Io(Os \x7b code: 98, kind: AddrInUse, message: \"Address already in use\" \x7d)"
            .error { notices := [cause], code := 1 }

end PagedResults.CommandLine.Server
