import PagedResults.CommandLine.Client
import PagedResults.CommandLine.Server

/-! # The command line

`client` runs a statement against the server of this process, and `server` checks the arguments of a
server. The server of this process listens at the address that the client asks for.
-/

open PagedResults PagedResults.CommandLine

/-- Print a report and end with its code. -/
def finish (report : Report) : IO UInt32 := do
  IO.print report.outputText
  IO.eprint report.noticeText
  return UInt32.ofNat report.code

def main (arguments : List String) : IO UInt32 := do
  match arguments with
  | "server" :: rest =>
      match Server.start rest fun _ => true with
      | .error report => finish report
      | .ok _ => return 0
  | "client" :: rest =>
      let catalog := Catalog.withTable "numbers" (Table.series 1000) {}
      finish (Client.run rest (fun _ => some ({ data := catalog.query } : Serving)) false)
  | _ => finish { code := 2 }
