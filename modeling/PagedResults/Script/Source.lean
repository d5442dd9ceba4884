import PagedResults.PageSource
import PagedResults.Server.Table

/-! # Scripted page sources

A scripted source hands out the rows of a numbered series, as the server would, except where a script
lays down another answer. It keeps a record of what it was asked. Cursors can be studied on it apart
from any connection.
-/

namespace PagedResults

/-- What a page source is asked. -/
inductive SourceCall where
  | fetch (request : PageRequest)
  | closeResult (statement : UInt64) (limit : Duration)
  | closeStatement (statement : UInt64) (limit : Duration)
deriving DecidableEq, Repr

/-- A source whose answers are laid down. -/
structure ScriptedSource where
  /-- The number of rows of the series. -/
  total : Nat
  /-- The answers to the requests in order, where they differ. -/
  script : List (Option (Outcome Error Page)) := []
  /-- The answer to releasing a result. -/
  resultClosed : Outcome Error Unit := .ok ()
  /-- The answer to releasing a statement. -/
  statementClosed : Outcome Error Unit := .ok ()
  calls : List SourceCall := []
  journal : Journal := #[]

namespace ScriptedSource

/-- Record what the source is asked. -/
def record (call : SourceCall) (source : ScriptedSource) : ScriptedSource :=
  { source with calls := source.calls ++ [call] }

/-- The page of the series that a request asks for. -/
def seriesPage (request : PageRequest) (source : ScriptedSource) : Page :=
  let last := min (request.offset.toNat + request.size.toNat) source.total
  let first := min request.offset.toNat last
  ⟨UInt64.ofNat first, last = source.total, Table.seriesRows first (last - first)⟩

instance : PageSource ScriptedSource (Outcome Error Page) where
  start request source :=
    let answer := (source.script.headD none).getD (.ok (source.seriesPage request))
    (answer, { source with script := source.script.drop 1 }.record (.fetch request))
  finish request := Op.ofOutcome request
  closeResult statement limit := fun source =>
    (source.resultClosed, source.record (.closeResult statement limit))
  closeStatement statement limit := fun source =>
    (source.statementClosed, source.record (.closeStatement statement limit))
  note thread event source := { source with journal := source.journal.push (thread, event) }

end ScriptedSource

end PagedResults
