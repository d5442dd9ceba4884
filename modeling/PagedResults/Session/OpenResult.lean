import PagedResults.Session

/-! # Results of a session

Running a statement opens a result: its columns and a cursor over its rows, which fetches further pages
through the session. A result that comes from a statement text owns its statement, and releases it when
it is closed; a result of a prepared statement leaves the statement open.
-/

namespace PagedResults

/-- A result that is open, where `ρ` is a request under way. -/
structure OpenResult (ρ : Type := Ticket) where
  statement : UInt64
  columns : List Column
  cursor : Cursor ρ

namespace OpenResult

variable {σ ρ : Type} [Client σ ρ]

/-- Open the result that a response begins. -/
def ofResponse (operation : String) (response : Response) (options : FetchOptions)
    (ownsStatement : Bool) : Op Error σ (OpenResult ρ) := do
  match response with
  | .resultSet statement columns first =>
      modify (Client.learnArity statement columns.length)
      let page ← Op.ofOutcome (Page.ofWire columns.length first)
      modify (PageSource.note .caller (.firstPage statement page.rows.length page.isLast))
      let cursor ← fun source => Cursor.open statement page options ownsStatement source
      return ⟨statement, columns, cursor⟩
  | other => Op.fail (Session.unexpected operation other)

/-- Run a statement that was prepared. -/
def execute (statement : UInt64) (parameters : List Value) (options : FetchOptions) :
    Op Error σ (OpenResult ρ) := do
  let request := .execute statement (Value.toCells parameters) options.effectiveFetchSize
    options.maxRows
  let response ← Client.call request options.timeout
  ofResponse "execute" response options false

/-- Prepare and run a statement. -/
def query (sql : String) (options : FetchOptions) : Op Error σ (OpenResult ρ) := do
  let request := .prepareAndExecute sql options.effectiveFetchSize options.maxRows
  let response ← Client.call request options.timeout
  ofResponse "prepare_and_execute" response options true

/-- Run an operation of the cursor. -/
def onCursor {α : Type} (operation : Op Error (Cursor ρ × σ) α) :
    Op Error (OpenResult ρ × σ) α :=
  operation.onPart (fun (result, source) => (result.cursor, source))
    fun (cursor, source) (result, _) => ({ result with cursor }, source)

/-- The next row, up to the end of the result. -/
def nextRow : Op Error (OpenResult ρ × σ) (Option Row) := onCursor Cursor.nextRow

/-- Release the result. -/
def close : Op Error (OpenResult ρ × σ) Unit := onCursor Cursor.close

end OpenResult

end PagedResults
