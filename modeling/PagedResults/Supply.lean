import PagedResults.Options
import PagedResults.PageSource

/-! # The supply of rows

A supply knows where the next page of a result starts, whether there is one, and the only request that
may be under way. Beginning a request does not fail; only its end may be an error. Pages are requested at
the offset behind the last accepted page, so that a failed request is repeated at the same offset. The
result ends with a page that is marked as the last, with an empty page, or when as many rows as the options
allow have been handed on.
-/

namespace PagedResults

/-- The paging state of one result, where `ρ` is a request under way. -/
structure Supply (ρ : Type) where
  statement : UInt64
  options : FetchOptions
  /-- The statement is released together with its result. -/
  ownsStatement : Bool
  nextOffset : UInt64
  /-- No page follows. -/
  exhausted : Bool := false
  /-- The number of rows handed on so far. -/
  surfaced : Nat := 0
  /-- The request under way and its offset. -/
  inFlight : Option (UInt64 × ρ) := none
  /-- The number of requests so far. -/
  fetches : Nat := 0
  closed : Bool := false

namespace Supply

variable {σ ρ : Type}

/-- The rows that may still be handed on; `none` for any number. -/
def room (supply : Supply ρ) : Option Nat :=
  if supply.options.maxRows = 0 then none
  else some (supply.options.maxRows.toNat - supply.surfaced)

/-- What a page contributes, and the supply after it. -/
def take (page : Page) (supply : Supply ρ) : Except Halt (List Row × Supply ρ) := do
  let nextOffset ← advance page.offset page.rows.length
  let rows := page.rows.take (supply.room.getD page.rows.length)
  let full := supply.room.any (· ≤ page.rows.length)
  return (rows, { supply with
    nextOffset
    exhausted := supply.exhausted || page.isLast || page.rows.isEmpty || full
    surfaced := supply.surfaced + rows.length })

/-- What is odd about a page. -/
def remarks (page : Page) (supply : Supply ρ) : List Event :=
  (if page.offset = supply.nextOffset then []
    else [.offsetMismatch supply.statement supply.nextOffset page.offset])
  ++ (if !page.isLast && page.rows.isEmpty then [.emptyPage supply.statement page.offset] else [])

/-- The request for the next page. -/
def request (supply : Supply ρ) : PageRequest :=
  ⟨supply.statement, supply.nextOffset, supply.options.effectiveFetchSize, supply.options.timeout⟩

/-- What a request came to. The thread that waits for a halted one learns no more than that. -/
def joined (offset : UInt64) : Outcome Error Page → Outcome Error Page
  | .error (.halt .endlessWait) => Outcome.halt .endlessWait
  | .error (.halt _) => Outcome.fail (.interrupted s!"fetch from offset {offset} panicked")
  | outcome => outcome

variable [PageSource σ ρ]

/-- Take in a page and hand on its rows. -/
def accept (page : Page) : Op Error (Supply ρ × σ) (List Row) := fun (supply, source) =>
  let source := PageSource.noteAll .caller (supply.remarks page) source
  match supply.take page with
  | .ok (rows, supply) => (.ok rows, supply, source)
  | .error reason => (Outcome.halt reason, supply, source)

/-- A supply over the first page of a result, and the rows of that page. -/
def ofFirst (statement : UInt64) (first : Page) (options : FetchOptions) (ownsStatement : Bool)
    (source : σ) : Outcome Error (List Row) × Supply ρ × σ :=
  accept first ({ statement, options, ownsStatement, nextOffset := first.offset }, source)

/-- Fail once the result is closed. -/
def checkOpen : Op Error (Supply ρ × σ) Unit := fun (supply, source) =>
  if supply.closed then (Outcome.fail .resultClosed, supply, source) else (.ok (), supply, source)

/-- Begin to fetch the next page, unless a request is under way or no page follows. -/
def prefetch : Supply ρ × σ → Supply ρ × σ := fun (supply, source) =>
  if supply.exhausted || supply.inFlight.isSome then (supply, source)
  else
    let source := PageSource.note .fetch (.fetching supply.statement supply.nextOffset) source
    let (request, source) := PageSource.start supply.request source
    let source := PageSource.note .caller (.prefetching supply.statement supply.nextOffset) source
    ({ supply with
        inFlight := some (supply.nextOffset, request)
        fetches := supply.fetches + 1 }, source)

/-- Wait for the request under way, if any. It is over whatever comes of it. -/
def wait : Op Error (Supply ρ × σ) (Option Page) := fun (supply, source) =>
  match supply.inFlight with
  | none => (.ok none, supply, source)
  | some (offset, request) =>
      let (outcome, source) := PageSource.finish request source
      ((joined offset outcome).map some, { supply with inFlight := none }, source)

/-- The rows of the request under way, if any. -/
def join : Op Error (Supply ρ × σ) (Option (List Row)) := do
  match ← wait with
  | none => return none
  | some page => some <$> accept page

/-- The rows of the next page, and none once no page follows. -/
def fetchNow : Op Error (Supply ρ × σ) (List Row) := do
  modify prefetch
  return (← join).getD []

/-- Note an event on the calling thread. -/
def note (event : Event) : Op Error (Supply ρ × σ) Unit :=
  modify fun (supply, source) => (supply, PageSource.note .caller event source)

/-- Run an operation of the source. -/
def ofSource {α : Type} (operation : Op Error σ α) : Op Error (Supply ρ × σ) α :=
  operation.onPart (·.2) fun source state => (state.1, source)

/-- Wait out the request under way and release the result, and the statement if it belongs to the
result. Both are released whatever comes of it, and the first error is returned. Closing again does
nothing. -/
def close : Op Error (Supply ρ × σ) Unit := do
  let (supply, _) ← get
  if supply.closed then return
  modify fun (supply, source) => ({ supply with closed := true }, source)
  match ← wait.attempt with
  | .ok _ => pure ()
  | .error cause => note (.fetchDiscarded cause)
  let limit := supply.options.timeout
  let result ← (ofSource (PageSource.closeResult supply.statement limit)).attempt
  let released ←
    if supply.ownsStatement then
      (ofSource (PageSource.closeStatement supply.statement limit)).attempt
    else pure (.ok ())
  note (.resultClosed supply.statement)
  Op.ofOutcome ((result *> released).mapError .error)

/-- Close a supply that nobody uses any more. -/
def drop : Op Error (Supply ρ × σ) Unit := do
  match ← close.attempt with
  | .ok () => return
  | .error cause => note (.closeFailed (← get).1.statement cause)

end Supply

end PagedResults
